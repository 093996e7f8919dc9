import Criteria.Text.Category
import Criteria.Text.ScriptTable
import Criteria.Text.SharingTable

/-!
Scripts by name: the characters that belong to a script, and those that are used with it.
-/
namespace Criteria.Text

namespace Script

def set (s : Script) : CharSet := .ofRuns s.runs

def find? (name : String) : Option Script := scripts.find? (·.names.contains name)

/-- The short name. -/
def code (s : Script) : String := s.names.headD ""

/-- Characters whose use is stated one by one. -/
def shared : CharSet := .ofRuns (sharings.flatMap (·.runs))

/-- The characters that are used with the script: those that are shared with it, and its own where
nothing else is stated. -/
def extended (s : Script) : CharSet :=
  .diff s.set shared ∪
    .ofRuns ((sharings.filter (·.scripts.contains s.code)).flatMap (·.runs))

end Script

end Criteria.Text
