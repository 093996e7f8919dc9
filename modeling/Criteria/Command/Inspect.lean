import Criteria.Evaluation
import Criteria.Numbering
import Criteria.Outline
import Criteria.Record

/-!
The commands that show how a condition is read: its tokens and its expressions, as a listing or as
JSON.
-/
namespace Criteria.Command

inductive Format where
  | text
  | json
deriving DecidableEq, Repr

/-- One token a line, with its number in front. -/
def listTokens (tokens : List String) : String :=
  Outline.joinLines (tokens.mapIdx fun i t => Text.padLeft 3 (toString i) ++ "  " ++ t)

/-- The tokens of a condition. -/
def showTokens [JsonFormat] (condition : String) : Format → String
  | .text => listTokens (tokenize condition)
  | .json => JsonFormat.pretty (.ofStrings (tokenize condition))

/-- The expressions of a condition as a registry reads it. -/
def showTree [Number.Decimals] [JsonFormat] {ω : Type} (r : Registry ω) (condition : String) :
    Format → String
  | .text => Outline.text (parse r.vocabulary condition)
  | .json => JsonFormat.pretty (Record.numberedTree
      (Numbering.ofTokens r.vocabulary (tokenize condition)) (parse r.vocabulary condition))

end Criteria.Command
