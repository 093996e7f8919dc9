import Criteria.Text.Edition
import Criteria.Text.Segment

/-!
Properties of characters by name. Small letters and capitals, separators and an `is` in front make
no difference. A property is named alone, or by its kind and its value.
-/
namespace Criteria.Pattern

open Text (CharSet NamedSet Script Edition)

/-- A name in small letters without separators and without `is` in front. What is left of `isc` by
that stands for itself. -/
def plainName (cs : List Char) : String :=
  let plain (cs : List Char) : List Char :=
    (cs.filter fun c => c.toNat < 128 && c != ' ' && c != '_' && c != '-').map Char.toLower
  match cs with
  | i :: s :: rest =>
    if i.toLower = 'i' ∧ s.toLower = 's' then
      if plain rest = ['c'] then "isc" else String.ofList (plain rest)
    else String.ofList (plain cs)
  | _ => String.ofList (plain cs)

/-- The set of a name alone: a property, a category or a script. -/
def namedProperty? (name : String) : Option CharSet :=
  ((NamedSet.find? Text.properties name).or (NamedSet.find? Text.categories name)).or
    ((Script.find? name).map Script.set)

/-- The set of a value of one of the kinds of property. -/
def valuedProperty? (kind value : String) : Option CharSet :=
  match kind with
  | "gc" | "generalcategory" => NamedSet.find? Text.categories value
  | "sc" | "script" => (Script.find? value).map Script.set
  | "scx" | "scriptextensions" => (Script.find? value).map Script.extended
  | "age" => Edition.known? value
  | "gcb" | "graphemeclusterbreak" => NamedSet.find? Text.Cluster.roles value
  | "wb" | "wordbreak" => NamedSet.find? Text.Word.roles value
  | "sb" | "sentencebreak" => NamedSet.find? Text.Sentence.roles value
  | _ => none

/-- The text before and after the first `!=`. -/
def splitUnequal? : List Char → Option (List Char × List Char)
  | [] => none
  | '!' :: '=' :: rest => some ([], rest)
  | c :: rest => (splitUnequal? rest).map fun (before, after) => (c :: before, after)

/-- The text before and after the first `mark`. -/
def splitMark? (mark : Char) (cs : List Char) : Option (List Char × List Char) :=
  match cs.span (· != mark) with
  | (_, []) => none
  | (before, _ :: after) => some (before, after)

/-- The set that a property stands for, and whether its complement is meant. -/
def property? (cs : List Char) : Option (CharSet × Bool) :=
  let valued (p : List Char × List Char) := valuedProperty? (plainName p.1) (plainName p.2)
  match splitUnequal? cs, (splitMark? ':' cs).or (splitMark? '=' cs) with
  | some p, _ => (valued p).map (·, true)
  | none, some p => (valued p).map (·, false)
  | none, none => (namedProperty? (plainName cs)).map (·, false)

end Criteria.Pattern
