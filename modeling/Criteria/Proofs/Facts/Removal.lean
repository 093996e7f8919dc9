import Criteria.Facts
import Criteria.Proofs.Text.Casing

/-!
# What is left of a fact that is taken out

Facts are set and removed under exactly their names, and looked up in any case. So one name may have
facts in several spellings, and taking one of them out leaves the others to be found. Taking out a
name hides it where no other spelling of it has a fact.
-/
namespace Criteria

namespace FactSheet

open Text (eqIgnoringAsciiCase)

/-- What a host does to its facts. -/
inductive Change where
  | set (name : String) (value : Json)
  | remove (name : String)

def Change.name : Change → String
  | set name _ => name
  | remove name => name

/-- The fact that a change leaves under its name. -/
def Change.fact? : Change → Option Json
  | set _ value => some value
  | remove _ => none

def apply (f : FactSheet) : Change → FactSheet
  | .set name value => f.set name value
  | .remove name => f.remove name

def after (f : FactSheet) (changes : List Change) : FactSheet := changes.foldl apply f

/-- What the changes leave under exactly a name: the last of them with this name says it, and else
the sheet that they began with. -/
def stored? (f : FactSheet) (changes : List Change) (name : String) : Option Json :=
  match changes.reverse.find? fun change => change.name == name with
  | some change => change.fact?
  | none => f.same? name

variable {f : FactSheet} {changes : List Change} {name : String}

theorem same?_remove (f : FactSheet) (name other : String) :
    (f.remove name).same? other = if name = other then none else f.same? other :=
  Table.find?_erase f.facts name other

theorem same?_apply (f : FactSheet) (change : Change) (name : String) :
    (f.apply change).same? name =
      if change.name = name then change.fact? else f.same? name := by
  cases change with
  | set key value => exact Table.find?_insert f.facts key name value
  | remove key => exact same?_remove f key name

theorem stored?_concat (f : FactSheet) (changes : List Change) (change : Change) (name : String) :
    f.stored? (changes ++ [change]) name =
      if change.name = name then change.fact? else f.stored? changes name := by
  rw [stored?, List.reverse_concat, List.find?_cons]
  by_cases h : change.name = name
  · simp [h]
  · rw [beq_eq_false_iff_ne.mpr h, if_neg h, stored?]

/-- A sheet has under each name what the changes left there. -/
theorem same?_after (f : FactSheet) (changes : List Change) (name : String) :
    (f.after changes).same? name = f.stored? changes name := by
  induction changes using List.reverseRecOn with
  | nil => rfl
  | append_singleton changes change ih =>
    rw [after, List.foldl_concat, ← after, same?_apply, stored?_concat, ih]

/-- A name has a fact just if it is the name of one of the entries. -/
theorem isSome_same?_iff : (f.same? name).isSome = true ↔ ∃ entry ∈ f.facts, entry.1 = name := by
  simp [same?, Table.find?]

theorem isSome_similar?_iff :
    (f.similar? name).isSome = true ↔
      ∃ other, eqIgnoringAsciiCase other name = true ∧ (f.same? other).isSome = true := by
  simp only [isSome_same?_iff, similar?, Option.isSome_map, List.find?_isSome]
  constructor
  · rintro ⟨entry, hentry, hname⟩
    exact ⟨entry.1, hname, entry, hentry, rfl⟩
  · rintro ⟨other, hname, entry, hentry, rfl⟩
    exact ⟨entry, hentry, hname⟩

/-- A name is found if it has a fact in some spelling. -/
theorem contains_iff :
    f.contains name = true ↔
      ∃ other, eqIgnoringAsciiCase other name = true ∧ (f.same? other).isSome = true := by
  rw [contains, get?, Option.isSome_or, Bool.or_eq_true, isSome_similar?_iff, or_iff_right_iff_imp]
  exact fun hsame => ⟨name, Text.eqIgnoringAsciiCase_iff.mpr rfl, hsame⟩

/-- A name is found under itself or in another spelling. -/
theorem contains_iff_or :
    f.contains name = true ↔ (f.same? name).isSome = true ∨
      ∃ other ≠ name, eqIgnoringAsciiCase other name = true ∧ (f.same? other).isSome = true := by
  rw [contains_iff]
  constructor
  · rintro ⟨other, hname, hother⟩
    by_cases h : other = name
    · exact .inl (h ▸ hother)
    · exact .inr ⟨other, h, hname, hother⟩
  · rintro (hsame | ⟨other, -, hother⟩)
    · exact ⟨name, Text.eqIgnoringAsciiCase_iff.mpr rfl, hsame⟩
    · exact ⟨other, hother⟩

/-- A name that was taken out is found only in another spelling. -/
theorem contains_remove_iff :
    (f.remove name).contains name = true ↔
      ∃ other ≠ name, eqIgnoringAsciiCase other name = true ∧ (f.same? other).isSome = true := by
  have hother : ∀ other ≠ name, (f.remove name).same? other = f.same? other := fun other hne => by
    rw [same?_remove, if_neg hne.symm]
  rw [contains_iff_or, same?_remove, if_pos rfl, Option.isSome_none]
  refine (or_iff_right Bool.false_ne_true).trans (exists_congr fun other => ?_)
  exact and_congr_right fun hne => by rw [hother other hne]

/-- Whatever was set and removed before, what is taken out of a name is what was left there under
exactly this name, and every other name keeps its fact. The name was found if it had a fact in any
spelling, and it still is if it has one in another spelling. So taking it out tells whether it was
found, and hides it, just if no other spelling of it has a fact. -/
theorem take_after (f : FactSheet) (changes : List Change) (name : String) :
    let before := f.after changes
    let taken? := (before.take name).1
    let afterwards := (before.take name).2
    let elsewhere := ∃ other ≠ name, eqIgnoringAsciiCase other name = true ∧
      (f.stored? changes other).isSome = true
    taken? = f.stored? changes name ∧
      afterwards.same? name = none ∧
      (∀ other ≠ name, afterwards.same? other = f.stored? changes other) ∧
      (before.contains name = true ↔ taken?.isSome = true ∨ elsewhere) ∧
      (afterwards.contains name = true ↔ elsewhere) ∧
      ((taken?.isSome = before.contains name ∧ afterwards.contains name = false) ↔
        ¬elsewhere) := by
  intro before taken? afterwards elsewhere
  have hsame : ∀ other, before.same? other = f.stored? changes other := same?_after f changes
  have helsewhere : elsewhere = ∃ other ≠ name, eqIgnoringAsciiCase other name = true ∧
      (before.same? other).isSome = true := by simp only [elsewhere, hsame]
  have hbefore : before.contains name = true ↔ taken?.isSome = true ∨ elsewhere := by
    rw [helsewhere]
    exact contains_iff_or
  have hafter : afterwards.contains name = true ↔ elsewhere := by
    rw [helsewhere]
    exact contains_remove_iff
  refine ⟨hsame name, ?_, fun other hne => ?_, hbefore, hafter, ?_⟩
  · exact (same?_remove before name name).trans (if_pos rfl)
  · rw [← hsame]
    exact (same?_remove before name other).trans (if_neg hne.symm)
  · rw [Bool.eq_iff_iff, hbefore, ← Bool.not_eq_true, hafter]
    exact ⟨And.right, fun h => ⟨(or_iff_left h).symm, h⟩⟩

/-- Another spelling is still found. -/
example :
    let before := empty.after [.set "Mode" (.text "upper"), .set "mode" (.text "lower")]
    (before.take "mode").1.isSome = true ∧ (before.take "mode").2.contains "mode" = true := by
  decide +kernel

/-- A fact is found in capitals, where there is nothing to take out. -/
theorem not_take_after :
    ¬∀ (changes : List Change) (name : String),
      (((empty.after changes).take name).1.isSome = (empty.after changes).contains name ∧
        ((empty.after changes).take name).2.contains name = false) := by
  intro h
  have hcapitals := h [.set "level" (.integer 72)] "LEVEL"
  revert hcapitals
  decide +kernel

end FactSheet

end Criteria
