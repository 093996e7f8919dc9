import Criteria.Text.Search

/-!
Tables from names to values, in the order of the names and with each name once.
-/
namespace Criteria

/-- A list of named values. -/
abbrev Table (α : Type) := List (String × α)

namespace Table

variable {α : Type}

/-- Gives a name a value, in place of an earlier one. -/
def insert (name : String) (value : α) : Table α → Table α
  | [] => [(name, value)]
  | (key, old) :: rest =>
    match Text.order name key with
    | .lt => (name, value) :: (key, old) :: rest
    | .eq => (name, value) :: rest
    | .gt => (key, old) :: insert name value rest

/-- Takes a name out. -/
def erase (name : String) (t : Table α) : Table α := t.filter fun entry => entry.1 != name

/-- The value under exactly this name. -/
def find? (name : String) (t : Table α) : Option α :=
  (List.find? (fun entry => entry.1 == name) t).map Prod.snd

/-- A table from a list, in which the last value of a name counts. -/
def ofList (entries : List (String × α)) : Table α :=
  entries.foldl (fun t entry => t.insert entry.1 entry.2) []

@[simp] theorem insert_nil (name : String) (value : α) :
    Table.insert name value [] = [(name, value)] := rfl
@[simp] theorem erase_nil (name : String) : Table.erase name ([] : Table α) = [] := rfl
@[simp] theorem find?_nil (name : String) : Table.find? name ([] : Table α) = none := rfl

/-- A name has the value that it was given last. -/
theorem find?_insert (t : Table α) (name other : String) (value : α) :
    (t.insert name value).find? other = if name = other then some value else t.find? other := by
  induction t with
  | nil => by_cases ho : name = other <;> simp [find?, ho]
  | cons entry rest ih =>
    obtain ⟨key, old⟩ := entry
    rw [insert]
    cases h : Text.order name key with
    | lt => by_cases ho : name = other <;> simp [find?, ho]
    | eq =>
      obtain rfl := Text.order_eq_iff.mp h
      by_cases ho : name = other <;> simp [find?, ho]
    | gt =>
      have hne : name ≠ key := fun he => by simp [Text.order_eq_iff.mpr he] at h
      by_cases hk : key = other
      · subst hk
        simp [find?, hne]
      · simpa [find?, hk] using ih

/-- A name that is taken out has no value, and every other name has what it had. -/
theorem find?_erase (t : Table α) (name other : String) :
    (t.erase name).find? other = if name = other then none else t.find? other := by
  rw [find?, erase, List.find?_filter]
  by_cases ho : name = other
  · simp [ho]
  · rw [if_neg ho, find?]
    congr 2
    funext entry
    by_cases hkey : entry.1 = other
    · simp [hkey, Ne.symm ho]
    · simp [hkey]

end Table

end Criteria
