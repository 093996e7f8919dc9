import Criteria.Text.Lowercase
import Mathlib

/-!
# Small-letter forms

A character becomes one character or two, and how many does not depend on its neighbours: of a sigma
they only choose the form. So a longer text has a longer small-letter form, and a point comes from a
point only.
-/
namespace Criteria.Text

/-- The number of characters that a character becomes. -/
def lowerLength (c : Char) : Nat := if c = 'Σ' then 1 else (lowerChar c).length

theorem lowerChar_ne_nil (c : Char) : lowerChar c ≠ [] := by
  rw [lowerChar]
  split
  · simp
  · split
    · simp
    · split <;> simp

theorem lowerLength_pos (c : Char) : 0 < lowerLength c := by
  rw [lowerLength]
  split
  · exact Nat.one_pos
  · exact List.length_pos_iff.mpr (lowerChar_ne_nil c)

theorem length_lowerAfter (before cs : List Char) :
    (lowerAfter before cs).length = (cs.map lowerLength).sum := by
  induction cs generalizing before with
  | nil => rfl
  | cons c rest ih =>
    rw [lowerAfter, List.length_append, ih, List.map_cons, List.sum_cons, lowerLength]
    split <;> rfl

theorem length_lowerList_append (a b : List Char) :
    (lowerList (a ++ b)).length = (lowerList a).length + (lowerList b).length := by
  simp only [lowerList, length_lowerAfter, List.map_append, List.sum_append]

theorem length_lowerList_pos {cs : List Char} (h : cs ≠ []) : 0 < (lowerList cs).length := by
  obtain ⟨c, rest, rfl⟩ := List.exists_cons_of_ne_nil h
  rw [lowerList, length_lowerAfter, List.map_cons, List.sum_cons]
  exact Nat.add_pos_left (lowerLength_pos c) _

/-- All small letters of the table lie behind the point. -/
theorem point_lt_of_mem_caseRuns : ∀ r ∈ caseRuns, (46 : Int) < r.first + r.shift := by
  decide +kernel

theorem toLower_eq_point {c : Char} (hc : c.toNat < 128) : c.toLower = '.' ↔ c = '.' := by
  have h : ∀ n < 128, (Char.ofNat n).toLower = '.' ↔ Char.ofNat n = '.' := by decide +kernel
  simpa using h c.toNat hc

theorem ofNat_ne_point {n : Nat} (h : 46 < n) : Char.ofNat n ≠ '.' := by
  intro heq
  have hn : (if n.isValidChar then n else 0) = 46 :=
    (Char.toNat_ofNat n).symm.trans (congrArg Char.toNat heq)
  split at hn <;> omega

theorem point_mem_lowerChar {c : Char} : '.' ∈ lowerChar c ↔ c = '.' := by
  have hpoint : '.'.toNat = 46 := rfl
  rw [lowerChar]
  split
  · next hascii => rw [List.mem_singleton, eq_comm, toLower_eq_point hascii]
  · next hascii =>
    have hc : c ≠ '.' := fun h => hascii (by rw [h, hpoint]; omega)
    split
    · simp [hc]
    · split
      · next r hr =>
        have hlt := point_lt_of_mem_caseRuns r (List.mem_of_find?_eq_some hr)
        have hfirst := List.find?_some hr
        simp only [CaseRun.contains, Bool.and_eq_true, decide_eq_true_eq] at hfirst
        have hne : Char.ofNat (c.toNat + r.shift).toNat ≠ '.' := ofNat_ne_point (by omega)
        simp [hc, hne.symm]
      · rw [List.mem_singleton, eq_comm]

theorem point_mem_lowerAfter (before cs : List Char) : '.' ∈ lowerAfter before cs ↔ '.' ∈ cs := by
  induction cs generalizing before with
  | nil => rfl
  | cons c rest ih =>
    rw [lowerAfter, List.mem_append, ih, List.mem_cons]
    split
    · next hc =>
      have hsigma : '.' ≠ lowerSigma before rest := by
        rw [lowerSigma]
        split <;> decide
      simp [hc, hsigma]
    · rw [point_mem_lowerChar, eq_comm]

/-- Texts with one small-letter form have points in both or in none. -/
theorem contains_point_of_lowercase_eq {s t : String} (h : lowercase s = lowercase t) :
    s.toList.contains '.' = t.toList.contains '.' := by
  have hlists : lowerList s.toList = lowerList t.toList := by
    simpa [lowercase] using congrArg String.toList h
  rw [Bool.eq_iff_iff, List.contains_iff_mem, List.contains_iff_mem,
    ← point_mem_lowerAfter [] s.toList, ← point_mem_lowerAfter [] t.toList]
  exact iff_of_eq (congrArg ('.' ∈ ·) hlists)

end Criteria.Text
