import Criteria.Proofs.Text.Lowering
import Mathlib

/-!
# White space at the ends

Trimming keeps the middle of a text. What it takes away counts: a text that loses some of its ends
has another small-letter form. Letters are never taken away.
-/
namespace Criteria.Text

theorem trim_eq (cs : List Char) : trim cs = (cs.dropWhile isBlank).rdropWhile isBlank := rfl

theorem ofList_trim (s : String) : String.ofList (trim s.toList) = trimmed s := rfl

theorem toList_trimmed (s : String) : (trimmed s).toList = trim s.toList := String.toList_ofList

theorem exists_eq_append_trim (cs : List Char) : ∃ front back, cs = front ++ trim cs ++ back := by
  obtain ⟨front, hfront⟩ := List.dropWhile_suffix (l := cs) isBlank
  obtain ⟨back, hback⟩ := List.rdropWhile_prefix isBlank (cs.dropWhile isBlank)
  exact ⟨front, back, by rw [trim_eq, List.append_assoc, hback, hfront]⟩

/-- What is left has nothing more to trim. -/
theorem trim_trim (cs : List Char) : trim (trim cs) = trim cs := by
  have hfront : (trim cs).dropWhile isBlank = trim cs := by
    cases hrest : trim cs with
    | nil => rfl
    | cons c rest =>
      obtain ⟨back, hback⟩ := List.rdropWhile_prefix isBlank (cs.dropWhile isBlank)
      rw [← trim_eq, hrest] at hback
      have hfirst := List.head?_dropWhile_not isBlank cs
      rw [← hback] at hfirst
      exact List.dropWhile_cons_of_neg (by simpa using hfirst)
  rw [trim_eq (trim cs), hfront, trim_eq, List.rdropWhile_idempotent]

theorem trim_eq_self {cs : List Char} (h : ∀ c ∈ cs, isBlank c = false) : trim cs = cs := by
  have hfront : cs.dropWhile isBlank = cs := by
    rw [List.dropWhile_eq_self_iff]
    intro hl
    simp [h _ (List.getElem_mem hl)]
  have hback : cs.rdropWhile isBlank = cs := by
    rw [List.rdropWhile_eq_self_iff]
    intro hl
    simp [h _ (List.getLast_mem hl)]
  rw [trim_eq, hfront, hback]

theorem length_lowerList_eq_zero {cs : List Char} : (lowerList cs).length = 0 ↔ cs = [] := by
  refine ⟨fun h => ?_, fun h => by rw [h, lowerList_nil, List.length_nil]⟩
  by_contra hne
  exact Nat.ne_of_gt (length_lowerList_pos hne) h

/-- A text whose ends are lost is not the same text any more. -/
theorem lowercase_trimmed {s : String} : lowercase s = lowercase (trimmed s) ↔ trimmed s = s := by
  refine ⟨fun h => ?_, fun h => by rw [h]⟩
  obtain ⟨front, back, hs⟩ := exists_eq_append_trim s.toList
  have hlower : lowerList s.toList = lowerList (trim s.toList) := by
    simpa [lowercase, toList_trimmed] using congrArg String.toList h
  have hlength := congrArg List.length hlower
  rw [hs, length_lowerList_append, length_lowerList_append, ← hs] at hlength
  have hfront : front = [] := length_lowerList_eq_zero.mp (by omega)
  have hback : back = [] := length_lowerList_eq_zero.mp (by omega)
  rw [hfront, hback, List.nil_append, List.append_nil] at hs
  rw [trimmed, ← hs, String.ofList_toList]

/-- No letter or digit of ASCII is white space. -/
theorem isBlank_of_isAlphanum {c : Char} (h : c.isAlphanum) : isBlank c = false := by
  have hbounds : 48 ≤ c.toNat ∧ c.toNat ≤ 122 := by
    simp [Char.isAlphanum, Char.isAlpha, Char.isUpper, Char.isLower, Char.isDigit,
      UInt32.le_iff_toNat_le] at h
    omega
  simp only [isBlank, inRanges, blankRanges, List.any_cons, List.any_nil, Bool.or_false,
    Bool.or_eq_false_iff, Bool.and_eq_false_iff, decide_eq_false_iff_not]
  omega

end Criteria.Text
