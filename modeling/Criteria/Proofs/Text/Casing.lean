import Criteria.Proofs.Text.Lowering
import Criteria.Text.Search

/-!
# The case of ASCII letters

Small-letter forms look at the letters around a sigma, but never at the case of those that are
ASCII letters. So texts that are equal up to this case have the same small-letter form, and so have
the parts in front of their first points.
-/
namespace Criteria.Text

theorem toLower_of_not_ascii {c : Char} (hc : ¬ c.toNat < 128) : c.toLower = c := by
  have hval : 128 ≤ c.val := UInt32.le_iff_toNat_le.mpr (Nat.le_of_not_lt hc)
  have hupper : ¬ (c.val ≥ 'A'.val ∧ c.val ≤ 'Z'.val) := fun h =>
    absurd (UInt32.le_trans hval h.2) (by decide)
  rw [Char.toLower, dif_neg hupper]

/-- What does not tell capitals from small letters among the ASCII characters never does. -/
theorem apply_toLower {α : Type} {f : Char → α}
    (hf : ∀ n < 128, f (Char.ofNat n).toLower = f (Char.ofNat n)) (c : Char) :
    f c.toLower = f c := by
  by_cases hc : c.toNat < 128
  · simpa using hf c.toNat hc
  · rw [toLower_of_not_ascii hc]

theorem lowerChar_toLower (c : Char) : lowerChar c.toLower = lowerChar c :=
  apply_toLower (by decide +kernel) c

theorem isCased_toLower (c : Char) : isCased c.toLower = isCased c :=
  apply_toLower (by decide +kernel) c

theorem isCaseIgnorable_toLower (c : Char) : isCaseIgnorable c.toLower = isCaseIgnorable c :=
  apply_toLower (by decide +kernel) c

theorem toLower_eq_sigma (c : Char) : (c.toLower = 'Σ') = (c = 'Σ') :=
  apply_toLower (f := (· = 'Σ')) (by decide +kernel) c

theorem toLower_ne_point (c : Char) : (c.toLower != '.') = (c != '.') :=
  apply_toLower (f := (· != '.')) (by decide +kernel) c

theorem meetsCased_map_toLower (cs : List Char) :
    meetsCased (cs.map Char.toLower) = meetsCased cs := by
  have hignorable : isCaseIgnorable ∘ Char.toLower = isCaseIgnorable :=
    funext isCaseIgnorable_toLower
  have hcased : isCased ∘ Char.toLower = isCased := funext isCased_toLower
  rw [meetsCased, meetsCased, List.dropWhile_map, hignorable, List.head?_map, Option.map_map,
    hcased]

/-- Neither a character nor those around a sigma are told apart by the case of ASCII letters. -/
theorem lowerAfter_map_toLower (before cs : List Char) :
    lowerAfter (before.map Char.toLower) (cs.map Char.toLower) = lowerAfter before cs := by
  induction cs generalizing before with
  | nil => rfl
  | cons c rest ih =>
    rw [List.map_cons, lowerAfter, lowerAfter, ← List.map_cons, ih, lowerChar_toLower, lowerSigma,
      lowerSigma, meetsCased_map_toLower, meetsCased_map_toLower]
    simp only [toLower_eq_sigma]

/-- The text with small letters in the place of its ASCII capitals. -/
def folded (s : String) : String := String.ofList (s.toList.map Char.toLower)

theorem eqIgnoringAsciiCase_iff {s t : String} :
    eqIgnoringAsciiCase s t = true ↔ folded s = folded t := by
  rw [eqIgnoringAsciiCase, beq_iff_eq, folded, folded, String.ofList_inj]

theorem lowercase_folded (s : String) : lowercase (folded s) = lowercase s := by
  have hlist := lowerAfter_map_toLower [] s.toList
  rw [lowercase, lowercase, folded, String.toList_ofList, lowerList, lowerList]
  exact congrArg String.ofList hlist

/-- Texts that are equal up to the case of ASCII letters have one small-letter form. -/
theorem lowercase_congr {s t : String} (h : eqIgnoringAsciiCase s t = true) :
    lowercase s = lowercase t := by
  rw [← lowercase_folded s, eqIgnoringAsciiCase_iff.mp h, lowercase_folded]

theorem contains_point_congr {s t : String} (h : eqIgnoringAsciiCase s t = true) :
    s.toList.contains '.' = t.toList.contains '.' :=
  contains_point_of_lowercase_eq (lowercase_congr h)

/-- The truth values have no points in them. -/
theorem not_contains_point_truth {s : String}
    (h : eqIgnoringAsciiCase s "true" = true ∨ eqIgnoringAsciiCase s "false" = true) :
    s.toList.contains '.' = false := by
  rcases h with h | h
  · rw [contains_point_congr h]
    decide
  · rw [contains_point_congr h]
    decide

/-- The part in front of the first point is folded with the text. -/
theorem splitAt?_folded (s : String) :
    (splitAt? '.' (folded s)).map Prod.fst = (splitAt? '.' s).map fun p => folded p.1 := by
  have hpoint : (· != '.') ∘ Char.toLower = (· != '.') := funext toLower_ne_point
  rw [splitAt?, splitAt?, folded, String.toList_ofList, List.span_eq_takeWhile_dropWhile,
    List.span_eq_takeWhile_dropWhile, List.takeWhile_map, List.dropWhile_map, hpoint]
  cases s.toList.dropWhile (· != '.') with
  | nil => rfl
  | cons c rest => simp [folded]

/-- Of such texts both have a point or none, and the parts in front of it have one small-letter
form. -/
theorem lowercase_splitAt?_congr {s t : String} (h : eqIgnoringAsciiCase s t = true) :
    (splitAt? '.' s).map (fun p => lowercase p.1) = (splitAt? '.' t).map fun p => lowercase p.1 := by
  have hfront : ∀ s, (splitAt? '.' s).map (fun p => lowercase p.1) =
      ((splitAt? '.' (folded s)).map Prod.fst).map lowercase := by
    intro s
    rw [splitAt?_folded, Option.map_map]
    exact congrArg (Option.map · _) (funext fun p => (lowercase_folded p.1).symm)
  rw [hfront s, hfront t, eqIgnoringAsciiCase_iff.mp h]

end Criteria.Text
