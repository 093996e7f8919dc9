import Criteria.Comparison
import Criteria.Proofs.Number.Lawful
import Criteria.Proofs.Number.Whole
import Criteria.Proofs.Text.Trimming

/-!
# A value beside its own text

A clause may compare a value with the text of that value as its literal. Integers and truth values
are equal to theirs, but not all texts: the literal is trimmed before it is read, and a number that
is no integer goes through a floating-point number. The text itself is read as an exact decimal, and
is not trimmed where it is read as a truth value or compared as a text.
-/
namespace Criteria

open Number (Decimals Digits Double Spells int64?)
open Text (trim trimmed lowercase isBlank)

namespace Value

theorem map_toLower_of_bool? {s : String} {b : Bool} (h : bool? s = some b) :
    s.toList.map Char.toLower = ['t', 'r', 'u', 'e'] ∨
      s.toList.map Char.toLower = ['f', 'a', 'l', 's', 'e'] := by
  rw [bool?] at h
  split at h
  · next htrue => exact .inl (beq_iff_eq.mp htrue)
  · split at h
    · next hfalse => exact .inr (beq_iff_eq.mp hfalse)
    · exact nomatch h

theorem isAlpha_of_bool? {s : String} {b : Bool} (h : bool? s = some b) {c : Char}
    (hc : c ∈ s.toList) : c.isAlpha := by
  have hlower : (['t', 'r', 'u', 'e'] ++ ['f', 'a', 'l', 's', 'e']).all Char.isLower := by decide
  rw [← Char.isLower_toLower_eq_isAlpha]
  apply List.all_eq_true.mp hlower
  have hmem := List.mem_map_of_mem (f := Char.toLower) hc
  obtain h | h := map_toLower_of_bool? h
  · exact List.mem_append_left _ (h ▸ hmem)
  · exact List.mem_append_right _ (h ▸ hmem)

/-- The name of a truth value has no white space around it. -/
theorem trimmed_of_bool? {s : String} {b : Bool} (h : bool? s = some b) : trimmed s = s := by
  have hletters : ∀ c ∈ s.toList, isBlank c = false := fun c hc =>
    Text.isBlank_of_isAlphanum (by rw [Char.isAlphanum, isAlpha_of_bool? h hc, Bool.true_or])
  rw [trimmed, Text.trim_eq_self hletters, String.ofList_toList]

section Literal

variable [Decimals] {value : Decimals.Carrier → ℚ} {s : String} {b : Bool} {d : Decimals.Carrier}

/-- The name of a truth value is no number. -/
theorem read?_of_bool? (hreads : Decimals.Reads value) (h : bool? s = some b) :
    (Decimals.read? s.toList : Option Decimals.Carrier) = none := by
  cases hs : s.toList with
  | nil => exact absurd (map_toLower_of_bool? h) (by rw [hs]; decide)
  | cons c rest =>
    have hc : c ∈ s.toList := hs ▸ List.mem_cons_self
    exact hreads.letter (isAlpha_of_bool? h hc) rest

theorem bool?_trimmed_of_read? (hreads : Decimals.Reads value)
    (h : Decimals.read? (trim s.toList) = some d) : bool? (trimmed s) = none := by
  by_contra hne
  obtain ⟨b, hb⟩ := Option.ne_none_iff_exists'.mp hne
  rw [← Text.toList_trimmed, read?_of_bool? hreads hb] at h
  exact nomatch h

theorem int64?_of_read?_eq_none (hreads : Decimals.Reads value) {cs : List Char}
    (h : (Decimals.read? cs : Option Decimals.Carrier) = none) : int64? cs = none := by
  by_contra hne
  obtain ⟨n, hn⟩ := Option.ne_none_iff_exists'.mp hne
  obtain ⟨d, hd, -⟩ := hreads.integer hn
  exact nomatch hd.symm.trans h

theorem ofLiteral_of_bool? (h : bool? (trimmed s) = some b) : ofLiteral s = bool b := by
  simp only [ofLiteral, Text.ofList_trim, h]

theorem ofLiteral_of_int64? (hreads : Decimals.Reads value) {n : Int64}
    (h : int64? (trim s.toList) = some n) : ofLiteral s = int n := by
  obtain ⟨d, hd, -⟩ := hreads.integer h
  simp only [ofLiteral, Text.ofList_trim, bool?_trimmed_of_read? hreads hd, h]

theorem ofLiteral_of_read? (hreads : Decimals.Reads value)
    (h : Decimals.read? (trim s.toList) = some d) (hint : int64? (trim s.toList) = none) :
    ofLiteral s = ((Decimals.toDouble? d).map float).getD (text (trimmed s)) := by
  simp only [ofLiteral, Text.ofList_trim, bool?_trimmed_of_read? hreads h, hint, h,
    Option.bind_some]
  cases Decimals.toDouble? d <;> rfl

theorem ofLiteral_of_none (hreads : Decimals.Reads value) (hbool : bool? (trimmed s) = none)
    (h : (Decimals.read? (trim s.toList) : Option Decimals.Carrier) = none) :
    ofLiteral s = text (trimmed s) := by
  simp only [ofLiteral, Text.ofList_trim, hbool, int64?_of_read?_eq_none hreads h, h,
    Option.bind_none]

end Literal

end Value

namespace Text

/-- Digits and signs are never trimmed away. -/
theorem trim_spells {i : Int} {cs : List Char} (h : Spells i cs) : trim cs = cs := by
  have hdigit {ds : List Char} (hds : Digits ds) : ∀ c ∈ ds, isBlank c = false := fun c hc =>
    isBlank_of_isAlphanum (by rw [Char.isAlphanum, hds.isDigit c hc, Bool.or_true])
  apply trim_eq_self
  cases h with
  | plain hdigits => exact hdigit hdigits
  | plus hdigits => exact List.forall_mem_cons.mpr ⟨by decide, hdigit hdigits⟩
  | minus hdigits => exact List.forall_mem_cons.mpr ⟨by decide, hdigit hdigits⟩

end Text

/-- A clause that compares with the text of a value. -/
def Clause.withText (c : Clause) (op : Comparator) (v : Value) : Clause :=
  { c with operator := some op, value := v.asText }

namespace Comparison

open Value (bool? ofLiteral)

/-- A truth value with white space around it. -/
structure PaddedTruth (s : String) : Prop where
  padded : trimmed s ≠ s
  truth : (bool? (trimmed s)).isSome

variable [Decimals]

/-- Whether a value is the same as its own text, as clauses that ask for equality and for difference
answer it. -/
structure Answers (c : Clause) (v : Value) (same : Bool) : Prop where
  equal : ofClause (c.withText .equal v) v = .answer same
  notEqual : ofClause (c.withText .notEqual v) v = .answer !same

/-- A text that cannot be compared with itself. -/
def Rejects (c : Clause) (s : String) : Prop :=
  ∀ op, ofClause (c.withText op (.text s)) (.text s) = .error (.incomparable c.method s s)

/-- The texts that are the same as what a literal of that text is read as. -/
inductive ReadsBack (s : String) : Prop where
  /-- A truth value without white space around it. -/
  | truth {b : Bool} (h : bool? s = some b)
  /-- An integer. -/
  | whole {n : Int64} (h : int64? (trim s.toList) = some n)
  /-- A number that is not lost on the way through a floating-point number. -/
  | number {d e : Decimals.Carrier} {x : Double} (h : Decimals.read? (trim s.toList) = some d)
    (hx : Decimals.toDouble? d = some x) (hback : Decimals.ofDouble? x = some e)
    (heq : Decimals.order d e = .eq)
  /-- A number that does not come back, but is spelled like the floating-point number. -/
  | spelled {d : Decimals.Carrier} {x : Double} (h : Decimals.read? (trim s.toList) = some d)
    (hx : Decimals.toDouble? d = some x)
    (hback : (Decimals.ofDouble? x : Option Decimals.Carrier) = none)
    (heq : lowercase s = lowercase x.text)
  /-- A number without a floating-point number, which is left a text. -/
  | kept {d : Decimals.Carrier} (h : Decimals.read? (trim s.toList) = some d)
    (hx : Decimals.toDouble? d = none)
  /-- Anything else without white space around it. -/
  | word (h : (Decimals.read? (trim s.toList) : Option Decimals.Carrier) = none)
    (hends : trimmed s = s)

section Answers

variable {c : Clause} {v : Value}

theorem ofClause_withText (op : Comparator) :
    ofClause (c.withText op v) v = values (c.withText op v) v (ofLiteral v.asText) := rfl

theorem Answers.unique {same other : Bool} (h : Answers c v same) (h' : Answers c v other) :
    same = other := by
  simpa [Report.answer] using h.equal.symm.trans h'.equal

theorem Answers.not_rejects {s : String} {same : Bool} (h : Answers c (.text s) same) :
    ¬ Rejects c s :=
  fun h' => nomatch h.equal.symm.trans (h' .equal)

theorem answers_of_order {expected : Value} {o : Ordering}
    (hliteral : ofLiteral v.asText = expected)
    (h : ∀ op, values (c.withText op v) v expected = .answer (op.holds o)) :
    Answers c v (o == .eq) where
  equal := by rw [ofClause_withText, hliteral, h]; rfl
  notEqual := by rw [ofClause_withText, hliteral, h]; rfl

theorem answers_of_unordered (event : Operator → Event) {expected : Value} {same : Bool}
    (hliteral : ofLiteral v.asText = expected)
    (h : ∀ op, values (c.withText op v) v expected = unordered event (some op) same) :
    Answers c v same where
  equal := by rw [ofClause_withText, hliteral, h]; rfl
  notEqual := by rw [ofClause_withText, hliteral, h]; rfl

theorem answers_bool (c : Clause) (b : Bool) : Answers c (.bool b) true := by
  have hliteral : ofLiteral (Value.bool b).asText = .bool b := by cases b <;> rfl
  rw [← beq_self_eq_true b]
  exact answers_of_unordered .unorderedBool hliteral fun op => rfl

end Answers

section Text

variable (c : Clause) {s : String}

theorem answers_truth {b : Bool} (h : bool? s = some b) : Answers c (.text s) true := by
  have hliteral : ofLiteral s = .bool b :=
    Value.ofLiteral_of_bool? (by rw [Value.trimmed_of_bool? h, h])
  rw [← beq_self_eq_true b]
  exact answers_of_unordered .unorderedBool hliteral fun op => by
    simp only [values, Value.asBool, h]
    rfl

theorem rejects_paddedTruth (h : PaddedTruth s) : Rejects c s := by
  obtain ⟨b, hb⟩ := Option.isSome_iff_exists.mp h.truth
  have hbool : bool? s = none := by
    by_contra hne
    obtain ⟨a, ha⟩ := Option.ne_none_iff_exists'.mp hne
    exact h.padded (Value.trimmed_of_bool? ha)
  intro op
  rw [ofClause_withText, Value.asText, Value.ofLiteral_of_bool? hb]
  simp only [values, Value.asBool, hbool]
  rfl

end Text

section Laws

variable {value : Decimals.Carrier → ℚ} (hvalued : Decimals.Valued value)
  (hreads : Decimals.Reads value) {s : String} {d : Decimals.Carrier}

include hreads

theorem ReadsBack.not_paddedTruth (h : ReadsBack s) : ¬PaddedTruth s := by
  intro hpadded
  obtain ⟨b, hb⟩ := Option.isSome_iff_exists.mp hpadded.truth
  have hnumber : (Decimals.read? (trim s.toList) : Option Decimals.Carrier) = none := by
    rw [← Text.toList_trimmed, Value.read?_of_bool? hreads hb]
  cases h with
  | truth h => exact hpadded.padded (Value.trimmed_of_bool? h)
  | whole h => exact nomatch h.symm.trans (Value.int64?_of_read?_eq_none hreads hnumber)
  | number h => exact nomatch h.symm.trans hnumber
  | spelled h => exact nomatch h.symm.trans hnumber
  | kept h => exact nomatch h.symm.trans hnumber
  | word _ hends => exact hpadded.padded hends

/-- A number that is no integer reads back if it is not lost. -/
theorem readsBack_number_iff (h : Decimals.read? (trim s.toList) = some d)
    (hint : int64? (trim s.toList) = none) : ReadsBack s ↔
      match Decimals.toDouble? d with
      | none => True
      | some x =>
        match (Decimals.ofDouble? x : Option Decimals.Carrier) with
        | some e => Decimals.order d e = .eq
        | none => lowercase s = lowercase x.text := by
  constructor
  · intro hs
    cases hs with
    | truth hb =>
      rw [← Text.toList_trimmed, Value.trimmed_of_bool? hb, Value.read?_of_bool? hreads hb] at h
      exact nomatch h
    | whole hn => exact nomatch hn.symm.trans hint
    | number hd hx hback heq =>
      obtain rfl := Option.some.inj (h.symm.trans hd)
      simp only [hx, hback, heq]
    | spelled hd hx hback heq =>
      obtain rfl := Option.some.inj (h.symm.trans hd)
      simp only [hx, hback, heq]
    | kept hd hx =>
      obtain rfl := Option.some.inj (h.symm.trans hd)
      simp only [hx]
    | word hnone => exact nomatch h.symm.trans hnone
  · intro hs
    split at hs
    · next hx => exact .kept h hx
    · next x hx =>
      split at hs
      · next hback => exact .number h hx hback hs
      · next hback => exact .spelled h hx hback hs

/-- A text that is no number reads back if nothing is trimmed away. -/
theorem readsBack_word_iff (h : (Decimals.read? (trim s.toList) : Option Decimals.Carrier) = none) :
    ReadsBack s ↔ trimmed s = s := by
  refine ⟨fun hs => ?_, .word h⟩
  cases hs with
  | truth hb => exact Value.trimmed_of_bool? hb
  | whole hn => exact nomatch hn.symm.trans (Value.int64?_of_read?_eq_none hreads h)
  | number hd => exact nomatch hd.symm.trans h
  | spelled hd => exact nomatch hd.symm.trans h
  | kept hd => exact nomatch hd.symm.trans h
  | word _ hends => exact hends

theorem answers_int (c : Clause) (n : Int64) : Answers c (.int n) true := by
  have hspells := Number.spells_toString n.toInt
  have hliteral : ofLiteral (Value.int n).asText = .int n :=
    Value.ofLiteral_of_int64? hreads (by
      rw [Value.asText, Text.trim_spells hspells, Number.int64?_toString])
  have ho : compare n.toInt n.toInt = .eq := Std.compare_self
  exact answers_of_order hliteral fun op => congrArg (fun o => Report.answer (op.holds o)) ho

theorem answers_word (c : Clause) (hbool : bool? (trimmed s) = none)
    (h : (Decimals.read? (trim s.toList) : Option Decimals.Carrier) = none) :
    ∃ same, Answers c (.text s) same ∧ (same = true ↔ ReadsBack s) := by
  have hliteral : ofLiteral s = .text (trimmed s) := Value.ofLiteral_of_none hreads hbool h
  refine ⟨lowercase s == lowercase (trimmed s),
    answers_of_unordered .unorderedText hliteral fun op => ?_, ?_⟩
  · simp only [values, Value.asDecimal, h]
    rfl
  · rw [beq_iff_eq, Text.lowercase_trimmed, readsBack_word_iff hreads h]

include hvalued

theorem answers_whole (c : Clause) {n : Int64} (h : int64? (trim s.toList) = some n) :
    Answers c (.text s) true := by
  obtain ⟨d, hd, hvalue⟩ := hreads.integer h
  have ho := hvalued.order_of_value_eq (hvalue.trans (hvalued.value_ofInt64 n).symm)
  refine answers_of_order (o := .eq) (Value.ofLiteral_of_int64? hreads h) fun op => ?_
  simp only [values, Value.asDecimal, hd, ho]
  rfl

theorem answers_number (c : Clause) (h : Decimals.read? (trim s.toList) = some d)
    (hint : int64? (trim s.toList) = none) :
    ∃ same, Answers c (.text s) same ∧ (same = true ↔ ReadsBack s) := by
  have hread := Value.ofLiteral_of_read? hreads h hint
  have hreadsBack := readsBack_number_iff hreads h hint
  cases hx : Decimals.toDouble? d with
  | none =>
    have hliteral : ofLiteral s = .text (trimmed s) := by rw [hread, hx]; rfl
    refine ⟨true, answers_of_order (o := .eq) hliteral fun op => ?_, iff_of_true rfl (.kept h hx)⟩
    simp only [values, Value.asDecimal, Text.toList_trimmed, Text.trim_trim, h,
      hvalued.order_of_value_eq rfl]
    rfl
  | some x =>
    have hliteral : ofLiteral s = .float x := by rw [hread, hx]; rfl
    rw [hx] at hreadsBack
    cases hback : (Decimals.ofDouble? x : Option Decimals.Carrier) with
    | some e =>
      refine ⟨Decimals.order d e == .eq, answers_of_order hliteral fun op => ?_, ?_⟩
      · simp only [values, Value.asDecimal, h, hback]
        rfl
      · simp only [hreadsBack, hback, beq_iff_eq]
    | none =>
      refine ⟨lowercase s == lowercase x.text,
        answers_of_unordered .unorderedText hliteral fun op => ?_, ?_⟩
      · simp only [values, Value.asDecimal, h, hback]
        rfl
      · simp only [hreadsBack, hback, beq_iff_eq]

/-- Every text is answered or rejected, and how says whether it reads back. -/
theorem answers_or_rejects (c : Clause) (s : String) :
    (PaddedTruth s ∧ Rejects c s) ∨
      ¬PaddedTruth s ∧ ∃ same, Answers c (.text s) same ∧ (same = true ↔ ReadsBack s) := by
  by_cases hpadded : PaddedTruth s
  · exact .inl ⟨hpadded, rejects_paddedTruth c hpadded⟩
  refine .inr ⟨hpadded, ?_⟩
  cases hbool : bool? (trimmed s) with
  | some b =>
    have hends : trimmed s = s := by
      by_contra hne
      exact hpadded ⟨hne, Option.isSome_iff_exists.mpr ⟨b, hbool⟩⟩
    rw [hends] at hbool
    exact ⟨true, answers_truth c hbool, iff_of_true rfl (.truth hbool)⟩
  | none =>
    cases hnumber : (Decimals.read? (trim s.toList) : Option Decimals.Carrier) with
    | none => exact answers_word hreads c hbool hnumber
    | some d =>
      cases hint : int64? (trim s.toList) with
      | some n => exact ⟨true, answers_whole hvalued hreads c hint, iff_of_true rfl (.whole hint)⟩
      | none => exact answers_number hvalued hreads c hnumber hint

end Laws

/-- Integers and truth values are equal to their own text. A text is if it reads back, cannot be
compared if it is a truth value with white space around it, and otherwise differs from itself. -/
theorem ofClause_ownText {value : Decimals.Carrier → ℚ} (hvalued : Decimals.Valued value)
    (hreads : Decimals.Reads value) (c : Clause) :
    (∀ n, Answers c (.int n) true) ∧ (∀ b, Answers c (.bool b) true) ∧
      ∀ s, (Answers c (.text s) true ↔ ReadsBack s) ∧ (Rejects c s ↔ PaddedTruth s) ∧
        (Answers c (.text s) false ↔ ¬ReadsBack s ∧ ¬PaddedTruth s) := by
  refine ⟨answers_int hreads c, answers_bool c, fun s => ?_⟩
  obtain ⟨hpadded, hrejects⟩ | ⟨hpadded, same, hanswers, hsame⟩ :=
    answers_or_rejects hvalued hreads c s
  · have hreadsBack : ¬ReadsBack s := fun h => h.not_paddedTruth hreads hpadded
    have hanswers (same : Bool) : ¬Answers c (.text s) same := fun h => h.not_rejects hrejects
    exact ⟨iff_of_false (hanswers true) hreadsBack, iff_of_true hrejects hpadded,
      iff_of_false (hanswers false) fun h => h.2 hpadded⟩
  · have hiff (other : Bool) : Answers c (.text s) other ↔ same = other :=
      ⟨hanswers.unique, fun h => h ▸ hanswers⟩
    refine ⟨(hiff true).trans hsame, iff_of_false hanswers.not_rejects hpadded, ?_⟩
    rw [hiff false, ← hsame, Bool.not_eq_true]
    exact (and_iff_left hpadded).symm

end Comparison

namespace Comparison

open Number (Decimal)

/-- A number that keeps its size and loses its last digit, a padded integer and a padded truth
value. -/
theorem ofClause_ownText_padded :
    let c : Clause := { keyword := "Zone", kind := .call .quantity, method := "Zone" }
    (Decimals.Valued Decimal.toRat ∧ Decimals.Reads Decimal.toRat) ∧
      Answers c (.text " +7 ") true ∧ Answers c (.text "2.50") true ∧ Rejects c " true " := by
  intro c
  let d : Decimal := ⟨false, 250, 2, by decide, by decide⟩
  let e : Decimal := ⟨false, 25, 1, by decide, by decide⟩
  have hwhole : int64? (trim " +7 ".toList) = some 7 := by decide +kernel
  have hread : Decimal.read? (trim "2.50".toList) = some d := by decide +kernel
  have hback : Decimal.ofDouble? d.toDouble = some e := by decide +kernel
  have hnumber : ReadsBack "2.50" := .number hread rfl hback (by decide)
  have hpadded : PaddedTruth " true " := ⟨by decide +kernel, by decide +kernel⟩
  obtain ⟨-, -, htext⟩ := ofClause_ownText Decimal.valued Decimal.reads c
  exact ⟨⟨Decimal.valued, Decimal.reads⟩, (htext _).1.mpr (.whole hwhole), (htext _).1.mpr hnumber,
    (htext _).2.1.mpr hpadded⟩

/-- A truth value and a word with white space around them, and a number with more digits than a
floating-point number keeps. -/
theorem not_answers_ownText :
    let c : Clause := { keyword := "Zone", kind := .call .quantity, method := "Zone" }
    ¬Answers c (.text " true ") true ∧ ¬Answers c (.text " town ") true ∧
      ¬Answers c (.text "0.1234567890123456789") true := by
  refine ⟨fun h => ?_, fun h => ?_, fun h => ?_⟩
  · exact absurd h.equal (by decide +kernel)
  · exact absurd h.equal (by decide +kernel)
  · exact absurd h.equal (by decide +kernel)

end Comparison

end Criteria
