import Criteria.Proofs.Reading.Scanning

/-!
# Groups

Tokens in which all parentheses are closed are read inside a group as they are read on their own:
what they would leave at the root is left in the group. So a group around them holds their
expressions.
-/
namespace Criteria

namespace Reading

/-- Reads tokens. -/
def readAll (v : Vocabulary) (r : Reading) (ts : List String) : Reading :=
  (Piece.scan v ts).foldl (fun r p => r.step p.1) r

@[simp] theorem readAll_nil (v : Vocabulary) (r : Reading) : r.readAll v [] = r := by
  rw [readAll, Piece.scan_nil, List.foldl_nil]

theorem readAll_cons (v : Vocabulary) (r : Reading) (t : String) (ts : List String) :
    r.readAll v (t :: ts) =
      (r.step (Piece.first v t ts).1).readAll v (ts.drop (Piece.first v t ts).2) := by
  rw [readAll, Piece.scan_cons, List.foldl_cons]
  rfl

theorem parseTokens_eq (v : Vocabulary) (ts : List String) :
    parseTokens v ts = (start.readAll v ts).root := rfl

/-- Tokens in which all parentheses are closed are read on their own, whatever symbol that ends
clauses comes next. -/
theorem readAll_append {v : Vocabulary} {ts rest : List String} (hs : Shut ts) (hr : Behind rest)
    (r : Reading) : r.readAll v (ts ++ rest) = (r.readAll v ts).readAll v rest := by
  induction hn : ts.length using Nat.strong_induction_on generalizing ts r with
  | _ n ih =>
    cases ts with
    | nil => rw [List.nil_append, readAll_nil]
    | cons t ts =>
      have hts : Shut ts := hs.drop 1
      obtain ⟨halike, hsize⟩ := Piece.first_append (v := v) (t := t) hts hr
      rw [List.cons_append, readAll_cons, readAll_cons, halike, hsize,
        List.drop_append_of_le_length (Piece.first_whole t ts).1]
      refine ih _ ?_ (hts.drop _) _ rfl
      simp only [List.length_cons, List.length_drop] at hn ⊢
      omega

/-- A reading that goes on inside a group: what it would leave at the root is left in the group. -/
def within (f : Frame) (frames : List Frame) (root : List Expr) (r : Reading) : Reading :=
  { r with
    frames := r.frames ++ { f with children := f.children ++ r.root } :: frames
    root }

theorem openGroup_eq (r : Reading) :
    r.openGroup.clear = start.within ⟨r.join, r.negated, []⟩ r.frames r.root := rfl

theorem push_within (f : Frame) (frames : List Frame) (root : List Expr) (r : Reading) (e : Expr) :
    (r.within f frames root).push e = (r.push e).within f frames root := by
  rcases r with ⟨join?, negated, _ | ⟨g, gs⟩, es⟩ <;> simp [within, push]

theorem push_frames (r : Reading) (e : Expr) :
    (r.push e).frames.length = r.frames.length := by
  rcases r with ⟨join?, negated, _ | ⟨g, gs⟩, es⟩ <;> rfl

/-- A piece is read inside a group as on its own, unless it closes the group. -/
theorem step_within (f : Frame) (frames : List Frame) (root : List Expr) (r : Reading) (p : Piece)
    (hp : p = .closing → r.frames ≠ []) :
    (r.within f frames root).step p = (r.step p).within f frames root := by
  cases p with
  | closing =>
    obtain ⟨g, gs, hg⟩ := List.exists_cons_of_ne_nil (hp rfl)
    rcases r with ⟨join?, negated, gs', es⟩
    obtain rfl : gs' = g :: gs := hg
    have hpush := push_within f frames root ⟨join?, negated, gs, es⟩
    simp only [step, closeGroup, within, List.cons_append] at hpush ⊢
    cases g.children.isEmpty with
    | true => rfl
    | false => exact congrArg clear (hpush _)
  | clause c => exact congrArg clear (push_within f frames root r _)
  | join j => rfl
  | negation => rfl
  | opening => rfl
  | stray c => rfl
  | malformed token kind flaw => rfl
  | unrecognized token => rfl

/-- A piece that begins with a word neither opens nor closes a group. -/
theorem word_frames (v : Vocabulary) (t : String) (ts : List String) (r : Reading) :
    (r.step (Piece.word v t ts).1).frames.length = r.frames.length ∧
      (Piece.word v t ts).1 ≠ .closing := by
  have hclause : ∀ c, (r.step (.clause c)).frames.length = r.frames.length := fun c => push_frames r _
  rw [Piece.word]
  split
  · exact ⟨hclause _, by simp⟩
  · split
    · rw [Piece.call]
      split
      · exact ⟨rfl, by simp⟩
      · split
        · exact ⟨rfl, by simp⟩
        · exact ⟨hclause _, by simp⟩
    · exact ⟨rfl, by simp⟩

/-- The number of open groups follows the parentheses. -/
theorem step_frames (v : Vocabulary) (t : String) (ts : List String) (r : Reading)
    (h : closes [t] ≤ opens [t] + r.frames.length) :
    (r.step (Piece.first v t ts).1).frames.length + closes [t] = r.frames.length + opens [t] ∧
      ((Piece.first v t ts).1 = .closing → r.frames ≠ []) := by
  cases ht : Symbol.ofToken? t with
  | none =>
    obtain ⟨hframes, hne⟩ := word_frames v t ts r
    rw [Piece.first_word ht, hframes]
    refine ⟨by simp [opens_cons, closes_cons, ht], fun he => absurd he hne⟩
  | some s =>
    simp only [opens_cons, closes_cons, ht, opens_nil, closes_nil] at h ⊢
    cases s with
    | closeParen =>
      obtain ⟨g, gs, hg⟩ : ∃ g gs, r.frames = g :: gs := by
        apply List.exists_cons_of_ne_nil
        intro hnil
        simp [hnil] at h
      refine ⟨?_, fun _ => by simp [hg]⟩
      rcases r with ⟨join?, negated, gs', es⟩
      obtain rfl : gs' = g :: gs := hg
      simp only [Piece.first, ht, step, closeGroup, clear_frames]
      cases g.children.isEmpty <;> simp [push_frames]
    | openParen => simp [Piece.first, ht, step, openGroup]
    | and => simp [Piece.first, ht, step]
    | or => simp [Piece.first, ht, step]
    | not => simp [Piece.first, ht, step]
    | compare c => simp [Piece.first, ht, step]

/-- Tokens that close no group but those that they open are read inside a group as on their own. -/
theorem readAll_within {v : Vocabulary} (f : Frame) (frames : List Frame) (root : List Expr)
    {ts : List String} {r : Reading}
    (h : ∀ n, closes (ts.take n) ≤ opens (ts.take n) + r.frames.length) :
    (r.within f frames root).readAll v ts = (r.readAll v ts).within f frames root ∧
      (r.readAll v ts).frames.length + closes ts = r.frames.length + opens ts := by
  induction hn : ts.length using Nat.strong_induction_on generalizing ts r with
  | _ n ih =>
    cases ts with
    | nil => simp
    | cons t ts =>
      obtain ⟨hframes, hclosing⟩ := step_frames v t ts r (h 1)
      have hwhole := Piece.first_whole (v := v) t ts
      have hsplit : ∀ m, (t :: ts).take (1 + (Piece.first v t ts).2 + m) =
          [t] ++ ts.take (Piece.first v t ts).2 ++ (ts.drop (Piece.first v t ts).2).take m := by
        intro m
        rw [Nat.add_assoc, Nat.add_comm 1, List.take_succ_cons, List.take_add]
        rfl
      have hrest : ∀ m, closes ((ts.drop (Piece.first v t ts).2).take m) ≤
          opens ((ts.drop (Piece.first v t ts).2).take m) +
            (r.step (Piece.first v t ts).1).frames.length := by
        intro m
        have hm := h (1 + (Piece.first v t ts).2 + m)
        have hpiece := hwhole.2
        rw [hsplit] at hm
        simp only [opens_append, closes_append] at hm
        omega
      have hlength : (ts.drop (Piece.first v t ts).2).length < n := by
        rw [← hn, List.length_drop, List.length_cons]
        omega
      obtain ⟨hwithin, hcount⟩ := ih _ hlength hrest rfl
      refine ⟨?_, ?_⟩
      · rw [readAll_cons, readAll_cons, step_within f frames root r _ hclosing, hwithin]
      · have hparts : t :: ts = [t] ++ ts.take (Piece.first v t ts).2 ++
            ts.drop (Piece.first v t ts).2 := by
          rw [List.append_assoc, List.take_append_drop]
          rfl
        have hpiece := hwhole.2
        rw [readAll_cons, hparts]
        simp only [opens_append, closes_append]
        omega

/-- Balanced tokens leave no group open. -/
theorem frames_balanced {v : Vocabulary} {ts : List String} (hb : Balanced ts) :
    (start.readAll v ts).frames = [] := by
  have hcount := (readAll_within (v := v) (r := start) ⟨.and, false, []⟩ [] [] hb.enough).2
  have hequal := hb.equal
  have hstart : start.frames.length = 0 := rfl
  exact List.length_eq_zero_iff.mp (by omega)

/-- Balanced tokens are read inside a group as on their own. -/
theorem readAll_balanced {v : Vocabulary} {ts : List String} (hb : Balanced ts) (f : Frame)
    (frames : List Frame) (root : List Expr) :
    let inner := start.readAll v ts
    (start.within f frames root).readAll v ts =
      { inner with
        frames := { f with children := f.children ++ parseTokens v ts } :: frames
        root } := by
  obtain ⟨hwithin, -⟩ := readAll_within (v := v) (r := start) f frames root hb.enough
  rw [hwithin, within, frames_balanced hb]
  rfl

/-- A group around balanced tokens holds their expressions, or is dropped if there are none. -/
theorem readAll_group {v : Vocabulary} {ts : List String} (hb : Balanced ts) (rest : List String)
    (r : Reading) :
    r.readAll v ("(" :: (ts ++ ")" :: rest)) =
      (if (parseTokens v ts).isEmpty then r.clear
        else (r.push (.group r.join r.negated (parseTokens v ts))).clear).readAll v rest := by
  rw [readAll_cons, Piece.first_openParen, List.drop_zero, step, openGroup_eq,
    readAll_append hb.shut (behind_closing rest), readAll_balanced hb, readAll_cons,
    Piece.first_closeParen, List.drop_zero]
  congr 1
  simp only [step, closeGroup, List.nil_append]
  cases (parseTokens v ts).isEmpty with
  | true => rfl
  | false => rcases r with ⟨join?, negated, _ | ⟨g, gs⟩, es⟩ <;> rfl

end Reading

end Criteria
