import Criteria.Proofs.Evaluation.Meaning
import Mathlib.Data.List.Nodup
import Mathlib.Data.List.TakeWhile

/-!
# Which clauses are asked about

The fold goes on within a segment as long as the siblings of the segment are true, and to the next
segment only if some sibling of each segment so far is false. So for each clause inside a list, at
any depth, the values of the siblings in front of it and in front of the groups around it say
whether it is asked about. Clauses are told apart by their places, as the same clause may stand at
several.
-/
namespace Criteria

namespace Meaning

section Lists

variable {α : Type} (join : α → Join) (value : α → Bool)

/-- The sibling with a number, counted through the segments, is the first of its segment that may be
false, and no segment in front of its own is true. -/
def ReachedIn (segments : List (List α)) (i : Nat) : Prop :=
  ∃ before earlier x later after, segments = before ++ (earlier ++ x :: later) :: after ∧
    i = before.flatten.length + earlier.length ∧ (∀ y ∈ earlier, value y = true) ∧
    ∀ segment ∈ before, ∃ y ∈ segment, value y = false

/-- The sibling with a number is evaluated: the list does not begin with an `or`, all siblings in
front of it in its segment are true, and each segment in front of its own has one that is false. -/
def Reached (xs : List α) (i : Nat) : Prop :=
  (∀ x ∈ xs.head?, join x ≠ .or) ∧ ReachedIn value (segments join xs) i

/-- Whether the fold comes to evaluate the sibling with a number, with the result so far. -/
def reaches : Bool → Bool → List α → Nat → Bool
  | _, _, [], _ => false
  | running, first, x :: xs, i =>
    if join x == .or && (running || first) then false
    else if join x != .or && !running && !first then i != 0 && reaches running false xs (i - 1)
    else i == 0 || reaches (value x) false xs (i - 1)

variable {join value}

theorem segments_cons (x : α) (xs : List α) :
    segments join (x :: xs) =
      (x :: xs.takeWhile (join · != .or)) :: segments join (xs.dropWhile (join · != .or)) := by
  have hchain : (x :: xs.takeWhile (join · != .or)).IsChain fun _ y => (join y != .or) = true :=
    (List.pairwise_cons.mpr ⟨fun y hy => List.mem_takeWhile_imp hy,
      List.pairwise_of_forall_mem_list fun _ _ y hy => List.mem_takeWhile_imp hy⟩).isChain
  have hborder : ∀ y ∈ (x :: xs.takeWhile (join · != .or)).getLast?,
      ∀ z ∈ (xs.dropWhile (join · != .or)).head?, (join z != .or) = false := by
    intro y _ z hz
    have hstop := List.head?_dropWhile_not (join · != .or) xs
    rwa [Option.mem_def.mp hz] at hstop
  have hcut : x :: xs = (x :: xs.takeWhile (join · != .or)) ++ xs.dropWhile (join · != .or) := by
    rw [List.cons_append, List.takeWhile_append_dropWhile]
  rw [hcut, segments, List.splitBy_append hborder,
    List.splitBy_of_isChain (List.cons_ne_nil _ _) hchain]
  rfl

theorem not_reachedIn_nil (i : Nat) : ¬ ReachedIn value [] i := by
  rintro ⟨before, earlier, x, later, after, h, -⟩
  exact List.append_ne_nil_of_right_ne_nil before (List.cons_ne_nil _ after) h.symm

/-- A sibling is in the first segment, behind siblings that are true, or behind the first segment,
in which some sibling is false. -/
theorem reachedIn_cons (s : List α) (segments : List (List α)) (i : Nat) :
    ReachedIn value (s :: segments) i ↔
      (i < s.length ∧ ∀ y ∈ s.take i, value y = true) ∨
        (s.length ≤ i ∧ (∃ y ∈ s, value y = false) ∧ ReachedIn value segments (i - s.length)) := by
  constructor
  · rintro ⟨before, earlier, x, later, after, h, rfl, hearlier, hbefore⟩
    cases before with
    | nil =>
      obtain ⟨rfl, rfl⟩ := List.cons.inj h
      exact Or.inl ⟨by simp, by simpa using hearlier⟩
    | cons s' before =>
      obtain ⟨rfl, rfl⟩ := List.cons.inj h
      obtain ⟨hfirst, hbefore⟩ := List.forall_mem_cons.mp hbefore
      refine Or.inr ⟨by simp; omega, hfirst, before, earlier, x, later, after, rfl, ?_, hearlier,
        hbefore⟩
      rw [List.flatten_cons, List.length_append]
      omega
  · rintro (⟨hi, htrue⟩ | ⟨hi, hfalse, hrest⟩)
    · refine ⟨[], s.take i, s[i], s.drop (i + 1), segments, ?_, ?_, htrue, by simp⟩
      · simp
      · simp; omega
    · obtain ⟨before, earlier, x, later, after, rfl, hlength, hearlier, hbefore⟩ := hrest
      refine ⟨s :: before, earlier, x, later, after, rfl, ?_, hearlier,
        List.forall_mem_cons.mpr ⟨hfalse, hbefore⟩⟩
      rw [List.flatten_cons, List.length_append]
      omega

/-- What is reached of a segment that goes on and of those behind it, with the result so far. -/
def Continued (value : α → Bool) (running : Bool) (s : List α) (segments : List (List α))
    (i : Nat) : Prop :=
  if running then ReachedIn value (s :: segments) i
  else s.length ≤ i ∧ ReachedIn value segments (i - s.length)

theorem reachedIn_zero (x : α) (s : List α) (segments : List (List α)) :
    ReachedIn value ((x :: s) :: segments) 0 :=
  (reachedIn_cons _ _ _).mpr (Or.inl ⟨by simp, by simp⟩)

theorem reachedIn_succ (x : α) (s : List α) (segments : List (List α)) (i : Nat) :
    ReachedIn value ((x :: s) :: segments) (i + 1) ↔ Continued value (value x) s segments i := by
  rw [Continued, reachedIn_cons, reachedIn_cons]
  cases hx : value x <;> simp [hx]

/-- Behind the first sibling, the fold reaches what the segments say. -/
theorem reaches_iff_continued (running : Bool) (xs : List α) (i : Nat) :
    reaches join value running false xs i = true ↔
      Continued value running (xs.takeWhile (join · != .or))
        (segments join (xs.dropWhile (join · != .or))) i := by
  induction xs generalizing running i with
  | nil => cases running <;> simp [reaches, Continued, segments, reachedIn_cons, not_reachedIn_nil]
  | cons x xs ih =>
    rw [reaches]
    by_cases hx : join x = .or
    · rw [List.takeWhile_cons_of_neg (by simp [hx]), List.dropWhile_cons_of_neg (by simp [hx]),
        segments_cons]
      cases running with
      | true => simp [hx, Continued, reachedIn_cons]
      | false =>
        cases i with
        | zero => simp [hx, Continued, reachedIn_zero]
        | succ i => simp [hx, ih, Continued, reachedIn_succ]
    · rw [List.takeWhile_cons_of_pos (by simp [hx]), List.dropWhile_cons_of_pos (by simp [hx])]
      cases running with
      | true =>
        cases i with
        | zero => simp [hx, Continued, reachedIn_zero]
        | succ i => simp [hx, ih, Continued, reachedIn_succ]
      | false =>
        cases i with
        | zero => simp [hx, Continued]
        | succ i => simp [hx, ih, Continued]

/-- The fold over a whole list evaluates the siblings that are reached. -/
theorem reaches_iff (xs : List α) (i : Nat) :
    reaches join value false true xs i = true ↔ Reached join value xs i := by
  cases xs with
  | nil => simp [reaches, Reached, segments, not_reachedIn_nil]
  | cons x xs =>
    rw [reaches, Reached, segments_cons]
    by_cases hx : join x = .or
    · simp [hx]
    · cases i with
      | zero => simp [hx, reachedIn_zero]
      | succ i => simp [hx, reaches_iff_continued, reachedIn_succ]

end Lists

/-- The clause at a place in a list is asked about: the sibling that it is or stands in is reached,
and so on inside this sibling. -/
inductive Called (value : Expr → Bool) : List Expr → List Nat → Prop
  | clause {es : List Expr} {i : Nat} {c : Clause} {inner : List Expr}
      (reached : Reached (fun e => e.clause.join) value es i) (here : es[i]? = some (.node c inner))
      (plain : c.isGroup = false) : Called value es [i]
  | group {es : List Expr} {i : Nat} {c : Clause} {inner : List Expr} {path : List Nat}
      (reached : Reached (fun e => e.clause.join) value es i) (here : es[i]? = some (.node c inner))
      (group : c.isGroup = true) (inside : Called value inner path) : Called value es (i :: path)

/-- The clause at a place in an expression is asked about if the expression is evaluated. -/
def CalledWithin (value : Expr → Bool) : Expr → List Nat → Prop
  | .node c es, path => if c.isGroup then Called value es path else path = []

/-- The clause at a place in the rest of a list is asked about, with the result so far. -/
def CalledFrom (value : Expr → Bool) (running first : Bool) (es : List Expr) (path : List Nat) :
    Prop :=
  ∃ i inner e, path = i :: inner ∧
    reaches (fun e => e.clause.join) value running first es i = true ∧
    es[i]? = some e ∧ CalledWithin value e inner

variable {value : Expr → Bool}

theorem called_iff (es : List Expr) (path : List Nat) :
    Called value es path ↔ CalledFrom value false true es path := by
  constructor
  · rintro (⟨reached, here, plain⟩ | ⟨reached, here, group, inside⟩)
    · refine ⟨_, _, _, rfl, (reaches_iff _ _).mpr reached, here, ?_⟩
      simp [CalledWithin, plain]
    · refine ⟨_, _, _, rfl, (reaches_iff _ _).mpr reached, here, ?_⟩
      simp [CalledWithin, group, inside]
  · rintro ⟨i, inner, ⟨c, es'⟩, rfl, hreaches, here, hwithin⟩
    have reached := (reaches_iff _ _).mp hreaches
    rw [CalledWithin] at hwithin
    split at hwithin
    · next hc => exact .group reached here hc hwithin
    · next hc =>
      obtain rfl := hwithin
      exact .clause reached here (by simpa using hc)

theorem calledFrom_first (running first : Bool) (e : Expr) (es : List Expr) (path : List Nat) :
    CalledFrom value running first (e :: es) (0 :: path) ↔
      reaches (fun e => e.clause.join) value running first (e :: es) 0 = true ∧
        CalledWithin value e path := by
  simp [CalledFrom]

end Meaning

namespace Expr

/-- A place in the list behind the first sibling, as a place in the whole list. -/
def later : List Nat → List Nat
  | [] => []
  | i :: path => (i + 1) :: path

mutual

/-- The clauses that are no groups, from left to right, each with its place: the numbers of the
siblings in which it stands, from the outside in. -/
def places : Expr → List (List Nat × Clause)
  | node c es => if c.isGroup then listPlaces es else [([], c)]

def listPlaces : List Expr → List (List Nat × Clause)
  | [] => []
  | e :: es =>
    (places e).map (fun p => (0 :: p.1, p.2)) ++ (listPlaces es).map fun p => (later p.1, p.2)

end

theorem map_snd_listPlaces (es : List Expr) : (listPlaces es).map Prod.snd = listLeaves es := by
  induction es using list_induction with
  | nil => rfl
  | node c inner rest hinner hrest =>
    have hfirst : (places (node c inner)).map Prod.snd = leaves (node c inner) := by
      rw [places, leaves]
      split
      · exact hinner
      · rfl
    rw [listPlaces, listLeaves, ← hfirst, ← hrest]
    simp [Function.comp_def]

theorem later_injective : Function.Injective later := by
  rintro (_ | ⟨i, path⟩) (_ | ⟨i', path'⟩) h <;> simp_all [later]

theorem cons_zero_ne_later (path path' : List Nat) : 0 :: path ≠ later path' := by
  cases path' <;> simp [later]

/-- No two clauses have the same place. -/
theorem nodup_listPlaces (es : List Expr) : ((listPlaces es).map Prod.fst).Nodup := by
  induction es using list_induction with
  | nil => exact List.nodup_nil
  | node c inner rest hinner hrest =>
    have hown : ((places (node c inner)).map Prod.fst).Nodup := by
      rw [places]
      split
      · exact hinner
      · exact List.nodup_singleton _
    have hfirst : ((places (node c inner)).map Prod.fst).map (0 :: ·) =
        ((places (node c inner)).map fun p => (0 :: p.1, p.2)).map Prod.fst := by
      simp [Function.comp_def]
    have hlater : ((listPlaces rest).map Prod.fst).map later =
        ((listPlaces rest).map fun p => (later p.1, p.2)).map Prod.fst := by
      simp [Function.comp_def]
    rw [listPlaces, List.map_append, ← hfirst, ← hlater, List.nodup_append]
    refine ⟨hown.map List.cons_injective, hrest.map later_injective, ?_⟩
    intro path hpath path' hpath'
    obtain ⟨path, -, rfl⟩ := List.mem_map.mp hpath
    obtain ⟨path', -, rfl⟩ := List.mem_map.mp hpath'
    exact cons_zero_ne_later path path'

end Expr

namespace Evaluation

open Meaning

section Calls

variable (ask : Clause → Dispatch)

theorem calledFrom_later (value : Expr → Bool) (running first : Bool) (e : Expr) (es : List Expr)
    (path : List Nat) :
    CalledFrom value running first (e :: es) (Expr.later path) ↔
      ∃ i inner x, path = i :: inner ∧
        reaches (fun e => e.clause.join) value running first (e :: es) (i + 1) = true ∧
        es[i]? = some x ∧ CalledWithin value x inner := by
  cases path with
  | nil => simp [CalledFrom, Expr.later]
  | cons i path => simp [CalledFrom, Expr.later]

open Classical in
/-- The calls about the rest of a list, by the places of its clauses. -/
theorem calls_foldFrom (running first : Bool) (es : List Expr) :
    (foldFrom ask running first es).calls =
      ((Expr.listPlaces es).filter fun p =>
        CalledFrom (siblingValue ask) running first es p.1).map fun p => ask p.2 := by
  induction es using Expr.list_induction generalizing running first with
  | nil => simp [foldFrom, Expr.listPlaces]
  | node c inner rest hinner hrest =>
    have hown : (evaluateExpr ask (.node c inner)).calls =
        ((Expr.node c inner).places.filter fun p =>
          CalledWithin (siblingValue ask) (.node c inner) p.1).map fun p => ask p.2 := by
      rw [evaluateExpr, Expr.places]
      by_cases hc : c.isGroup = true
      · simp only [hc, if_true, CalledWithin, called_iff]
        exact hinner false true
      · simp [hc, CalledWithin]
    rw [foldFrom, Expr.listPlaces, List.filter_append, List.map_append, List.filter_map,
      List.filter_map, List.map_map, List.map_map]
    simp only [Function.comp_def, calledFrom_first, calledFrom_later, reaches]
    cases hstop : (c.join == .or && (running || first)) with
    | true => simp [hstop]
    | false =>
      cases hskip : (c.join != .or && !running && !first) with
      | true =>
        simp only [Expr.clause_node, hstop, hskip, Bool.false_eq_true, if_false, if_true]
        rw [hrest running false]
        simp [CalledFrom]
      | false =>
        simp only [Expr.clause_node, hstop, hskip, Bool.false_eq_true, if_false]
        rw [hown, hrest _ false]
        simp [CalledFrom, siblingValue]

end Calls

end Evaluation

namespace Registry

variable {ω : Type}

theorem dispatch_clause (r : Registry ω) (world : ω) (c : Clause) :
    (r.dispatch world c).clause = c := by
  rw [dispatch]
  split <;> rfl

/-- The clauses of a list that are asked about are, in their order and each at most once, those at
the places that the values of the siblings leave open. One that begins with an `or` asks nothing. -/
theorem evaluate_asks (r : Registry ω) (world : ω) (es : List Expr) :
    let value := Evaluation.siblingValue (r.dispatch world)
    (∃ asked : List (List Nat × Clause),
      asked.Sublist (Expr.listPlaces es) ∧ (asked.map Prod.fst).Nodup ∧
        (r.evaluate world es).calls = asked.map (fun p => r.dispatch world p.2) ∧
        ∀ p ∈ Expr.listPlaces es, p ∈ asked ↔ Meaning.Called value es p.1) ∧
      ((r.evaluate world es).calls.map Dispatch.clause).Sublist (Expr.listLeaves es) ∧
      ∀ e ∈ es.head?, e.clause.join = .or → (r.evaluate world es).calls = [] := by
  classical
  intro value
  have hcalls : (r.evaluate world es).calls =
      ((Expr.listPlaces es).filter fun p => Meaning.Called value es p.1).map
        fun p => r.dispatch world p.2 := by
    rw [Registry.evaluate, Evaluation.evaluate, Evaluation.calls_foldFrom]
    simp only [value, Meaning.called_iff]
  have hasked : ((Expr.listPlaces es).filter fun p => Meaning.Called value es p.1).Sublist
      (Expr.listPlaces es) := List.filter_sublist
  refine ⟨⟨_, hasked, ?_, hcalls, fun p hp => by simp [hp]⟩, ?_, ?_⟩
  · exact (hasked.map Prod.fst).nodup (Expr.nodup_listPlaces es)
  · have hclauses := hasked.map Prod.snd
    rw [Expr.map_snd_listPlaces] at hclauses
    simpa [hcalls, Function.comp_def, dispatch_clause] using hclauses
  · intro e he hor
    have hnone : ∀ path, ¬ Meaning.Called value es path := by
      rintro _ (⟨reached, -, -⟩ | ⟨reached, -, -, -⟩) <;> exact reached.1 e he hor
    simp [hcalls, hnone]

theorem evaluate_asks_nested :
    let r : Registry Unit := [⟨"Dead", .flag, .host, fun _ _ => .answer false⟩,
      ⟨"Rich", .flag, .host, fun _ _ => .answer true⟩,
      ⟨"Alive", .flag, .host, fun _ _ => .answer true⟩,
      ⟨"Poor", .flag, .host, fun _ _ => .error (.unknown "Poor")⟩].foldl register initial
    let es := parse r.vocabulary "Dead and Rich or (Alive or Poor)"
    let value := Evaluation.siblingValue (r.dispatch ())
    (∃ p ∈ Expr.listPlaces es, p.2.keyword = "Alive" ∧ Meaning.Called value es p.1) ∧
      ∃ p ∈ Expr.listPlaces es, p.2.keyword = "Poor" ∧ ¬ Meaning.Called value es p.1 := by
  intro r es value
  obtain ⟨⟨asked, hsub, -, hcalls, hasked⟩, -, -⟩ := evaluate_asks r () es
  have hkeywords : asked.map (fun p => p.2.keyword) = ["Dead", "Alive"] := by
    have hcalled : (r.evaluate () es).calls.map (fun d => d.clause.keyword) = ["Dead", "Alive"] := by
      decide +kernel
    simpa [hcalls, Function.comp_def, dispatch_clause] using hcalled
  refine ⟨?_, ?_⟩
  · have hmem : "Alive" ∈ asked.map (fun p => p.2.keyword) := by simp [hkeywords]
    obtain ⟨p, hp, halive⟩ := List.mem_map.mp hmem
    have hplace := hsub.mem hp
    exact ⟨p, hplace, halive, (hasked p hplace).mp hp⟩
  · have hplace : ∃ p ∈ Expr.listPlaces es, p.2.keyword = "Poor" := by decide +kernel
    obtain ⟨p, hp, hpoor⟩ := hplace
    refine ⟨p, hp, hpoor, fun hcalled => ?_⟩
    have hmem : "Poor" ∈ asked.map (fun p => p.2.keyword) :=
      List.mem_map.mpr ⟨p, (hasked p hp).mpr hcalled, hpoor⟩
    simp [hkeywords] at hmem

end Registry

end Criteria
