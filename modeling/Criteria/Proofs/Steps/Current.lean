import Criteria.Proofs.Steps.Inline

/-!
# The current step of an item

What the queue may ask about the current step of an item, and what each of these calls amounts to
for the interpreter: it takes the interpreter further, or else it makes the rank of the step less.
-/
namespace Criteria

namespace StepPlan

open Inline (Leads Proceeds)

variable {σ : Type} {p : StepPlan σ} {s s' : Site σ} {n : Nat}

def isChoice (p : StepPlan σ) (n : Nat) : Bool :=
  match p.step n with
  | .branch _ _ => true
  | _ => false

/-- What the interpreter still has to run of a step that is the current one of an item. -/
def current (p : StepPlan σ) (s : Site σ) (n : Nat) : List Nat :=
  if p.isDone s n then [] else if p.isChoice n then p.inside n else [n]

/-- How many ticks may pass before the interpreter goes on, with `depth` items on the shelf. -/
def rank (p : StepPlan σ) (s : Site σ) (depth n : Nat) : Nat :=
  if p.isDone s n then depth + 1 else if p.isChoice n then 2 else 0

/-- The steps inside a step have all been left alone, or they have all been run. -/
def Whole (p : StepPlan σ) (s : Site σ) (n : Nat) : Prop :=
  (∀ c ∈ p.inside n, p.Fresh s c) ∨ p.allDone s (p.inside n) = true

/-- A step that began and is not waiting for the steps inside it. -/
def InHand (p : StepPlan σ) (s : Site σ) (n : Nat) : Prop :=
  match p.step n with
  | .sequence _ => p.Whole s n
  | .branch _ _ => ∃ b, (s.states n).entered = some b ∧ (b = true → p.Whole s n)
  | .loop _ _ =>
    (s.states n).finished = true ∨ (s.states n).iterations = 0 ∨ p.allDone s (p.inside n) = true
  | .action _ | .wait _ _ | .own _ => True

/-- A step that is waiting for the steps inside it. -/
def Entered (p : StepPlan σ) (s : Site σ) (n : Nat) : Prop :=
  match p.step n with
  | .sequence _ => True
  | .branch _ _ => (s.states n).entered = some true
  | .loop _ _ => (s.states n).finished = false
  | .action _ | .wait _ _ | .own _ => False

/-- What the interpreter runs behind the steps inside a step: a loop once more. -/
def behind (p : StepPlan σ) (n : Nat) : List Nat :=
  match p.step n with
  | .loop _ _ => [n]
  | _ => []

theorem current_of_done (hd : p.isDone s n = true) : p.current s n = [] := by
  simp [current, hd]

theorem current_of_not_done (hd : p.isDone s n = false) (hn : p.isChoice n = false) :
    p.current s n = [n] := by
  simp [current, hd, hn]

theorem rank_of_done (hd : p.isDone s n = true) (depth : Nat) : p.rank s depth n = depth + 1 := by
  simp [rank, hd]

theorem rank_of_not_done (hd : p.isDone s n = false) (hn : p.isChoice n = false) (depth : Nat) :
    p.rank s depth n = 0 := by
  simp [rank, hd, hn]

/-- A step that does nothing when it begins, and that is not done, is run as it stands. -/
theorem proceeds_begin (hd : p.isDone s n = false) (hn : p.isChoice n = false) (rest : List Nat)
    (depth : Nat) : Proceeds p (s.inline (n :: rest)) 1 (s.inline (p.current s n ++ rest))
      (p.rank s depth n) := by
  rw [current_of_not_done hd hn, rank_of_not_done hd hn]
  exact .inr ⟨rfl, Nat.zero_lt_one⟩

/-! ### A step begins -/

theorem branch_onStart {gate : Poll σ} {cs : List (Fin n)} (hp : p.step n = .branch gate cs)
    (hc : p.Composed n) (hf : p.Fresh s n) (rest : List Nat) :
    let s' := (p.onStart n s).world
    p.InHand s' n ∧ Leads p (s.inline (n :: rest)) (s'.inline (p.current s' n ++ rest)) := by
  have hself : (s.states n).entered = none := by
    have h := hf n (p.mem_below_self n)
    simpa [AsBuilt, hp] using h
  obtain ⟨r, hr⟩ : ∃ r, r = query gate n s := ⟨_, rfl⟩
  have hstates : r.world.states = s.states := by rw [hr]; rfl
  have hs' : (p.onStart n s).world =
      r.world.put n { r.world.states n with entered := some r.answer } := by
    simp [onStart, hp, decide, hself, hr]
  obtain ⟨s', hs''⟩ : ∃ s', s' = (p.onStart n s).world := ⟨_, rfl⟩
  rw [← hs''] at hs' ⊢
  have hentered : (s'.states n).entered = some r.answer := by simp [hs']
  have hone : Leads p (s.inline (n :: rest))
      (s'.inline (if r.answer then p.inside n ++ rest else rest)) := by
    refine Leads.one ?_
    rw [Inline.next_branch s rest hp, ← hr, hs']
    rfl
  have hfresh : ∀ c ∈ p.inside n, p.Fresh s' c := by
    intro c hcn
    have hfresh : p.Fresh r.world c := (hf.inside hcn).congr fun i _ => congrFun hstates i
    rw [hs']
    exact hfresh.put hcn _
  refine ⟨?_, ?_⟩
  · simp only [InHand, hp]
    exact ⟨r.answer, hentered, fun _ => .inl hfresh⟩
  · have hdone := p.isDone_branch s' hp
    rw [hentered] at hdone
    cases ha : r.answer with
    | false =>
      rw [ha] at hone hdone
      rwa [current_of_done hdone]
    | true =>
      rw [ha, if_pos rfl] at hone
      rw [ha] at hdone
      cases hall : p.allDone s' (p.inside n) with
      | false => simpa [current, hdone, hall, isChoice, hp] using hone
      | true =>
        rw [current_of_done (hdone.trans hall)]
        have hskip : ∀ c ∈ p.inside n, ∀ rest, Leads p (s'.inline (c :: rest)) (s'.inline rest) := by
          intro c hcn rest
          have hdc := (p.allDone_eq_true).mp hall c hcn
          exact leads_skip (hc.inside hcn) (hfresh c hcn) hdc rest
        rcases leads_skipAll hskip rest with heq | hrest
        · rwa [heq] at hone
        · exact hone.trans hrest

/-- When a step begins, the interpreter comes to it, and decides it if it is a choice. -/
theorem onStart_spec (hc : p.Composed n) (hf : p.Fresh s n) (rest : List Nat) (depth : Nat) :
    let s' := (p.onStart n s).world
    p.InHand s' n ∧
      Proceeds p (s.inline (n :: rest)) 1 (s'.inline (p.current s' n ++ rest))
        (p.rank s' depth n) := by
  have hself := hf n (p.mem_below_self n)
  have hn := hc n (p.mem_below_self n)
  unfold AsBuilt at hself
  unfold Composes at hn
  cases hp : p.step n with
  | action poll =>
    have hd : p.isDone s n = false := by simpa [p.isDone_action s hp, hp] using hself
    simp only [onStart, hp]
    refine ⟨by simp [InHand, hp], ?_⟩
    exact proceeds_begin hd (by simp [isChoice, hp]) rest depth
  | sequence cs =>
    simp only [onStart, hp]
    refine ⟨?_, ?_⟩
    · simp only [InHand, hp]
      exact .inl fun c hcn => hf.inside hcn
    · cases hd : p.isDone s n with
      | false => exact proceeds_begin hd (by simp [isChoice, hp]) rest depth
      | true =>
        rw [current_of_done hd]
        exact .inl (leads_skip hc hf hd rest)
  | branch gate cs =>
    obtain ⟨hhand, hleads⟩ := branch_onStart hp hc hf rest
    exact ⟨hhand, .inl hleads⟩
  | loop gate cs =>
    simp only [hp] at hself
    have hd : p.isDone s n = false := by rw [p.isDone_loop s hp, hself.2]
    simp only [onStart, hp]
    refine ⟨?_, ?_⟩
    · simp only [InHand, hp]
      exact .inr (.inl hself.1)
    · exact proceeds_begin hd (by simp [isChoice, hp]) rest depth
  | wait clock duration => simp [hp] at hn
  | own step => simp [hp] at hn

/-! ### A step that is not done -/

theorem loop_held {gate : Poll σ} {cs : List (Fin n)} (hp : p.step n = .loop gate cs)
    (hh : p.InHand s n) (hd : p.isDone s n = false) (ha : (query gate n s).answer = true) :
    let t := p.resetAll (query gate n s).world (p.inside n)
    p.children n s = ⟨p.inside n,
      t.put n { t.states n with iterations := (t.states n).iterations + 1 },
      (query gate n s).events⟩ := by
  rw [p.isDone_loop s hp] at hd
  simp only [InHand, hp, hd, Bool.false_eq_true, false_or] at hh
  simp [children, hp, ← p.inside_loop hp, loopChildren, hd, hh, ha]

theorem loop_closed {gate : Poll σ} {cs : List (Fin n)} (hp : p.step n = .loop gate cs)
    (hh : p.InHand s n) (hd : p.isDone s n = false) (ha : (query gate n s).answer = false) :
    let t := (query gate n s).world
    p.children n s =
      ⟨[], t.put n { t.states n with finished := true }, (query gate n s).events⟩ := by
  rw [p.isDone_loop s hp] at hd
  simp only [InHand, hp, hd, Bool.false_eq_true, false_or] at hh
  simp [children, hp, ← p.inside_loop hp, loopChildren, hd, hh, ha]

/-- A loop whose gate holds has put back the steps inside it, and waits for them. -/
theorem loop_enter {gate : Poll σ} {cs : List (Fin n)} (hp : p.step n = .loop gate cs)
    (hc : p.Composed n) (hh : p.InHand s n) (hd : p.isDone s n = false)
    (ha : (query gate n s).answer = true) (rest : List Nat) :
    let s' := (p.children n s).world
    (p.children n s).answer = p.inside n ∧ (∀ c ∈ p.inside n, p.Fresh s' c) ∧
      (s'.states n).finished = false ∧
      Leads p (s.inline (n :: rest)) (s'.inline (p.inside n ++ n :: rest)) := by
  obtain ⟨t, ht⟩ : ∃ t, t = p.resetAll (query gate n s).world (p.inside n) := ⟨_, rfl⟩
  have hchildren := loop_held hp hh hd ha
  simp only [← ht] at hchildren
  rw [hchildren]
  have hself : t.states n = s.states n := by
    rw [ht, p.resetAll_other _ (p.notMem_belowAll_inside n)]
    rfl
  have hcomposes : ∀ i ∈ p.belowAll (p.inside n), p.Composes i := by
    intro i hi
    obtain ⟨c, hcn, hi⟩ := p.mem_belowAll.mp hi
    exact hc i (p.mem_below_of_inside hcn hi)
  refine ⟨rfl, ?_, ?_, Leads.one ?_⟩
  · intro c hcn
    have hfresh := p.resetAll_fresh (query gate n s).world (p.inside n) c hcn
    rw [← ht] at hfresh
    exact hfresh.put hcn _
  · rw [p.isDone_loop s hp] at hd
    simpa [hself] using hd
  · rw [Inline.next_loop s rest hp, ha, if_pos rfl]
    simp only [Site.inline, Site.put_world, Site.put_asked, ht, p.resetAll_asked,
      p.resetAll_world _ hcomposes]

/-- A loop whose gate does not hold is done. -/
theorem loop_leave {gate : Poll σ} {cs : List (Fin n)} (hp : p.step n = .loop gate cs)
    (hh : p.InHand s n) (hd : p.isDone s n = false) (ha : (query gate n s).answer = false)
    (rest : List Nat) :
    let s' := (p.children n s).world
    p.InHand s' n ∧ Leads p (s.inline (n :: rest)) (s'.inline (p.current s' n ++ rest)) := by
  rw [loop_closed hp hh hd ha]
  refine ⟨by simp [InHand, hp], Leads.one ?_⟩
  rw [current_of_done (by simp [p.isDone_loop _ hp]), Inline.next_loop s rest hp, ha]
  rfl

/-- A step that is not done and has steps inside it to run is left for these. -/
theorem enter_spec (hc : p.Composed n) (hh : p.InHand s n) (hd : p.isDone s n = false)
    (hne : (p.children n s).answer ≠ []) (rest : List Nat) (depth : Nat) :
    let s' := (p.children n s).world
    (p.children n s).answer = p.inside n ∧ (∀ c ∈ p.inside n, p.Fresh s' c) ∧ p.Entered s' n ∧
      Proceeds p (s.inline (p.current s n ++ rest)) (p.rank s depth n)
        (s'.inline (p.inside n ++ (p.behind n ++ rest))) 1 := by
  have hn := hc n (p.mem_below_self n)
  unfold Composes at hn
  cases hp : p.step n with
  | action poll => simp [children, hp] at hne
  | sequence cs =>
    have hchildren : p.children n s = ⟨p.inside n, s, []⟩ := by
      simp [children, hp, hd, p.inside_sequence hp]
    have hfresh : ∀ c ∈ p.inside n, p.Fresh s c := by
      simp only [InHand, hp] at hh
      rw [p.isDone_sequence s hp] at hd
      exact hh.resolve_right (by simp [hd])
    rw [hchildren]
    refine ⟨rfl, hfresh, by simp [Entered, hp], .inl ?_⟩
    rw [current_of_not_done hd (by simp [isChoice, hp])]
    refine Leads.one ?_
    simpa [behind, hp] using Inline.next_sequence s rest hp
  | branch gate cs =>
    simp only [InHand, hp] at hh
    obtain ⟨b, hb, hwhole⟩ := hh
    have hdone := p.isDone_branch s hp
    rw [hb, hd] at hdone
    cases b with
    | false => simp at hdone
    | true =>
      have hall : p.allDone s (p.inside n) = false := hdone.symm
      have hchildren : p.children n s = ⟨p.inside n, s, []⟩ := by
        simp [children, hp, decide, hb, ← p.inside_branch hp, hall]
      rw [hchildren]
      refine ⟨rfl, (hwhole rfl).resolve_right (by simp [hall]), ?_, .inr ?_⟩
      · simpa [Entered, hp] using hb
      · simp [current, rank, hd, isChoice, behind, hp]
  | loop gate cs =>
    cases ha : (query gate n s).answer with
    | false =>
      rw [loop_closed hp hh hd ha] at hne
      exact absurd rfl hne
    | true =>
      obtain ⟨hanswer, hfresh, hfinished, hleads⟩ := loop_enter hp hc hh hd ha rest
      refine ⟨hanswer, hfresh, by simpa [Entered, hp] using hfinished, .inl ?_⟩
      rw [current_of_not_done hd (by simp [isChoice, hp])]
      simpa [behind, hp] using hleads
  | wait clock duration => simp [hp] at hn
  | own step => simp [hp] at hn

theorem action_run {poll : Poll σ} (hp : p.step n = .action poll) (hd : p.isDone s n = false)
    (rest : List Nat) :
    let s' := (p.run n s).world
    Leads p (s.inline (n :: rest)) (s'.inline (p.current s' n ++ rest)) := by
  rw [p.isDone_action s hp] at hd
  obtain ⟨r, hr⟩ : ∃ r, r = query poll n s := ⟨_, rfl⟩
  have hrun : (p.run n s).world = r.world.put n { r.world.states n with done := r.answer } := by
    simp [run, hp, hd, hr]
  obtain ⟨s', hs'⟩ : ∃ s', s' = (p.run n s).world := ⟨_, rfl⟩
  rw [← hs'] at hrun ⊢
  have hdone : p.isDone s' n = r.answer := by
    rw [p.isDone_action s' hp, hrun, Site.put_same]
  refine Leads.one ?_
  rw [Inline.next_action s rest hp, ← hr]
  cases ha : r.answer with
  | false =>
    rw [current_of_not_done (hdone.trans ha) (by simp [isChoice, hp]), hrun]
    rfl
  | true =>
    rw [current_of_done (hdone.trans ha), hrun]
    rfl

/-- A step that is not done and has no steps inside it to run takes the interpreter further. -/
theorem run_spec (hc : p.Composed n) (hh : p.InHand s n) (hd : p.isDone s n = false)
    (he : (p.children n s).answer = []) (rest : List Nat) :
    let s' := (p.run n (p.children n s).world).world
    p.InHand s' n ∧
      Leads p (s.inline (p.current s n ++ rest)) (s'.inline (p.current s' n ++ rest)) := by
  have hn := hc n (p.mem_below_self n)
  unfold Composes at hn
  cases hp : p.step n with
  | action poll =>
    have hchildren : (p.children n s).world = s := by simp [children, hp]
    rw [hchildren, current_of_not_done hd (by simp [isChoice, hp])]
    exact ⟨by simp [InHand, hp], action_run hp hd rest⟩
  | sequence cs =>
    have hnil : p.inside n = [] := by
      simpa [children, hp, hd, p.inside_sequence hp] using he
    simp [p.isDone_sequence s hp, hnil, allDone] at hd
  | branch gate cs =>
    simp only [InHand, hp] at hh
    obtain ⟨b, hb, -⟩ := hh
    have hdone := p.isDone_branch s hp
    rw [hb, hd] at hdone
    cases b with
    | false => simp at hdone
    | true =>
      have hall : p.allDone s (p.inside n) = false := hdone.symm
      have hnil : p.inside n = [] := by
        simpa [children, hp, decide, hb, ← p.inside_branch hp, hall] using he
      simp [hnil, allDone] at hall
  | loop gate cs =>
    have hrun : (p.run n (p.children n s).world).world = (p.children n s).world := by
      simp [run, hp]
    rw [hrun, current_of_not_done hd (by simp [isChoice, hp])]
    cases ha : (query gate n s).answer with
    | false => exact loop_leave hp hh hd ha rest
    | true =>
      obtain ⟨hanswer, -, hfinished, hleads⟩ := loop_enter hp hc hh hd ha rest
      have hnil : p.inside n = [] := hanswer.symm.trans he
      have hnot := (p.isDone_loop (p.children n s).world hp).trans hfinished
      refine ⟨?_, ?_⟩
      · simp [InHand, hp, hnil, allDone]
      · rw [current_of_not_done hnot (by simp [isChoice, hp])]
        simpa [hnil] using hleads
  | wait clock duration => simp [hp] at hn
  | own step => simp [hp] at hn

/-! ### The steps inside a step are done -/

/-- A step that was waiting for the steps inside it is in hand when they are done. -/
theorem resume_spec (he : p.Entered s n) (hall : p.allDone s (p.inside n) = true) (depth : Nat) :
    p.InHand s n ∧ p.current s n = p.behind n ∧ p.rank s depth n ≤ depth + 1 := by
  unfold Entered at he
  cases hp : p.step n with
  | action poll => simp [hp] at he
  | sequence cs =>
    have hd := (p.isDone_sequence s hp).trans hall
    refine ⟨?_, ?_, Nat.le_of_eq (rank_of_done hd depth)⟩
    · simp only [InHand, hp]
      exact .inr hall
    · rw [current_of_done hd, behind, hp]
  | branch gate cs =>
    simp only [hp] at he
    have hd : p.isDone s n = true := by rw [p.isDone_branch s hp, he]; exact hall
    refine ⟨?_, ?_, Nat.le_of_eq (rank_of_done hd depth)⟩
    · simp only [InHand, hp]
      exact ⟨true, he, fun _ => .inr hall⟩
    · rw [current_of_done hd, behind, hp]
  | loop gate cs =>
    simp only [hp] at he
    have hd := (p.isDone_loop s hp).trans he
    have hn : p.isChoice n = false := by simp [isChoice, hp]
    refine ⟨?_, ?_, ?_⟩
    · simp only [InHand, hp]
      exact .inr (.inr hall)
    · rw [current_of_not_done hd hn, behind, hp]
    · rw [rank_of_not_done hd hn]
      exact Nat.zero_le _
  | wait clock duration => simp [hp] at he
  | own step => simp [hp] at he

end StepPlan

end Criteria
