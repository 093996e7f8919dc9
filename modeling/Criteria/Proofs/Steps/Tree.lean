import Criteria.Queue.Stock
import Mathlib.Data.List.Nodup

/-!
# Trees of steps

What is below a step, which steps are as they were built, and what putting a step back does: all
steps below it are as they were built, and nothing else has changed. Whatever else is called about a
step changes only steps below it, too.
-/
namespace Criteria

namespace StepPlan

variable {σ : Type} (p : StepPlan σ)

/-- The steps right inside a step. -/
def inside (n : Nat) : List Nat :=
  match p.step n with
  | .sequence cs | .branch _ cs | .loop _ cs => handles cs
  | .action _ | .wait _ _ | .own _ => []

theorem inside_sequence {n : Nat} {cs : List (Fin n)} (h : p.step n = .sequence cs) :
    p.inside n = handles cs := by
  rw [inside, h]

theorem inside_branch {n : Nat} {gate : Poll σ} {cs : List (Fin n)}
    (h : p.step n = .branch gate cs) : p.inside n = handles cs := by
  rw [inside, h]

theorem inside_loop {n : Nat} {gate : Poll σ} {cs : List (Fin n)} (h : p.step n = .loop gate cs) :
    p.inside n = handles cs := by
  rw [inside, h]

theorem inside_lt {n c : Nat} (h : c ∈ p.inside n) : c < n := by
  unfold inside at h
  split at h
  all_goals simp only [handles, List.mem_map, List.not_mem_nil] at h
  all_goals obtain ⟨c, -, rfl⟩ := h
  all_goals exact c.isLt

/-- A step with all that is inside it, however deep. -/
def below (p : StepPlan σ) (n : Nat) : List Nat :=
  n :: match p.step n with
    | .sequence cs | .branch _ cs | .loop _ cs => cs.flatMap fun c => p.below c.val
    | .action _ | .wait _ _ | .own _ => []
termination_by n
decreasing_by all_goals exact c.isLt

def belowAll (steps : List Nat) : List Nat := steps.flatMap p.below

theorem below_eq (n : Nat) : p.below n = n :: p.belowAll (p.inside n) := by
  rw [below, belowAll, inside]
  split <;> simp [handles, List.flatMap_map, *]

theorem mem_below_self (n : Nat) : n ∈ p.below n := by
  rw [below_eq]
  exact List.mem_cons_self

theorem mem_belowAll {steps : List Nat} {i : Nat} :
    i ∈ p.belowAll steps ↔ ∃ n ∈ steps, i ∈ p.below n := List.mem_flatMap

theorem belowAll_cons (n : Nat) (steps : List Nat) :
    p.belowAll (n :: steps) = p.below n ++ p.belowAll steps := List.flatMap_cons ..

theorem belowAll_append (a b : List Nat) : p.belowAll (a ++ b) = p.belowAll a ++ p.belowAll b :=
  List.flatMap_append ..

theorem below_subset {p : StepPlan σ} {steps : List Nat} {n : Nat} (hn : n ∈ steps) :
    p.below n ⊆ p.belowAll steps := fun _ hi => p.mem_belowAll.mpr ⟨n, hn, hi⟩

theorem belowAll_mono {p : StepPlan σ} {steps more : List Nat} (h : steps ⊆ more) :
    p.belowAll steps ⊆ p.belowAll more := by
  intro i hi
  obtain ⟨n, hn, hi⟩ := p.mem_belowAll.mp hi
  exact below_subset (h hn) hi

theorem belowAll_inside_subset (n : Nat) : p.belowAll (p.inside n) ⊆ p.below n := by
  rw [below_eq]
  exact List.subset_cons_self n _

theorem mem_below_of_inside {n c i : Nat} (hc : c ∈ p.inside n) (hi : i ∈ p.below c) :
    i ∈ p.below n := by
  rw [below_eq]
  exact List.mem_cons_of_mem n (p.mem_belowAll.mpr ⟨c, hc, hi⟩)

theorem le_of_mem_below {n i : Nat} (h : i ∈ p.below n) : i ≤ n := by
  induction n using Nat.strongRecOn with
  | ind n ih =>
    rw [below_eq, List.mem_cons] at h
    rcases h with rfl | h
    · exact Nat.le_refl i
    · obtain ⟨c, hc, hi⟩ := p.mem_belowAll.mp h
      have hlt := p.inside_lt hc
      have hle := ih c hlt hi
      omega

theorem ne_of_notMem_below {n i : Nat} (h : i ∉ p.below n) : i ≠ n := by
  rintro rfl
  exact h (p.mem_below_self i)

theorem notMem_belowAll_inside (n : Nat) : n ∉ p.belowAll (p.inside n) := by
  intro h
  obtain ⟨c, hc, hn⟩ := p.mem_belowAll.mp h
  have hlt := p.inside_lt hc
  have hle := p.le_of_mem_below hn
  omega

/-- A step that remembers nothing of having been run. -/
def AsBuilt (s : Site σ) (n : Nat) : Prop :=
  match p.step n with
  | .action _ => (s.states n).done = false
  | .wait _ _ => (s.states n).startedAt = none
  | .branch _ _ => (s.states n).entered = none
  | .loop _ _ => (s.states n).iterations = 0 ∧ (s.states n).finished = false
  | .sequence _ | .own _ => True

/-- A step as it was built, with all that is below it. -/
def Fresh (s : Site σ) (n : Nat) : Prop := ∀ i ∈ p.below n, p.AsBuilt s i

theorem Fresh.inside {p : StepPlan σ} {s : Site σ} {n c : Nat} (h : p.Fresh s n)
    (hc : c ∈ p.inside n) : p.Fresh s c := by
  intro i hi
  exact h i (p.mem_below_of_inside hc hi)

/-- All steps are fresh where nothing has been run. -/
theorem fresh_new (w : σ) (n : Nat) : p.Fresh { world := w } n := by
  intro i _
  unfold AsBuilt
  cases p.step i <;> simp

theorem Fresh.congr {p : StepPlan σ} {s s' : Site σ} {n : Nat} (h : p.Fresh s n)
    (hs : ∀ i ∈ p.below n, s'.states i = s.states i) : p.Fresh s' n := by
  intro i hi
  have hb := h i hi
  unfold AsBuilt at hb ⊢
  rw [hs i hi]
  exact hb

/-- What is inside a step does not know what the step remembers. -/
theorem Fresh.put {p : StepPlan σ} {s : Site σ} {n c : Nat} (h : p.Fresh s c)
    (hc : c ∈ p.inside n) (state : StepState) : p.Fresh (s.put n state) c := by
  refine h.congr fun i hi => Site.put_other _ _ _ _ ?_
  rintro rfl
  exact p.notMem_belowAll_inside i (p.mem_belowAll.mpr ⟨c, hc, hi⟩)

/-- An action, a sequence, a choice or a loop. -/
def Composes (n : Nat) : Prop :=
  match p.step n with
  | .action _ | .sequence _ | .branch _ _ | .loop _ _ => True
  | .wait _ _ | .own _ => False

/-- A tree of actions, sequences, choices and loops, and no step in it twice. -/
structure IsForest (steps : List Nat) : Prop where
  nodup : (p.belowAll steps).Nodup
  composes : ∀ i ∈ p.belowAll steps, p.Composes i

/-! ### Whether a step is done -/

theorem isDone_action {n : Nat} {poll : Poll σ} (s : Site σ) (h : p.step n = .action poll) :
    p.isDone s n = (s.states n).done := by
  rw [isDone, h]

theorem isDone_sequence {n : Nat} {cs : List (Fin n)} (s : Site σ) (h : p.step n = .sequence cs) :
    p.isDone s n = p.allDone s (p.inside n) := by
  rw [isDone, p.inside_sequence h, h, allDone, handles, List.all_map]
  rfl

theorem isDone_branch {n : Nat} {gate : Poll σ} {cs : List (Fin n)} (s : Site σ)
    (h : p.step n = .branch gate cs) :
    p.isDone s n = match (s.states n).entered with
      | some true => p.allDone s (p.inside n)
      | some false => true
      | none => false := by
  rw [isDone, p.inside_branch h, h, allDone, handles, List.all_map]
  rfl

theorem isDone_loop {n : Nat} {gate : Poll σ} {cs : List (Fin n)} (s : Site σ)
    (h : p.step n = .loop gate cs) : p.isDone s n = (s.states n).finished := by
  rw [isDone, h]

theorem allDone_eq_true {s : Site σ} {steps : List Nat} :
    p.allDone s steps = true ↔ ∀ c ∈ steps, p.isDone s c = true := List.all_eq_true

/-- Whether a step is done depends on the states below it only. -/
theorem isDone_congr {s s' : Site σ} (n : Nat) (hc : ∀ i ∈ p.below n, p.Composes i)
    (hs : ∀ i ∈ p.below n, s'.states i = s.states i) : p.isDone s' n = p.isDone s n := by
  induction n using Nat.strongRecOn with
  | ind n ih =>
    have hself := hs n (p.mem_below_self n)
    have hinside : p.allDone s' (p.inside n) = p.allDone s (p.inside n) := by
      rw [allDone, allDone, Bool.eq_iff_iff, List.all_eq_true, List.all_eq_true]
      refine forall₂_congr fun c hcn => ?_
      rw [ih c (p.inside_lt hcn) (fun i hi => hc i (p.mem_below_of_inside hcn hi))
        (fun i hi => hs i (p.mem_below_of_inside hcn hi))]
    have hn := hc n (p.mem_below_self n)
    unfold Composes at hn
    cases hp : p.step n with
    | action poll => rw [p.isDone_action _ hp, p.isDone_action _ hp, hself]
    | sequence cs => rw [p.isDone_sequence _ hp, p.isDone_sequence _ hp, hinside]
    | branch gate cs => rw [p.isDone_branch _ hp, p.isDone_branch _ hp, hself, hinside]
    | loop gate cs => rw [p.isDone_loop _ hp, p.isDone_loop _ hp, hself]
    | wait clock duration => simp [hp] at hn
    | own _ => simp [hp] at hn

/-! ### Putting steps back -/

/-- Puts back a step without those inside it. -/
def resetSelf (s : Site σ) (n : Nat) : Site σ :=
  match p.step n with
  | .action _ => s.put n { s.states n with done := false }
  | .wait _ _ => s.put n { s.states n with startedAt := none }
  | .sequence _ => s
  | .branch _ _ => s.put n { s.states n with entered := none }
  | .loop _ _ => s.put n { s.states n with iterations := 0, finished := false }
  | .own step => { s with world := step.reset s.world }

theorem resetStep_eq (s : Site σ) (n : Nat) :
    p.resetStep s n = p.resetAll (p.resetSelf s n) (p.inside n) := by
  rw [resetStep, resetAll, resetSelf, inside]
  cases p.step n <;> simp [handles, List.foldl_map]

/-- What each step keeps when it is put back is kept when a step is put back with all below it. -/
theorem resetStep_keeps {P : Site σ → Prop} (n : Nat)
    (hself : ∀ s, ∀ i ∈ p.below n, P s → P (p.resetSelf s i)) (s : Site σ) (hs : P s) :
    P (p.resetStep s n) := by
  induction n using Nat.strongRecOn generalizing s with
  | ind n ih =>
    rw [resetStep_eq, resetAll]
    have hinside : ∀ cs : List Nat, (∀ c ∈ cs, c ∈ p.inside n) → ∀ s, P s →
        P (cs.foldl p.resetStep s) := by
      intro cs hcs
      induction cs with
      | nil => exact fun s hs => hs
      | cons c cs ihc =>
        intro s hs
        have hc := hcs c List.mem_cons_self
        refine ihc (fun c hc => hcs c (List.mem_cons_of_mem _ hc)) _ ?_
        exact ih c (p.inside_lt hc) (fun s i hi => hself s i (p.mem_below_of_inside hc hi)) s hs
    exact hinside _ (fun _ hc => hc) _ (hself s n (p.mem_below_self n) hs)

theorem resetAll_keeps {P : Site σ → Prop} (steps : List Nat)
    (hself : ∀ s, ∀ i ∈ p.belowAll steps, P s → P (p.resetSelf s i)) (s : Site σ) (hs : P s) :
    P (p.resetAll s steps) := by
  rw [resetAll]
  induction steps generalizing s with
  | nil => exact hs
  | cons n steps ih =>
    rw [belowAll_cons] at hself
    refine ih (fun s i hi => hself s i (List.mem_append_right _ hi)) _ ?_
    exact p.resetStep_keeps n (fun s i hi => hself s i (List.mem_append_left _ hi)) s hs

theorem resetSelf_other (s : Site σ) {n i : Nat} (h : i ≠ n) :
    (p.resetSelf s n).states i = s.states i := by
  unfold resetSelf
  cases p.step n <;> simp [h]

theorem resetSelf_asked (s : Site σ) (n : Nat) : (p.resetSelf s n).asked = s.asked := by
  unfold resetSelf
  cases p.step n <;> rfl

theorem resetSelf_world (s : Site σ) {n : Nat} (h : p.Composes n) :
    (p.resetSelf s n).world = s.world := by
  unfold Composes at h
  unfold resetSelf
  cases hp : p.step n <;> simp_all

theorem resetSelf_asBuilt (s : Site σ) (n : Nat) : p.AsBuilt (p.resetSelf s n) n := by
  unfold AsBuilt resetSelf
  cases p.step n <;> simp

theorem AsBuilt.resetSelf {p : StepPlan σ} {s : Site σ} {i : Nat} (h : p.AsBuilt s i) (n : Nat) :
    p.AsBuilt (p.resetSelf s n) i := by
  by_cases hi : i = n
  · subst hi
    exact p.resetSelf_asBuilt s i
  · unfold AsBuilt at h ⊢
    rw [p.resetSelf_other s hi]
    exact h

/-- Putting back one step after another leaves each of them fresh if putting back one does. -/
theorem resetAll_fresh_of {steps : List Nat} (hstep : ∀ n ∈ steps, ∀ s, p.Fresh (p.resetStep s n) n)
    (s : Site σ) : ∀ n ∈ steps, p.Fresh (p.resetAll s steps) n := by
  induction steps generalizing s with
  | nil => simp
  | cons m steps ih =>
    intro n hn
    rcases List.mem_cons.mp hn with rfl | hn
    · intro i hi
      have hi' := hstep n List.mem_cons_self s i hi
      exact p.resetAll_keeps (P := fun s => p.AsBuilt s i) steps (fun s m _ h => h.resetSelf m) _ hi'
    · exact ih (fun n hn => hstep n (List.mem_cons_of_mem m hn)) _ n hn

/-- A step that was put back is as it was built, with all below it. -/
theorem resetStep_fresh (s : Site σ) (n : Nat) : p.Fresh (p.resetStep s n) n := by
  induction n using Nat.strongRecOn generalizing s with
  | ind n ih =>
    rw [resetStep_eq]
    intro i hi
    rw [below_eq, List.mem_cons] at hi
    rcases hi with rfl | hi
    · exact p.resetAll_keeps (P := fun s => p.AsBuilt s i) _ (fun s n _ h => h.resetSelf n) _
        (p.resetSelf_asBuilt s i)
    · obtain ⟨c, hc, hi⟩ := p.mem_belowAll.mp hi
      exact p.resetAll_fresh_of (fun c hc s => ih c (p.inside_lt hc) s) _ c hc i hi

theorem resetAll_fresh (s : Site σ) (steps : List Nat) :
    ∀ n ∈ steps, p.Fresh (p.resetAll s steps) n :=
  p.resetAll_fresh_of (fun n _ s => p.resetStep_fresh s n) s

theorem resetAll_other (s : Site σ) {steps : List Nat} {i : Nat} (h : i ∉ p.belowAll steps) :
    (p.resetAll s steps).states i = s.states i := by
  refine p.resetAll_keeps (P := fun s' => s'.states i = s.states i) steps ?_ s rfl
  intro s' n hn hs
  have hi : i ≠ n := by
    rintro rfl
    exact h hn
  rw [p.resetSelf_other s' hi, hs]

theorem resetAll_asked (s : Site σ) (steps : List Nat) : (p.resetAll s steps).asked = s.asked := by
  refine p.resetAll_keeps (P := fun s' => s'.asked = s.asked) steps ?_ s rfl
  intro s' n _ hs
  rw [resetSelf_asked, hs]

theorem resetAll_world (s : Site σ) {steps : List Nat} (h : ∀ i ∈ p.belowAll steps, p.Composes i) :
    (p.resetAll s steps).world = s.world := by
  refine p.resetAll_keeps (P := fun s' => s'.world = s.world) steps ?_ s rfl
  intro s' n hn hs
  rw [p.resetSelf_world s' (h n hn), hs]

section Calls

variable {p : StepPlan σ} {s s' s'' : Site σ} {n : Nat} {steps : List Nat}

/-! ### What the calls change -/

/-- Only the states of some steps may have changed. -/
def Spares (s s' : Site σ) (steps : List Nat) : Prop := ∀ i, i ∉ steps → s'.states i = s.states i

theorem Spares.of_states (h : s'.states = s.states) (steps : List Nat) : Spares s s' steps :=
  fun i _ => congrFun h i

theorem Spares.trans (h : Spares s s' steps) (h' : Spares s' s'' steps) : Spares s s'' steps :=
  fun i hi => (h' i hi).trans (h i hi)

theorem Spares.mono {more : List Nat} (h : Spares s s' steps) (hsub : steps ⊆ more) :
    Spares s s' more := fun i hi => h i fun hs => hi (hsub hs)

theorem resetAll_spares (p : StepPlan σ) (s : Site σ) (steps : List Nat) :
    Spares s (p.resetAll s steps) (p.belowAll steps) := fun _ hi => p.resetAll_other s hi

theorem decide_other (gate : Poll σ) (s : Site σ) {i : Nat} (hi : i ≠ n) :
    (decide gate n s).world.states i = s.states i := by
  unfold decide
  cases (s.states n).entered <;> simp [query, ask, hi]

theorem onStart_spares (p : StepPlan σ) (n : Nat) (s : Site σ) :
    Spares s (p.onStart n s).world (p.below n) := by
  intro i hi
  have hne := p.ne_of_notMem_below hi
  unfold onStart
  cases p.step n <;> simp [hne, decide_other]

theorem run_spares (p : StepPlan σ) (n : Nat) (s : Site σ) :
    Spares s (p.run n s).world (p.below n) := by
  intro i hi
  have hne := p.ne_of_notMem_below hi
  unfold run
  cases p.step n with
  | action poll =>
    dsimp only
    split <;> simp [query, ask, hne]
  | wait clock duration =>
    dsimp only
    split <;> simp [hne]
  | branch gate cs => exact decide_other gate s hne
  | sequence cs => rfl
  | loop gate cs => rfl
  | own step => rfl

theorem onDone_states (p : StepPlan σ) (n : Nat) (s : Site σ) :
    (p.onDone n s).world.states = s.states := by
  unfold onDone
  cases p.step n <;> rfl

theorem loopChildren_spares (hp : p.inside n = steps) (gate : Poll σ) (s : Site σ) :
    Spares s (p.loopChildren gate n steps s).world (p.below n) := by
  intro i hi
  rw [below_eq, hp, List.mem_cons, not_or] at hi
  obtain ⟨hne, hi⟩ := hi
  unfold loopChildren
  dsimp only
  split
  · rfl
  · split
    · split
      · rw [Site.put_other _ _ _ _ hne, p.resetAll_other _ hi]
        rfl
      · rw [Site.put_other _ _ _ _ hne]
        rfl
    · rfl

theorem children_spares (p : StepPlan σ) (n : Nat) (s : Site σ) :
    Spares s (p.children n s).world (p.below n) := by
  cases hp : p.step n with
  | branch gate cs =>
    intro i hi
    have hne := p.ne_of_notMem_below hi
    simp only [children, hp]
    exact decide_other gate s hne
  | loop gate cs =>
    simp only [children, hp]
    exact loopChildren_spares (p.inside_loop hp) gate s
  | _ =>
    simp only [children, hp]
    exact .of_states rfl _

/-- What a step lets run are steps inside it. -/
theorem children_subset (p : StepPlan σ) (n : Nat) (s : Site σ) :
    (p.children n s).answer ⊆ p.inside n := by
  unfold children inside
  cases p.step n with
  | sequence cs =>
    dsimp only
    split <;> simp
  | branch gate cs =>
    dsimp only
    split <;> simp
  | loop gate cs =>
    dsimp only [loopChildren]
    split
    · simp
    · split
      · split <;> simp
      · simp
  | _ => simp

end Calls

end StepPlan

end Criteria
