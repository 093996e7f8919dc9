import Criteria.Proofs.Steps.Tree
import Mathlib.Logic.Function.Iterate

/-!
# Steps run inline

An interpreter that runs steps one inside the other, without ticks and without anything remembered
about a step. Each call that the queue makes about a step takes the interpreter some steps further,
or brings the queue nearer to a call that does.
-/
namespace Criteria

/-- Steps that are left to run one after another, the world, and what has been asked so far. -/
structure Inline (σ : Type) where
  todo : List Nat
  world : σ
  asked : List (Nat × Bool)

/-- The interpreter at a site, with steps left to run. -/
def Site.inline {σ : Type} (s : Site σ) (todo : List Nat) : Inline σ := ⟨todo, s.world, s.asked⟩

namespace Inline

open StepPlan (handles)

variable {σ : Type} {p : StepPlan σ}

/-- Asks the world on behalf of a step, and goes on with what the answer leaves to run. -/
def query (m : Inline σ) (poll : Poll σ) (n : Nat) (todo : Bool → List Nat) : Inline σ :=
  let r := poll m.world
  ⟨todo r.answer, r.world, m.asked ++ [(n, r.answer)]⟩

/-- An action is asked until it says yes, a sequence gives way to its steps, a choice gives way to
its steps or to none, and a loop to its steps with itself behind them or to none. -/
def next (p : StepPlan σ) (m : Inline σ) : Inline σ :=
  match m.todo with
  | [] => m
  | n :: rest =>
    match p.step n with
    | .action poll => m.query poll n fun answer => if answer then rest else n :: rest
    | .sequence cs => { m with todo := handles cs ++ rest }
    | .branch gate cs => m.query gate n fun answer => if answer then handles cs ++ rest else rest
    | .loop gate cs => m.query gate n fun answer => if answer then handles cs ++ n :: rest else rest
    | .wait _ _ | .own _ => { m with todo := rest }

theorem next_of_todo_eq_nil {m : Inline σ} (h : m.todo = []) : next p m = m := by
  rw [next, h]

theorem iterate_of_todo_eq_nil {m : Inline σ} (h : m.todo = []) (k : Nat) :
    (next p)^[k] m = m := Function.iterate_fixed (next_of_todo_eq_nil h) k

section Site

variable (s : Site σ) {n : Nat} {cs : List (Fin n)} (rest : List Nat)

theorem next_action {poll : Poll σ} (h : p.step n = .action poll) :
    let r := StepPlan.query poll n s
    next p (s.inline (n :: rest)) = r.world.inline (if r.answer then rest else n :: rest) := by
  simp only [next, Site.inline, h]
  rfl

theorem next_sequence (h : p.step n = .sequence cs) :
    next p (s.inline (n :: rest)) = s.inline (p.inside n ++ rest) := by
  simp [next, Site.inline, h, p.inside_sequence h]

theorem next_branch {gate : Poll σ} (h : p.step n = .branch gate cs) :
    let r := StepPlan.query gate n s
    next p (s.inline (n :: rest)) =
      r.world.inline (if r.answer then p.inside n ++ rest else rest) := by
  simp only [next, Site.inline, h, p.inside_branch h]
  rfl

theorem next_loop {gate : Poll σ} (h : p.step n = .loop gate cs) :
    let r := StepPlan.query gate n s
    next p (s.inline (n :: rest)) =
      r.world.inline (if r.answer then p.inside n ++ n :: rest else rest) := by
  simp only [next, Site.inline, h, p.inside_loop h]
  rfl

end Site

/-- One step or more lead from `m` to `m'`. -/
def Leads (p : StepPlan σ) (m m' : Inline σ) : Prop := m.todo ≠ [] ∧ ∃ k, (next p)^[k + 1] m = m'

theorem Leads.one {s : Site σ} {n : Nat} {rest : List Nat} {m : Inline σ}
    (h : next p (s.inline (n :: rest)) = m) : Leads p (s.inline (n :: rest)) m :=
  ⟨List.cons_ne_nil n rest, 0, h⟩

theorem Leads.trans {m m' m'' : Inline σ} (h : Leads p m m') (h' : Leads p m' m'') :
    Leads p m m'' := by
  obtain ⟨hm, k, rfl⟩ := h
  obtain ⟨-, l, rfl⟩ := h'
  refine ⟨hm, l + 1 + k, ?_⟩
  rw [Nat.add_assoc, Function.iterate_add_apply]

/-- Some steps lead from `m` to `m'`, or these are the same and the rank has become less. -/
def Proceeds (p : StepPlan σ) (m : Inline σ) (rank : Nat) (m' : Inline σ) (rank' : Nat) : Prop :=
  Leads p m m' ∨ m' = m ∧ rank' < rank

theorem Proceeds.mono {m m' : Inline σ} {rank rank' higher : Nat}
    (h : Proceeds p m rank m' rank') (hle : rank ≤ higher) : Proceeds p m higher m' rank' :=
  h.imp_right fun ⟨hm, hlt⟩ => ⟨hm, Nat.lt_of_lt_of_le hlt hle⟩

end Inline

namespace StepPlan

open Inline (Leads Proceeds)

variable {σ : Type} {p : StepPlan σ} {s : Site σ} {n : Nat}

/-- All that is below a step is put together from other steps, down to actions. -/
def Composed (p : StepPlan σ) (n : Nat) : Prop := ∀ i ∈ p.below n, p.Composes i

theorem Composed.inside {c : Nat} (h : p.Composed n) (hc : c ∈ p.inside n) : p.Composed c :=
  fun i hi => h i (p.mem_below_of_inside hc hi)

/-- Steps that are done without having been run are passed over in silence. -/
theorem leads_skipAll {steps : List Nat}
    (hskip : ∀ c ∈ steps, ∀ rest, Leads p (s.inline (c :: rest)) (s.inline rest))
    (rest : List Nat) :
    s.inline (steps ++ rest) = s.inline rest ∨
      Leads p (s.inline (steps ++ rest)) (s.inline rest) := by
  induction steps with
  | nil => exact .inl rfl
  | cons c steps ih =>
    right
    have hc := hskip c List.mem_cons_self (steps ++ rest)
    rcases ih fun c hc => hskip c (List.mem_cons_of_mem _ hc) with heq | hrest
    · rwa [heq] at hc
    · exact hc.trans hrest

theorem leads_skip (hc : p.Composed n) (hf : p.Fresh s n) (hd : p.isDone s n = true)
    (rest : List Nat) : Leads p (s.inline (n :: rest)) (s.inline rest) := by
  induction n using Nat.strongRecOn generalizing rest with
  | ind n ih =>
    have hself := hf n (p.mem_below_self n)
    have hn := hc n (p.mem_below_self n)
    unfold AsBuilt at hself
    unfold Composes at hn
    cases hp : p.step n with
    | action poll => simp_all [p.isDone_action s hp]
    | branch gate cs => simp_all [p.isDone_branch s hp]
    | loop gate cs => simp_all [p.isDone_loop s hp]
    | wait clock duration => simp [hp] at hn
    | own step => simp [hp] at hn
    | sequence cs =>
      rw [p.isDone_sequence s hp, allDone_eq_true] at hd
      have hone := Leads.one (Inline.next_sequence s rest hp)
      have hskip : ∀ c ∈ p.inside n, ∀ rest, Leads p (s.inline (c :: rest)) (s.inline rest) :=
        fun c hcn rest => ih c (p.inside_lt hcn) (hc.inside hcn) (hf.inside hcn) (hd c hcn) rest
      rcases leads_skipAll hskip rest with heq | hrest
      · rwa [heq] at hone
      · exact hone.trans hrest

end StepPlan

end Criteria
