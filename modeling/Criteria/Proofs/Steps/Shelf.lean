import Criteria.Proofs.Queue.Move
import Criteria.Proofs.Steps.Current

/-!
# Items on the shelf

Each item on the shelf waits for the steps inside its current step, which are the steps of the item
above it. So what the interpreter still has to run is what is left of the active item, then what is
left of the items on the shelf, the innermost first.
-/
namespace Criteria

namespace StepPlan

open Inline (Leads Proceeds)

variable {σ : Type} {p : StepPlan σ} {s s' : Site σ}

namespace IsForest

variable {steps before after : List Nat} {n : Nat}

theorem composed (h : p.IsForest steps) (hn : n ∈ steps) : p.Composed n :=
  fun i hi => h.composes i (below_subset hn hi)

/-- The steps inside a step of a forest are a forest. -/
theorem inside (h : p.IsForest (before ++ n :: after)) : p.IsForest (p.inside n) := by
  have hnodup := h.nodup
  rw [belowAll_append, belowAll_cons, below_eq, List.nodup_append, List.nodup_append,
    List.nodup_cons] at hnodup
  refine ⟨hnodup.2.1.1.2, fun i hi => ?_⟩
  obtain ⟨c, hc, hi⟩ := p.mem_belowAll.mp hi
  exact h.composed (by simp) i (p.mem_below_of_inside hc hi)

/-- What is below one step is not below another one. -/
theorem apart (h : p.IsForest (before ++ n :: after)) {c i : Nat} (hc : c ∈ before ∨ c ∈ after)
    (hi : i ∈ p.below c) : i ∉ p.below n := by
  have hnodup := h.nodup
  rw [belowAll_append, belowAll_cons, List.nodup_append, List.nodup_append] at hnodup
  obtain ⟨-, ⟨-, -, hafter⟩, hbefore⟩ := hnodup
  intro hn
  rcases hc with hc | hc
  · exact hbefore i (below_subset hc hi) i (List.mem_append_left _ hn) rfl
  · exact hafter i hn i (below_subset hc hi) rfl

end IsForest

/-- The place of the current step of an item: the steps before it are done, and those behind it are
as they were built. -/
structure Placed (p : StepPlan σ) (s : Site σ) (i : QueueItem (Site σ)) (before : List Nat) (n : Nat)
    (after : List Nat) : Prop where
  nodes : i.nodes = before ++ n :: after
  cursor : i.cursor = some before.length
  done : ∀ c ∈ before, p.isDone s c = true
  fresh : ∀ c ∈ after, p.Fresh s c

namespace Placed

variable {i : QueueItem (Site σ)} {before after : List Nat} {n : Nat}

theorem mem (h : p.Placed s i before n after) : n ∈ i.nodes := by
  rw [h.nodes]
  simp

theorem eq_current (h : p.Placed s i before n after) {k m : Nat} (hk : i.cursor = some k)
    (hm : i.nodes[k]? = some m) : k = before.length ∧ m = n := by
  have hkl : k = before.length := Option.some.inj (hk.symm.trans h.cursor)
  refine ⟨hkl, ?_⟩
  rw [hkl, h.nodes, List.getElem?_append_right (Nat.le_refl _)] at hm
  simpa using hm.symm

theorem next_eq (h : p.Placed s i before n after) :
    i.nodes[before.length + 1]? = after.head? := by
  rw [h.nodes, List.getElem?_append_right (Nat.le_succ _)]
  simp [List.head?_eq_getElem?]

theorem eq_last (h : p.Placed s i before n after) {k m : Nat} (hk : i.cursor = some k)
    (hm : i.nodes[k]? = some m) (hlast : i.nodes[k + 1]? = none) :
    k = before.length ∧ m = n ∧ after = [] := by
  obtain ⟨rfl, rfl⟩ := h.eq_current hk hm
  rw [h.next_eq, List.head?_eq_none_iff] at hlast
  exact ⟨rfl, rfl, hlast⟩

/-- The item at its next step. -/
theorem next {m : Nat} (h : p.Placed s i before n (m :: after)) (hd : p.isDone s n = true) :
    p.Placed s { i with completed := i.completed + 1, cursor := some (before.length + 1) }
      (before ++ [n]) m after := by
  refine ⟨by simp [h.nodes], by simp, ?_, fun c hc => h.fresh c (List.mem_cons_of_mem m hc)⟩
  intro c hc
  rcases List.mem_append.mp hc with hc | hc
  · exact h.done c hc
  · rwa [List.mem_singleton.mp hc]

/-- What happens below the current step does not concern the other steps of the item. -/
theorem spares (h : p.Placed s i before n after) (hforest : p.IsForest i.nodes)
    (hs : Spares s s' (p.below n)) : p.Placed s' i before n after := by
  have hforest' := hforest
  rw [h.nodes] at hforest'
  refine ⟨h.nodes, h.cursor, fun c hc => ?_, fun c hc => ?_⟩
  · rw [p.isDone_congr c (hforest'.composed (by simp [hc]))
      fun j hj => hs j (hforest'.apart (.inl hc) hj)]
    exact h.done c hc
  · exact (h.fresh c hc).congr fun j hj => hs j (hforest'.apart (.inr hc) hj)

end Placed

/-- Items on the shelf, the one that waits for `i` first, and what the interpreter has to run behind
the steps of `i`. The outermost item is `root`. -/
inductive Under (p : StepPlan σ) (s : Site σ) (root : QueueItem (Site σ)) :
    QueueItem (Site σ) → List (QueueItem (Site σ)) → List Nat → Prop where
  | root : Under p s root root [] []
  | inner {i parent : QueueItem (Site σ)} {shelf : List (QueueItem (Site σ))}
    {before after todo : List Nat} {n : Nat} : i.nodes = p.inside n → i.onDone = none →
    p.Placed s parent before n after → p.Entered s n → Under p s root parent.renewed shelf todo →
    Under p s root i (parent :: shelf) (p.behind n ++ (after ++ todo))

namespace Under

variable {root i : QueueItem (Site σ)} {shelf : List (QueueItem (Site σ))} {todo : List Nat}

theorem forest (h : Under p s root i shelf todo) (hroot : p.IsForest root.nodes) :
    p.IsForest i.nodes := by
  induction h with
  | root => exact hroot
  | inner hnodes _ hplaced _ _ ih =>
    have hparent := hplaced.nodes ▸ ih
    rw [hnodes]
    exact hparent.inside

theorem of_shelf_eq_nil (h : Under p s root i [] todo) : i = root ∧ todo = [] := by
  cases h
  exact ⟨rfl, rfl⟩

theorem onDone_of_shelf {parent : QueueItem (Site σ)}
    (h : Under p s root i (parent :: shelf) todo) : i.onDone = none := by
  cases h with
  | inner _ hdone => exact hdone

theorem entered_congr {n : Nat} (h : p.Entered s n) (hs : s'.states n = s.states n) :
    p.Entered s' n := by
  unfold Entered at h ⊢
  rwa [hs]

/-- What happens below the steps of an item does not concern the items that wait for it. -/
theorem spares (h : Under p s root i shelf todo) (hroot : p.IsForest root.nodes)
    (hs : Spares s s' (p.belowAll i.nodes)) : Under p s' root i shelf todo := by
  induction h with
  | root => exact .root
  | @inner i parent shelf before after todo n hnodes hdone hplaced hentered hunder ih =>
    rw [hnodes] at hs
    have hforest : p.IsForest parent.nodes := hunder.forest hroot
    have hbelow : Spares s s' (p.below n) := hs.mono (p.belowAll_inside_subset n)
    have hn := hs n (p.notMem_belowAll_inside n)
    exact .inner hnodes hdone (hplaced.spares hforest hbelow) (entered_congr hentered hn)
      (ih (hbelow.mono (below_subset hplaced.mem)))

end Under

/-- An active item, what the interpreter has to run from here on, and the rank. -/
inductive Active (p : StepPlan σ) (s : Site σ) (root i : QueueItem (Site σ))
    (shelf : List (QueueItem (Site σ))) : List Nat → Nat → Prop where
  /-- The item has not begun. -/
  | waiting {todo : List Nat} : Under p s root i.renewed shelf todo → i.onStart = none →
    i.cursor = none → i.nodes ≠ [] → (∀ c ∈ i.nodes, p.Fresh s c) →
    Active p s root i shelf (i.nodes ++ todo) 1
  /-- The item is at one of its steps. -/
  | current {before after todo : List Nat} {n : Nat} : Under p s root i.renewed shelf todo →
    p.Placed s i before n after → p.InHand s n →
    Active p s root i shelf (p.current s n ++ (after ++ todo)) (p.rank s shelf.length n)

section

variable {root i : QueueItem (Site σ)} {shelf : List (QueueItem (Site σ))}
  {before after todo : List Nat} {n : Nat}

/-- When a step begins, the item is at it. -/
theorem begin_active (hroot : p.IsForest root.nodes) (hunder : Under p s root i.renewed shelf todo)
    (hplaced : p.Placed s i before n after) (hfresh : p.Fresh s n) :
    let s' := (p.onStart n s).world
    ∃ todo' rank', Active p s' root i shelf todo' rank' ∧
      Proceeds p (s.inline (n :: (after ++ todo))) 1 (s'.inline todo') rank' := by
  have hforest : p.IsForest i.nodes := hunder.forest hroot
  have hspares := p.onStart_spares n s
  obtain ⟨hhand, hproceeds⟩ :=
    onStart_spec (hforest.composed hplaced.mem) hfresh (after ++ todo) shelf.length
  refine ⟨_, _, .current ?_ (hplaced.spares hforest hspares) hhand, hproceeds⟩
  exact hunder.spares hroot (hspares.mono (below_subset hplaced.mem))

/-- When an item begins, it is at its first step. -/
theorem start_active {ns : List Nat} (hroot : p.IsForest root.nodes)
    (hunder : Under p s root i.renewed shelf todo) (hn : i.nodes = n :: ns)
    (hfresh : ∀ c ∈ i.nodes, p.Fresh s c) :
    let s' := (p.onStart n s).world
    ∃ todo' rank', Active p s' root { i with cursor := some 0 } shelf todo' rank' ∧
      Proceeds p (s.inline (n :: (ns ++ todo))) 1 (s'.inline todo') rank' := by
  rw [hn] at hfresh
  have hplaced : p.Placed s { i with cursor := some 0 } [] n ns :=
    ⟨hn, rfl, by simp, fun c hc => hfresh c (List.mem_cons_of_mem n hc)⟩
  exact begin_active hroot hunder hplaced (hfresh n List.mem_cons_self)

/-- When a step is done, the item goes on to the next one. -/
theorem next_active {m : Nat} (hroot : p.IsForest root.nodes)
    (hunder : Under p s root i.renewed shelf todo) (hplaced : p.Placed s i before n (m :: after))
    (hd : p.isDone s n = true) :
    let s' := (p.onStart m s).world
    let i' := { i with completed := i.completed + 1, cursor := some (before.length + 1) }
    ∃ todo' rank', Active p s' root i' shelf todo' rank' ∧
      Proceeds p (s.inline (p.current s n ++ (m :: after ++ todo))) (p.rank s shelf.length n)
        (s'.inline todo') rank' := by
  obtain ⟨todo', rank', hactive, hproceeds⟩ :=
    begin_active (i := { i with completed := i.completed + 1, cursor := some (before.length + 1) })
      hroot hunder (hplaced.next hd) (hplaced.fresh m List.mem_cons_self)
  rw [current_of_done hd, rank_of_done hd]
  exact ⟨todo', rank', hactive, hproceeds.mono (Nat.le_add_left 1 _)⟩

/-- While a step is run, the item stays at it. -/
theorem run_active (hroot : p.IsForest root.nodes) (hunder : Under p s root i.renewed shelf todo)
    (hplaced : p.Placed s i before n after) (hhand : p.InHand s n) (hd : p.isDone s n = false)
    (he : (p.children n s).answer = []) :
    let s' := (p.run n (p.children n s).world).world
    ∃ todo' rank', Active p s' root i shelf todo' rank' ∧
      Leads p (s.inline (p.current s n ++ (after ++ todo))) (s'.inline todo') := by
  have hforest : p.IsForest i.nodes := hunder.forest hroot
  have hspares := (p.children_spares n s).trans (p.run_spares n _)
  obtain ⟨hhand', hleads⟩ :=
    run_spec (hforest.composed hplaced.mem) hhand hd he (after ++ todo)
  refine ⟨_, _, .current ?_ (hplaced.spares hforest hspares) hhand', hleads⟩
  exact hunder.spares hroot (hspares.mono (below_subset hplaced.mem))

/-- When an item is left for the steps inside its current step, these are what is run next. -/
theorem enter_active (hroot : p.IsForest root.nodes) (hunder : Under p s root i.renewed shelf todo)
    (hplaced : p.Placed s i before n after) (hhand : p.InHand s n) (hd : p.isDone s n = false)
    (hne : (p.children n s).answer ≠ []) (name : String) :
    let s' := (p.children n s).world
    ∃ todo', Active p s' root (i.childOf name (p.children n s).answer) (i :: shelf) todo' 1 ∧
      Proceeds p (s.inline (p.current s n ++ (after ++ todo))) (p.rank s shelf.length n)
        (s'.inline todo') 1 := by
  have hforest : p.IsForest i.nodes := hunder.forest hroot
  have hspares := p.children_spares n s
  obtain ⟨hanswer, hfresh, hentered, hproceeds⟩ :=
    enter_spec (hforest.composed hplaced.mem) hhand hd hne (after ++ todo) shelf.length
  rw [hanswer] at hne ⊢
  have hunder' := hunder.spares hroot (hspares.mono (below_subset hplaced.mem))
  refine ⟨_, .waiting ?_ rfl rfl hne hfresh, hproceeds⟩
  exact .inner rfl rfl (hplaced.spares hforest hspares) hentered hunder'

/-- When the last step of an item is done, the item that waited for it is at its current step. -/
theorem resume_active {parent : QueueItem (Site σ)}
    (hunder : Under p s root i.renewed (parent :: shelf) todo) (hplaced : p.Placed s i before n [])
    (hd : p.isDone s n = true) : ∃ rank', Active p s root parent shelf todo rank' ∧
      rank' < p.rank s (parent :: shelf).length n := by
  cases hunder with
  | @inner _ _ _ _ _ _ m hnodes _ hparent hentered hunder =>
    have hall : p.allDone s (p.inside m) = true := by
      rw [← hnodes, allDone_eq_true]
      intro c hc
      rw [show i.renewed.nodes = _ from hplaced.nodes, List.mem_append, List.mem_singleton] at hc
      rcases hc with hc | rfl
      · exact hplaced.done c hc
      · exact hd
    obtain ⟨hhand, hcurrent, hrank⟩ := resume_spec hentered hall shelf.length
    have hactive := Active.current hunder hparent hhand
    rw [hcurrent] at hactive
    refine ⟨_, hactive, ?_⟩
    rw [rank_of_done hd, List.length_cons]
    omega

end

end StepPlan

end Criteria
