import Criteria.Proofs.Queue.Conservation
import Criteria.Proofs.Steps.Shelving

/-!
# Items without steps in common

What is done with an item changes only the steps below it. So if the items of a queue have no steps
in common, and neither gates nor hooks change what a step remembers, then the steps of the pending
ones are as they were built, whatever the host asks for.
-/
namespace Criteria

namespace Queue

variable {σ : Type}

/-- The world after a soft reset: the item being worked on is put back if it persists. -/
theorem softReset_world (h : StepHost σ) (q : Queue σ) (w : σ) :
    (q.softReset h w).world =
      match q.root?.filter (·.persists) with
      | some root => h.afterReset w root.nodes
      | none => w := by
  unfold softReset
  cases q.root?.filter (·.persists) <;> simp [QueueItem.reset]

end Queue

/-- The gate and the hooks of an item leave the steps alone. -/
structure QueueItem.Discreet {σ : Type} (i : QueueItem (Site σ)) : Prop where
  gate : ∀ g, i.gate = some g → ∀ nodes s, (g nodes s).world.states = s.states
  onStart : ∀ s, (afterHook i.onStart s).states = s.states
  onDone : ∀ s, (afterHook i.onDone s).states = s.states

namespace QueueItem

variable {σ : Type} {i : QueueItem (Site σ)}

/-- The place of an item among its steps has no part in it. -/
theorem Discreet.of_renewed {j : QueueItem (Site σ)} (hi : i.Discreet)
    (hj : j.renewed = i.renewed) : j.Discreet where
  gate := by
    rw [show j.gate = i.gate from congrArg (·.gate) hj]
    exact hi.gate
  onStart := by
    rw [show j.onStart = i.onStart from congrArg (·.onStart) hj]
    exact hi.onStart
  onDone := by
    rw [show j.onDone = i.onDone from congrArg (·.onDone) hj]
    exact hi.onDone

/-- The gate and the hooks of an item over the world know nothing of the steps. -/
theorem onSite_discreet (i : QueueItem σ) : i.onSite.Discreet where
  gate g hg nodes s := by
    obtain ⟨g, -, rfl⟩ := Option.map_eq_some_iff.mp hg
    rfl
  onStart s := by rw [onSite, StepPlan.afterHook_ask]
  onDone s := by rw [onSite, StepPlan.afterHook_ask]

theorem childOf_discreet (i : QueueItem (Site σ)) (name : String) (nodes : List Nat) :
    (i.childOf name nodes).Discreet :=
  ⟨fun g hg => by simp [childOf] at hg, fun _ => rfl, fun _ => rfl⟩

theorem Discreet.checkReady (hi : i.Discreet) (s : Site σ) :
    (i.checkReady s).world.states = s.states := by
  unfold QueueItem.checkReady
  cases i.ready with
  | true => rfl
  | false =>
    cases hg : i.gate with
    | none => rfl
    | some g => exact hi.gate g hg i.nodes s

end QueueItem

/-- A round of gates leaves the steps alone if each gate does. -/
theorem Queue.checkAll_states {σ : Type} {items : List (QueueItem (Site σ))}
    (hi : ∀ i ∈ items, i.Discreet) (s : Site σ) : (checkAll items s).world.states = s.states := by
  induction items generalizing s with
  | nil => rfl
  | cons i items ih =>
    rw [List.forall_mem_cons] at hi
    exact (ih hi.2 _).trans (hi.1.checkReady s)

theorem Queue.refresh_states {σ : Type} {q : Queue (Site σ)} (hi : ∀ i ∈ q.pending, i.Discreet)
    (now : Nat) (s : Site σ) : (q.refresh now s).world.states = s.states := by
  unfold refresh
  cases q.isRoundDue now with
  | true => exact checkAll_states hi s
  | false => rfl

namespace StepPlan

variable {σ : Type} {p : StepPlan σ} {s s' s'' : Site σ} {n : Nat} {steps : List Nat}

/-- What is done with an item changes only the steps below it. -/
theorem move_spares {q q' : Queue (Site σ)} {i : QueueItem (Site σ)} {acts : List Act}
    (hm : Queue.Move p.host q i s acts q' s') (hi : i.Discreet) :
    Spares s s' (p.belowAll i.nodes) := by
  have hbelow : ∀ {k n : Nat}, i.nodes[k]? = some n → p.below n ⊆ p.belowAll i.nodes :=
    fun hn => below_subset (List.mem_of_getElem? hn)
  have hend : ∀ n, Spares s (QueueItem.afterHook i.onDone (p.onDone n s).world)
      (p.belowAll i.nodes) :=
    fun n => .of_states ((hi.onDone _).trans (p.onDone_states n s)) _
  cases hm with
  | @start n ns _ hn =>
    have hsub : p.below n ⊆ p.belowAll i.nodes := below_subset (by simp [hn])
    exact (Spares.of_states (hi.onStart s) _).trans ((p.onStart_spares n _).mono hsub)
  | @run k n _ hn =>
    exact ((p.children_spares n s).trans (p.run_spares n _)).mono (hbelow hn)
  | @enter k n cs _ hn => exact (p.children_spares n s).mono (hbelow hn)
  | @next k n n' _ _ _ hn' =>
    exact (Spares.of_states (p.onDone_states n s) _).trans ((p.onStart_spares n' _).mono (hbelow hn'))
  | @resume k n => exact hend n
  | @finish k n => exact hend n
  | @again k n => exact (hend n).trans (p.resetAll_spares _ i.nodes)

/-- No step is below both items. -/
def Apart (p : StepPlan σ) (i j : QueueItem (Site σ)) : Prop :=
  List.Disjoint (p.belowAll i.nodes) (p.belowAll j.nodes)

/-- An item may be queued that leaves the steps alone but by running its own, which are as they were
built and which no other item has. -/
structure Welcome (p : StepPlan σ) (q : Queue (Site σ)) (s : Site σ) (i : QueueItem (Site σ)) :
    Prop where
  discreet : i.Discreet
  fresh : ∀ n ∈ i.nodes, p.Fresh s n
  apart : ∀ j ∈ q.items, p.Apart j i

/-- No item in the queue has a step in common with a pending one, and the steps of these are as they
were built. -/
structure Tidy (p : StepPlan σ) (q : Queue (Site σ)) (s : Site σ) : Prop where
  discreet : ∀ i ∈ q.items, i.Discreet
  fresh : ∀ i ∈ q.pending, ∀ n ∈ i.nodes, p.Fresh s n
  aside : ∀ i ∈ q.inFlight, ∀ j ∈ q.pending, p.Apart i j
  apart : q.pending.Pairwise p.Apart

/-- Steps apart from those that are changed are as they were. -/
theorem Apart.fresh {i j : QueueItem (Site σ)} (h : p.Apart i j)
    (hs : Spares s s' (p.belowAll i.nodes)) (hj : ∀ n ∈ j.nodes, p.Fresh s n) :
    ∀ n ∈ j.nodes, p.Fresh s' n := by
  intro n hn
  refine (hj n hn).congr fun m hm => hs m fun hmi => ?_
  exact h hmi (below_subset hn hm)

namespace Tidy

variable {q q' : Queue (Site σ)} {i : QueueItem (Site σ)}

/-- A queue without an item in flight is tidy if its pending items are. -/
theorem of_idle (ha : q.active = none) (hs : q.shelf = []) (hd : ∀ i ∈ q.pending, i.Discreet)
    (hf : ∀ i ∈ q.pending, ∀ n ∈ i.nodes, p.Fresh s n) (hp : q.pending.Pairwise p.Apart) :
    p.Tidy q s := by
  have hflight : q.inFlight = [] := by simp [Queue.inFlight, ha, hs]
  refine ⟨fun i hi => ?_, hf, by simp [hflight], hp⟩
  rw [Queue.mem_items, hflight] at hi
  exact hd i (hi.resolve_left List.not_mem_nil)

theorem of_no_items (h : q.items = []) : p.Tidy q s := by
  have hall : ∀ i, i ∉ q.inFlight ∧ i ∉ q.pending := by
    intro i
    rw [← not_or, ← Queue.mem_items, h]
    exact List.not_mem_nil
  have hpending : q.pending = [] := List.eq_nil_iff_forall_not_mem.mpr fun i => (hall i).2
  exact ⟨by simp [h], by simp [hpending], by simp [hpending], by simp [hpending]⟩

/-- A queue stays tidy when what is done changes only the steps below an item in flight, and there
are no others below the items in flight after it. -/
theorem flight (ht : p.Tidy q s) (hi : i ∈ q.inFlight) (hs : Spares s s' (p.belowAll i.nodes))
    (hpending : q'.pending = q.pending)
    (hflight : ∀ j ∈ q'.inFlight,
      j.Discreet ∧ ∃ k ∈ q.inFlight, p.belowAll j.nodes ⊆ p.belowAll k.nodes) : p.Tidy q' s' where
  discreet j hj := by
    rcases Queue.mem_items.mp hj with hj | hj
    · exact (hflight j hj).1
    · exact ht.discreet j (Queue.mem_items.mpr (.inr (hpending ▸ hj)))
  fresh j hj := by
    rw [hpending] at hj
    exact (ht.aside i hi j hj).fresh hs (ht.fresh j hj)
  aside j hj := by
    obtain ⟨-, k, hk, hsub⟩ := hflight j hj
    rw [hpending]
    exact fun j' hj' => List.disjoint_of_subset_left hsub (ht.aside k hk j' hj')
  apart := hpending ▸ ht.apart

/-- A welcome item may be put at the end of the pending ones. -/
theorem enqueue (ht : p.Tidy q s) (hi : p.Welcome q s i) : p.Tidy (q.enqueue i) s where
  discreet j hj := by
    rcases Queue.mem_items.mp hj with hj | hj
    · exact ht.discreet j (Queue.mem_items.mpr (.inl hj))
    · rcases List.mem_append.mp hj with hj | hj
      · exact ht.discreet j (Queue.mem_items.mpr (.inr hj))
      · exact List.mem_singleton.mp hj ▸ hi.discreet
  fresh j hj := by
    rcases List.mem_append.mp hj with hj | hj
    · exact ht.fresh j hj
    · exact List.mem_singleton.mp hj ▸ hi.fresh
  aside j hj k hk := by
    rcases List.mem_append.mp hk with hk | hk
    · exact ht.aside j hj k hk
    · exact List.mem_singleton.mp hk ▸ hi.apart j (Queue.mem_items.mpr (.inl hj))
  apart := by
    refine List.pairwise_append.mpr ⟨ht.apart, List.pairwise_singleton _ _, fun j hj k hk => ?_⟩
    exact List.mem_singleton.mp hk ▸ hi.apart j (Queue.mem_items.mpr (.inr hj))

theorem offer (ht : p.Tidy q s) (hi : q.refusal? i = none → p.Welcome q s i) :
    p.Tidy (q.offer i) s := by
  unfold Queue.offer
  cases hr : q.refusal? i with
  | some refusal => exact ht
  | none => exact ht.enqueue (hi hr)

/-- A queue stays tidy through everything that is done with the active item. -/
theorem move {acts : List Act} (ht : p.Tidy (q.activate i) s)
    (hm : Queue.Move p.host q i s acts q' s') : p.Tidy q' s' := by
  have hi : i ∈ (q.activate i).inFlight := List.mem_cons_self
  have hdiscreet : i.Discreet := ht.discreet i (Queue.mem_items.mpr (.inl hi))
  have hspares := move_spares hm hdiscreet
  -- An item in flight may stay there.
  have hstay : ∀ j ∈ (q.activate i).inFlight,
      j.Discreet ∧ ∃ k ∈ (q.activate i).inFlight, p.belowAll j.nodes ⊆ p.belowAll k.nodes :=
    fun j hj => ⟨ht.discreet j (Queue.mem_items.mpr (.inl hj)), j, hj, List.Subset.refl _⟩
  -- The active item may go on to another place among its steps.
  have htop : ∀ {i' : QueueItem (Site σ)}, i'.renewed = i.renewed → p.Tidy (q.activate i') s' := by
    intro i' hi'
    have hnodes : i'.nodes = i.nodes := congrArg (·.nodes) hi'
    refine ht.flight hi hspares rfl fun j hj => ?_
    rcases List.mem_cons.mp hj with rfl | hj
    · exact ⟨hdiscreet.of_renewed hi', i, hi, by rw [hnodes]; exact List.Subset.refl _⟩
    · exact hstay j (List.mem_cons_of_mem _ hj)
  cases hm with
  | start => exact htop rfl
  | run => exact htop rfl
  | @enter k n cs _ hn _ hcs =>
    refine ht.flight hi hspares rfl fun j hj => ?_
    rcases List.mem_cons.mp hj with rfl | hj
    · have hsub : cs ⊆ p.inside n := hcs ▸ p.children_subset n s
      have hbelow : p.belowAll cs ⊆ p.below n :=
        List.Subset.trans (belowAll_mono hsub) (p.belowAll_inside_subset n)
      exact ⟨i.childOf_discreet _ cs, i, hi,
        List.Subset.trans hbelow (below_subset (List.mem_of_getElem? hn))⟩
    · exact hstay j hj
  | next => exact htop rfl
  | resume _ _ _ _ hshelf =>
    refine ht.flight hi hspares rfl fun j hj => hstay j ?_
    rw [Queue.inFlight_activate, hshelf]
    exact List.mem_cons_of_mem _ hj
  | finish _ _ _ _ hshelf =>
    refine ht.flight hi hspares rfl fun j hj => ?_
    simp [Queue.inFlight, hshelf] at hj
  | again _ _ _ _ hshelf =>
    refine offer (ht.flight hi hspares rfl fun j hj => ?_) fun _ =>
      ⟨hdiscreet.of_renewed rfl, p.resetAll_fresh _ i.nodes, fun j hj => ?_⟩
    · simp [Queue.inFlight, hshelf] at hj
    · have hj : j ∈ q.pending := by simpa [Queue.items, hshelf] using hj
      exact (ht.aside i hi j hj).symm

/-- A queue stays tidy through a round of gates. -/
theorem refresh (ht : p.Tidy q s) (now : Nat) :
    p.Tidy (q.refresh now s).value (q.refresh now s).world := by
  obtain ⟨hv, hf, -⟩ := Queue.refresh_spec q now s
  have hstates : (q.refresh now s).world.states = s.states :=
    Queue.refresh_states (fun i hi => ht.discreet i (Queue.mem_items.mpr (.inr hi))) now s
  have hflight : (q.refresh now s).value.inFlight = q.inFlight := by
    rw [Queue.inFlight, Queue.refresh_active, Queue.refresh_shelf, Queue.inFlight]
  constructor
  · intro j hj
    rcases Queue.mem_items.mp hj with hj | hj
    · rw [hflight] at hj
      exact ht.discreet j (Queue.mem_items.mpr (.inl hj))
    · obtain ⟨i, hi, he⟩ := Queue.exists_of_mem_right hf hj
      exact (ht.discreet i (Queue.mem_items.mpr (.inr hi))).of_renewed (by rw [he]; rfl)
  · intro j hj
    obtain ⟨i, hi, he⟩ := Queue.exists_of_mem_right hf hj
    rw [he]
    exact fun n hn => (ht.fresh i hi n hn).congr fun m _ => congrFun hstates m
  · intro i hi j hj
    rw [hflight] at hi
    obtain ⟨j', hj', he⟩ := Queue.exists_of_mem_right hf hj
    rw [he]
    exact ht.aside i hi j' hj'
  · have hapart : (q.pending.map (·.renewed)).Pairwise p.Apart := List.pairwise_map.mpr ht.apart
    rw [← Queue.map_renewed_of_ready hf, List.pairwise_map] at hapart
    exact hapart

/-- The first ready item may become the active one. -/
theorem choose {others : List (QueueItem (Site σ))} (ht : p.Tidy q s) (hshelf : q.shelf = [])
    (hr : Queue.takeReady q.pending = some (i, others)) :
    p.Tidy ({ q with pending := others }.activate i) s := by
  obtain ⟨before, after, hsplit, rfl, -, -⟩ := Queue.takeReady_eq_some hr
  have hperm : q.pending.Perm (i :: (before ++ after)) := hsplit ▸ List.perm_middle
  have hapart := (hperm.pairwise_iff fun h => List.Disjoint.symm h).mp ht.apart
  rw [List.pairwise_cons] at hapart
  have hflight : ({ q with pending := before ++ after }.activate i).inFlight = [i] := by
    rw [Queue.inFlight_activate, hshelf]
  constructor
  · intro j hj
    rw [Queue.mem_items, hflight, List.mem_singleton, ← List.mem_cons] at hj
    exact ht.discreet j (Queue.mem_items.mpr (.inr (hperm.mem_iff.mpr hj)))
  · exact fun j hj => ht.fresh j (hperm.mem_iff.mpr (List.mem_cons_of_mem i hj))
  · rw [hflight, List.forall_mem_singleton]
    exact hapart.1
  · exact hapart.2

theorem ticked {acts : List Act} {status : TickStatus} (ht : p.Tidy q s) (hq : q.Sound)
    (hd : Queue.Ticked p.host q s acts status q' s') : p.Tidy q' s' := by
  cases hd with
  | active ha hm =>
    rw [← Queue.activate_of_active ha] at ht
    exact ht.move (hm (hq.of_active ha).workable)
  | @chosen i _ _ _ _ ha hr hm =>
    have hi := (hq.choose ha hr).items i (by simp [Queue.mem_items])
    exact (ht.choose (hq.active ha) hr).move (hm hi.workable)
  | idle => exact ht

/-- A queue stays tidy through a tick. -/
theorem tick (ht : p.Tidy q s) (hq : q.Sound) :
    p.Tidy (q.tick p.host s).value.2 (q.tick p.host s).world :=
  (ht.refresh _).ticked (hq.refresh _ s) (Queue.tick_ticked p.host q s)

/-- A queue stays tidy through a soft reset. -/
theorem softReset (ht : p.Tidy q s) :
    p.Tidy (q.softReset p.host s).value (q.softReset p.host s).world := by
  have hkept : ∀ i ∈ q.pending.filter (·.persists), i ∈ q.pending :=
    fun i hi => (List.mem_filter.mp hi).1
  have hdiscreet : ∀ i ∈ q.pending.filter (·.persists), i.Discreet :=
    fun i hi => ht.discreet i (Queue.mem_items.mpr (.inr (hkept i hi)))
  have hapart := ht.apart.filter (·.persists)
  rw [Queue.softReset_value, Queue.softReset_world]
  cases hr : q.root?.filter (·.persists) with
  | none => exact of_idle rfl rfl hdiscreet (fun i hi => ht.fresh i (hkept i hi)) hapart
  | some root =>
    have hroot : root ∈ q.inFlight := by
      obtain ⟨hroot, -⟩ := Option.filter_eq_some_iff.mp hr
      rw [Queue.root?_eq] at hroot
      exact List.mem_of_getLast? hroot
    have haside : ∀ i ∈ q.pending.filter (·.persists), p.Apart root i :=
      fun i hi => ht.aside root hroot i (hkept i hi)
    refine of_idle rfl rfl ?_ ?_ ?_
    · refine List.forall_mem_cons.mpr ⟨?_, hdiscreet⟩
      exact (ht.discreet root (Queue.mem_items.mpr (.inl hroot))).of_renewed rfl
    · refine List.forall_mem_cons.mpr ⟨p.resetAll_fresh s root.nodes, fun i hi => ?_⟩
      exact (haside i hi).fresh (p.resetAll_spares s root.nodes) (ht.fresh i (hkept i hi))
    · exact List.pairwise_cons.mpr ⟨haside, hapart⟩

end Tidy

/-! ### Histories -/

open Queue (History Request)

/-- The host queues only items that are welcome, and leaves the steps alone elsewhere. -/
def Allows (p : StepPlan σ) (t : History (Site σ)) : Request (Site σ) → Prop
  | .submit i _ => t.queue.refusal? i = none → p.Welcome t.queue t.world i
  | .elsewhere change => (change t.world).states = t.world.states
  | .tick | .reset | .softReset => True

/-- Each request is allowed where it is made. -/
def Orderly (p : StepPlan σ) (interval : Nat) (w : Site σ) (requests : List (Request (Site σ))) :
    Prop :=
  ∀ before request later, requests = before ++ request :: later →
    p.Allows (History.after p.host interval w before) request

theorem Tidy.perform {t : History (Site σ)} (ht : p.Tidy t.queue t.world) (hq : t.queue.Sound)
    {request : Request (Site σ)} (hr : p.Allows t request) :
    p.Tidy (t.perform p.host request).queue (t.perform p.host request).world := by
  cases request with
  | submit i new =>
    rw [History.perform, Queue.submit_queue, Queue.submit_world]
    exact ht.offer hr
  | tick => exact ht.tick hq
  | reset => exact .of_no_items rfl
  | softReset => exact ht.softReset
  | elsewhere change =>
    exact ⟨ht.discreet, fun i hi n hn => (ht.fresh i hi n hn).congr fun m _ => congrFun hr m,
      ht.aside, ht.apart⟩

theorem after_tidy {interval : Nat} {w : Site σ} {requests : List (Request (Site σ))}
    (ho : p.Orderly interval w requests) :
    let t := History.after p.host interval w requests
    p.Tidy t.queue t.world := by
  refine History.after_induction
    (P := fun requests t => p.Orderly interval w requests → p.Tidy t.queue t.world) ?_ ?_ requests ho
  · exact fun _ => .of_no_items rfl
  · intro requests request ih ho
    refine (ih fun before r later he => ?_).perform (History.after_sound ..) ?_
    · exact ho before r (later ++ [request]) (by simp [he])
    · exact ho requests request [] rfl

end StepPlan

end Criteria
