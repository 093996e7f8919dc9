import Criteria.Proofs.Steps.Shelf

/-!
# Ticks of a queue with one item

What a tick does for an item that is queued alone: it takes the interpreter some steps further, or
it makes the rank less, or else the interpreter is at its end and so is the item.
-/
namespace Criteria

namespace QueueItem

variable {σ : Type}

/-- An item over the site of its steps. Its gate and its hooks know the world around the steps. -/
def onSite (i : QueueItem σ) : QueueItem (Site σ) :=
  { name := i.name
    nodes := i.nodes
    gate := i.gate.map fun g nodes => StepPlan.ask (g nodes)
    isRepeat := i.isRepeat
    persists := i.persists
    onStart := i.onStart.map StepPlan.ask
    onDone := i.onDone.map StepPlan.ask }

/-- An item whose gate always holds. -/
def AlwaysReady (i : QueueItem σ) : Prop :=
  ∀ g, i.gate = some g → ∀ w, (g i.nodes w).answer = true

/-- The world after the gate of an item was asked, if there is one. -/
def afterGate (i : QueueItem σ) (w : σ) : σ :=
  match i.gate with
  | some g => (g i.nodes w).world
  | none => w

/-- The world when the steps of an item begin: the gate was asked, and the hook was told. -/
def opening (i : QueueItem σ) (w : σ) : σ := afterHook i.onStart (i.afterGate w)

/-- The world when an item has come to its end. -/
def closing (i : QueueItem σ) (w : σ) : σ := afterHook i.onDone w

/-- The interpreter when the steps of an item begin. -/
def opened (i : QueueItem σ) (w : σ) (asked : List (Nat × Bool)) : Inline σ :=
  ⟨i.nodes, i.opening w, asked⟩

end QueueItem

namespace StepPlan

variable {σ : Type}

/-- The plan as a host of steps at some time. -/
def hostAt (p : StepPlan σ) (time : Nat) : StepHost (Site σ) := { p.host with now := fun _ => time }

open Inline (Leads Proceeds)

variable {p : StepPlan σ} {item : QueueItem σ} {q q' : Queue (Site σ)} {s s' : Site σ}

theorem onDone_world {n : Nat} (h : p.Composes n) : (p.onDone n s).world = s := by
  unfold Composes at h
  unfold onDone
  cases hp : p.step n <;> simp_all

theorem afterHook_ask (hook : Option (Hook σ)) (s : Site σ) :
    QueueItem.afterHook (hook.map ask) s = { s with world := QueueItem.afterHook hook s.world } := by
  cases hook <;> rfl

/-- The queue works on an item alone, and the interpreter has `todo` still to run. -/
def Working (p : StepPlan σ) (item : QueueItem σ) (q : Queue (Site σ)) (s : Site σ)
    (todo : List Nat) (rank : Nat) : Prop :=
  ∃ i, q.active = some i ∧ q.pending = [] ∧ Active p s item.onSite i q.shelf todo rank

/-- An item has come to its end in the course of some acts. -/
structure Ended (p : StepPlan σ) (item : QueueItem σ) (s : Site σ) (acts : List Act)
    (q' : Queue (Site σ)) (s' : Site σ) : Prop where
  active : q'.active = none
  shelf : q'.shelf = []
  pending : q'.pending = if item.isRepeat then [item.onSite] else []
  world : s'.world = item.closing s.world
  asked : s'.asked = s.asked
  fresh : item.isRepeat = true → ∀ n ∈ item.nodes, p.Fresh s' n
  told : .itemDone item.id ∈ acts

theorem offer_alone {i : QueueItem (Site σ)} (hi : i.nodes ≠ []) (hactive : q.active = none)
    (hshelf : q.shelf = []) (hpending : q.pending = []) : q.offer i = q.enqueue i := by
  have hempty : i.nodes.isEmpty = false := by simpa using hi
  simp [Queue.offer, Queue.refusal?, Queue.contains, Queue.items, hempty, hactive, hshelf, hpending]

section Root

variable {i : QueueItem (Site σ)} (hroot : i.renewed = item.onSite)
include hroot

/-- The world after the hook of the item was told of its end. -/
theorem afterHook_root (s : Site σ) :
    QueueItem.afterHook i.onDone s = { s with world := item.closing s.world } := by
  have hhook : i.onDone = item.onDone.map ask := congrArg (·.onDone) hroot
  rw [hhook, afterHook_ask]
  rfl

theorem itemDone_mem {acts : List Act} (h : .itemDone i.id ∈ acts) : .itemDone item.id ∈ acts := by
  have hid : i.id = item.id := congrArg (·.id) hroot
  rwa [← hid]

/-- The end of an item that is not to be repeated. -/
theorem ended_finish {acts : List Act} (hshelf : q.shelf = []) (hpending : q.pending = [])
    (hrepeat : i.isRepeat = false) (hacts : .itemDone i.id ∈ acts) :
    Ended p item s acts { q with active := none } (QueueItem.afterHook i.onDone s) := by
  have hrepeat' : item.isRepeat = false := (congrArg (·.isRepeat) hroot).symm.trans hrepeat
  rw [afterHook_root hroot]
  refine ⟨rfl, hshelf, ?_, rfl, rfl, by simp [hrepeat'], itemDone_mem hroot hacts⟩
  simpa [hrepeat'] using hpending

/-- The end of an item that is to be repeated: it is pending again, with its steps put back. -/
theorem ended_again {acts : List Act} (hforest : p.IsForest item.nodes) (hne : item.nodes ≠ [])
    (hshelf : q.shelf = []) (hpending : q.pending = []) (hrepeat : i.isRepeat = true)
    (hacts : .itemDone i.id ∈ acts) :
    Ended p item s acts (Queue.offer { q with active := none } i.renewed)
      (p.resetAll (QueueItem.afterHook i.onDone s) i.nodes) := by
  have hrepeat' : item.isRepeat = true := (congrArg (·.isRepeat) hroot).symm.trans hrepeat
  have hnodes : i.nodes = item.nodes := congrArg (·.nodes) hroot
  have hoffer := offer_alone (q := { q with active := none }) (i := item.onSite) hne rfl hshelf
    hpending
  rw [hroot, hoffer, hnodes, afterHook_root hroot]
  refine ⟨rfl, hshelf, ?_, p.resetAll_world _ hforest.composes, p.resetAll_asked _ _,
    fun _ => p.resetAll_fresh _ _, itemDone_mem hroot hacts⟩
  simp [hrepeat', hpending, Queue.enqueue]

end Root

/-- What is done with the active item takes the interpreter further or makes the rank less, or else
it is the end of the item. -/
theorem Active.move {i : QueueItem (Site σ)} {todo : List Nat} {rank time : Nat} {acts : List Act}
    (hforest : p.IsForest item.nodes) (ha : Active p s item.onSite i q.shelf todo rank)
    (hpending : q.pending = []) (hm : Queue.Move (p.hostAt time) q i s acts q' s') :
    (∃ todo' rank', Working p item q' s' todo' rank' ∧
      Proceeds p (s.inline todo) rank (s'.inline todo') rank') ∨
    todo = [] ∧ Ended p item s acts q' s' := by
  cases ha with
  | @waiting todo hunder hstart hcursor hne hfresh =>
    left
    obtain ⟨n, ns, hn⟩ := List.exists_cons_of_ne_nil hne
    obtain ⟨rfl, rfl⟩ := hm.of_not_started hcursor hn
    have hworld : QueueItem.afterHook i.onStart s = s := by rw [hstart]; rfl
    have htodo : i.nodes ++ todo = n :: (ns ++ todo) := by rw [hn]; rfl
    rw [hworld, htodo]
    obtain ⟨todo', rank', hactive, hproceeds⟩ := start_active hforest hunder hn hfresh
    exact ⟨todo', rank', ⟨_, rfl, hpending, hactive⟩, hproceeds⟩
  | @current before after todo m hunder hplaced hhand =>
    have hcomposed : p.Composed m := (hunder.forest hforest).composed hplaced.mem
    have hworld : (p.onDone m s).world = s := onDone_world (hcomposed m (p.mem_below_self m))
    cases hm with
    | start hk => simp [hplaced.cursor] at hk
    | run hk hn hd he =>
      left
      obtain ⟨rfl, rfl⟩ := hplaced.eq_current hk hn
      obtain ⟨todo', rank', hactive, hleads⟩ := run_active hforest hunder hplaced hhand hd he
      exact ⟨todo', rank', ⟨i, rfl, hpending, hactive⟩, .inl hleads⟩
    | enter hk hn hd he hne =>
      left
      obtain ⟨rfl, rfl⟩ := hplaced.eq_current hk hn
      subst he
      obtain ⟨todo', hactive, hproceeds⟩ := enter_active hforest hunder hplaced hhand hd hne _
      exact ⟨todo', 1, ⟨_, rfl, hpending, hactive⟩, hproceeds⟩
    | @next k n n' hk hn hd hn' =>
      left
      obtain ⟨rfl, rfl⟩ := hplaced.eq_current hk hn
      rw [hplaced.next_eq] at hn'
      obtain ⟨behind, rfl⟩ := List.head?_eq_some_iff.mp hn'
      obtain ⟨todo', rank', hactive, hproceeds⟩ := next_active hforest hunder hplaced hd
      simp only [hostAt, host, hworld]
      exact ⟨todo', rank', ⟨_, rfl, hpending, hactive⟩, hproceeds⟩
    | @resume k n parent shelf hk hn hd hlast hshelf =>
      left
      obtain ⟨rfl, rfl, rfl⟩ := hplaced.eq_last hk hn hlast
      rw [hshelf] at hunder ⊢
      have htodo : p.current s n = [] := current_of_done hd
      have hhook : i.onDone = none := hunder.onDone_of_shelf
      obtain ⟨rank', hactive, hrank⟩ := resume_active hunder hplaced hd
      simp only [hostAt, host, hworld, htodo, hhook]
      exact ⟨todo, rank', ⟨parent, rfl, hpending, hactive⟩, .inr ⟨rfl, hrank⟩⟩
    | @finish k n hk hn hd hlast hshelf hrepeat =>
      right
      obtain ⟨rfl, rfl, rfl⟩ := hplaced.eq_last hk hn hlast
      rw [hshelf] at hunder
      obtain ⟨hroot, rfl⟩ := hunder.of_shelf_eq_nil
      refine ⟨by rw [current_of_done hd]; rfl, ?_⟩
      simp only [hostAt, host, hworld]
      exact ended_finish hroot hshelf hpending hrepeat (by simp)
    | @again k n hk hn hd hlast hshelf hrepeat =>
      right
      obtain ⟨rfl, rfl, rfl⟩ := hplaced.eq_last hk hn hlast
      rw [hshelf] at hunder
      obtain ⟨hroot, rfl⟩ := hunder.of_shelf_eq_nil
      have hne : item.onSite.nodes ≠ [] := by
        rw [← hroot]
        simp [QueueItem.renewed, hplaced.nodes]
      refine ⟨by rw [current_of_done hd]; rfl, ?_⟩
      simp only [hostAt, host, hworld]
      exact ended_again hroot hforest hne hshelf hpending hrepeat (by simp)

theorem Active.workable {root i : QueueItem (Site σ)} {shelf : List (QueueItem (Site σ))}
    {todo : List Nat} {rank : Nat} (h : Active p s root i shelf todo rank) : Queue.Workable i := by
  cases h with
  | waiting _ _ hcursor hne _ => exact ⟨hne, by simp [hcursor]⟩
  | current _ hplaced _ =>
    refine ⟨by simp [hplaced.nodes], fun k hk => ?_⟩
    rw [hplaced.cursor, Option.some.injEq] at hk
    simp [hplaced.nodes, ← hk]

/-- A round of gates does not concern a queue without pending items. -/
theorem refresh_nil (time : Nat) (hpending : q.pending = []) :
    let d := q.refresh time s
    d.value.active = q.active ∧ d.value.shelf = q.shelf ∧ d.value.pending = [] ∧ d.world = s := by
  unfold Queue.refresh
  cases q.isRoundDue time <;> simp [hpending, Queue.checkAll]

/-- A tick takes the interpreter further or makes the rank less, until the item comes to its end. -/
theorem Working.tick {todo : List Nat} {rank : Nat} (hforest : p.IsForest item.nodes)
    (h : Working p item q s todo rank) (time : Nat) :
    let d := q.tick (p.hostAt time) s
    (∃ todo' rank', Working p item d.value.2 d.world todo' rank' ∧
      Proceeds p (s.inline todo) rank (d.world.inline todo') rank') ∨
    todo = [] ∧ Ended p item s d.acts d.value.2 d.world := by
  intro d
  obtain ⟨i, hi, hpending, hactive⟩ := h
  obtain ⟨hi', hshelf', hpending', hworld⟩ := refresh_nil (s := s) time hpending
  have hticked := Queue.tick_ticked (p.hostAt time) q s
  rw [← hshelf'] at hactive
  have hmove := hticked.move_active (hi'.trans hi) hactive.workable
  rw [show (q.refresh ((p.hostAt time).now s) s).world = s from hworld] at hmove
  rcases hactive.move hforest hpending' hmove with hworking | ⟨htodo, hended⟩
  · exact .inl hworking
  · exact .inr ⟨htodo, { hended with told := List.mem_of_mem_filter hended.told }⟩

theorem checkReady_onSite (hready : item.AlwaysReady) (s : Site σ) :
    (item.onSite.checkReady s).value = { item.onSite with ready := true } ∧
    (item.onSite.checkReady s).world = { s with world := item.afterGate s.world } := by
  cases hg : item.gate with
  | none => simp [QueueItem.checkReady, QueueItem.onSite, QueueItem.afterGate, hg]
  | some g =>
    have hanswer := hready g hg s.world
    simp [QueueItem.checkReady, QueueItem.onSite, QueueItem.afterGate, hg, ask, hanswer]

/-- The item is pending, alone, and its steps are as they were built. -/
structure Queued (p : StepPlan σ) (item : QueueItem σ) (q : Queue (Site σ)) (s : Site σ) : Prop where
  active : q.active = none
  shelf : q.shelf = []
  pending : q.pending = [item.onSite]
  fresh : ∀ n ∈ item.nodes, p.Fresh s n

/-- A tick begins the item, unless it is not yet time for a round of gates. -/
theorem Queued.tick (hforest : p.IsForest item.nodes) (hready : item.AlwaysReady)
    (hne : item.nodes ≠ []) (h : Queued p item q s) (time : Nat) :
    let d := q.tick (p.hostAt time) s
    (q.isRoundDue time = false ∧ Queued p item d.value.2 d.world ∧ d.world = s) ∨
    ∃ todo' rank', Working p item d.value.2 d.world todo' rank' ∧
      Proceeds p (item.opened s.world s.asked) 1 (d.world.inline todo') rank' := by
  intro d
  have hticked := Queue.tick_ticked (p.hostAt time) q s
  cases hdue : q.isRoundDue time with
  | false =>
    left
    have hrefresh : q.refresh time s = ⟨q, s, []⟩ := by simp [Queue.refresh, hdue]
    rw [show q.refresh ((p.hostAt time).now s) s = _ from hrefresh] at hticked
    have hnone : Queue.takeReady q.pending = none := by
      simp [h.pending, Queue.takeReady, QueueItem.onSite]
    obtain ⟨hq, hs⟩ := hticked.eq_of_idle h.active hnone
    exact ⟨rfl, by rw [hq, hs]; exact h, hs⟩
  | true =>
    right
    obtain ⟨hvalue, hworld⟩ := checkReady_onSite hready s
    have hrefresh : q.refresh time s =
        ⟨{ q with pending := [{ item.onSite with ready := true }], lastRound := some time },
          { s with world := item.afterGate s.world }, (item.onSite.checkReady s).acts⟩ := by
      simp [Queue.refresh, hdue, h.pending, Queue.checkAll, hvalue, hworld]
    rw [show q.refresh ((p.hostAt time).now s) s = _ from hrefresh] at hticked
    obtain ⟨n, ns, hn⟩ := List.exists_cons_of_ne_nil hne
    have htake : Queue.takeReady [{ item.onSite with ready := true }] =
        some ({ item.onSite with ready := true }, []) := by simp [Queue.takeReady]
    have hworkable : Queue.Workable { item.onSite with ready := true } :=
      ⟨hne, fun k hk => by simp [QueueItem.onSite] at hk⟩
    obtain ⟨hq, hs⟩ := (hticked.move_chosen h.active htake hworkable).of_not_started rfl hn
    have hhook : QueueItem.afterHook item.onSite.onStart
        { s with world := item.afterGate s.world } = { s with world := item.opening s.world } :=
      afterHook_ask item.onStart _
    obtain ⟨todo', rank', hactive, hproceeds⟩ :=
      start_active (s := { s with world := item.opening s.world })
        (i := { item.onSite with ready := true }) hforest .root hn h.fresh
    have hopened : item.opened s.world s.asked =
        Site.inline { s with world := item.opening s.world } (n :: (ns ++ [])) := by
      simp [QueueItem.opened, Site.inline, hn]
    rw [hhook] at hs
    rw [← h.shelf] at hactive
    rw [hopened, hq, hs]
    exact ⟨todo', rank', ⟨_, rfl, rfl, hactive⟩, hproceeds⟩

end StepPlan

end Criteria
