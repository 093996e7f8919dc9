import Criteria.Proofs.Queue.Activation
import Mathlib.Data.List.Induction

/-!
# Histories of a queue

A host queues items that it has built, lets the queue tick, and may drop all items or all but those
that persist. In whatever order it does so, the items in flight stand on one another as a stack:
each but the lowest was made for a step of the one below it, and those below the top are left alone
until they are the top again.
-/
namespace Criteria

namespace QueueItem

variable {σ : Type}

/-- An item has steps, and counts the steps that it has left behind. -/
structure Sound (i : QueueItem σ) : Prop where
  nodes : i.nodes ≠ []
  unstarted : i.cursor = none → i.completed = 0
  started : ∀ k, i.cursor = some k → i.completed = k ∧ k < i.nodes.length

theorem Sound.workable {i : QueueItem σ} (hi : i.Sound) : Queue.Workable i :=
  ⟨hi.nodes, fun k hk => (hi.started k hk).2⟩

theorem Sound.renewed {i : QueueItem σ} (hn : i.nodes ≠ []) : i.renewed.Sound :=
  ⟨hn, fun _ => rfl, fun k hk => by simp [QueueItem.renewed] at hk⟩

theorem IsNew.sound {i : QueueItem σ} (hi : i.IsNew) (hn : i.nodes ≠ []) : i.Sound :=
  ⟨hn, fun _ => hi.completed, fun k hk => by simp [hi.cursor] at hk⟩

/-- A gate decides whether an item is ready, and nothing else about it. -/
theorem Sound.of_ready {i j : QueueItem σ} (hi : i.Sound) (hj : j = { i with ready := j.ready }) :
    j.Sound := by
  rw [hj]
  exact ⟨hi.nodes, hi.unstarted, hi.started⟩

@[simp] theorem renewed_id (i : QueueItem σ) : i.renewed.id = i.id := rfl
@[simp] theorem renewed_renewed (i : QueueItem σ) : i.renewed.renewed = i.renewed := rfl
@[simp] theorem renewed_persists (i : QueueItem σ) : i.renewed.persists = i.persists := rfl

theorem IsNew.renewed {i : QueueItem σ} (hi : i.IsNew) : i.renewed = i := by
  obtain ⟨hcursor, hcompleted, hready, -⟩ := hi
  cases i
  simp_all [QueueItem.renewed]

@[simp] theorem reset_value (h : StepHost σ) (i : QueueItem σ) (w : σ) :
    (i.reset h w).value = i.renewed := rfl

end QueueItem

namespace Queue

variable {σ : Type}

/-- The items in flight stand on one another: each was made for the steps inside a step of the next
one, and the lowest was queued by the host. -/
def Nested : List (QueueItem σ) → Prop
  | [] => True
  | [i] => i.parent = none
  | i :: j :: below => i.parent = some j.id ∧ Nested (j :: below)

/-- The item on top may be replaced by one with the same parent. -/
theorem Nested.top {i j : QueueItem σ} {below : List (QueueItem σ)} (hn : Nested (i :: below))
    (hp : j.parent = i.parent) : Nested (j :: below) := by
  cases below with
  | nil => exact hp.trans hn
  | cons k below => exact ⟨hp.trans hn.1, hn.2⟩

/-- What is left without the item on top is nested. -/
theorem Nested.tail {i : QueueItem σ} {below : List (QueueItem σ)} (hn : Nested (i :: below)) :
    Nested below := by
  cases below with
  | nil => trivial
  | cons j below => exact hn.2

/-- The lowest item was queued by the host. -/
theorem Nested.lowest {items : List (QueueItem σ)} {i : QueueItem σ} (hn : Nested items)
    (hi : items.getLast? = some i) : i.parent = none := by
  induction items with
  | nil => simp at hi
  | cons j below ih =>
    cases below with
    | nil =>
      obtain rfl := Option.some.inj hi
      exact hn
    | cons k below => exact ih hn.2 (by simpa using hi)

/-- The item that the host has queued is the lowest one in flight. -/
theorem root?_eq (q : Queue σ) : q.root? = q.inFlight.getLast? := by
  rw [root?, inFlight, List.getLast?_append]
  cases q.active <;> rfl

/-- What holds of a queue whatever its host has done. -/
structure Sound (q : Queue σ) : Prop where
  items : ∀ i ∈ q.items, i.Sound
  pending : ∀ i ∈ q.pending, i.cursor = none ∧ i.parent = none
  active : q.active = none → q.shelf = []
  nested : Nested q.inFlight
  shelf : ∀ i ∈ q.shelf, i.isStarted = true
  ready : ∀ i ∈ q.inFlight, i.ready = true

theorem mem_items {q : Queue σ} {i : QueueItem σ} :
    i ∈ q.items ↔ i ∈ q.inFlight ∨ i ∈ q.pending := List.mem_append

/-- The active item is one of the items. -/
theorem Sound.of_active {q : Queue σ} {i : QueueItem σ} (hq : q.Sound) (ha : q.active = some i) :
    i.Sound := hq.items i (by simp [mem_items, inFlight, ha])

@[simp] theorem inFlight_activate (q : Queue σ) (i : QueueItem σ) :
    (q.activate i).inFlight = i :: q.shelf := rfl

@[simp] theorem shelf_activate (q : Queue σ) (i : QueueItem σ) :
    (q.activate i).shelf = q.shelf := rfl

theorem activate_of_active {q : Queue σ} {i : QueueItem σ} (ha : q.active = some i) :
    q.activate i = q := by
  rw [activate, ← ha]

@[simp] theorem refresh_active (q : Queue σ) (now : Nat) (w : σ) :
    (q.refresh now w).value.active = q.active := by
  rw [(refresh_spec q now w).1]

@[simp] theorem refresh_shelf (q : Queue σ) (now : Nat) (w : σ) :
    (q.refresh now w).value.shelf = q.shelf := by
  rw [(refresh_spec q now w).1]

theorem Sound.of_empty (q : Queue σ) (ha : q.active = none) (hs : q.shelf = [])
    (hp : ∀ i ∈ q.pending, i.Sound ∧ i.cursor = none ∧ i.parent = none) : q.Sound where
  items i hi := by
    rw [mem_items, inFlight, ha, hs] at hi
    exact (hp i (hi.resolve_left (by simp))).1
  pending i hi := (hp i hi).2
  active _ := hs
  nested := by
    rw [inFlight, ha, hs]
    trivial
  shelf i hi := by simp [hs] at hi
  ready i hi := by simp [inFlight, ha, hs] at hi

namespace Sound

variable {q q' : Queue σ} {i : QueueItem σ}

/-- The item on top may change as long as it stays sound and ready and keeps its parent. -/
theorem top {j : QueueItem σ} (hq : (q.activate i).Sound) (hj : j.Sound)
    (hp : j.parent = i.parent) (hr : j.ready = true) : (q.activate j).Sound where
  items x hx := by
    rw [mem_items, inFlight_activate, List.mem_cons] at hx
    rcases hx with (rfl | hx) | hx
    · exact hj
    · exact hq.items x (by simp [mem_items, hx])
    · exact hq.items x (mem_items.mpr (Or.inr hx))
  pending := hq.pending
  active ha := by simp [activate] at ha
  nested := hq.nested.top hp
  shelf := hq.shelf
  ready x hx := by
    rcases List.mem_cons.mp hx with rfl | hx
    · exact hr
    · exact hq.ready x (List.mem_cons_of_mem _ hx)

/-- An item may be put at the end of the pending ones. -/
theorem enqueue (hq : q.Sound) (hi : i.Sound) (hc : i.cursor = none) (hp : i.parent = none) :
    (q.enqueue i).Sound where
  items x hx := by
    rw [mem_items] at hx
    rcases hx with hx | hx
    · exact hq.items x (mem_items.mpr (Or.inl hx))
    · rcases List.mem_append.mp hx with hx | hx
      · exact hq.items x (mem_items.mpr (Or.inr hx))
      · exact List.mem_singleton.mp hx ▸ hi
  pending x hx := by
    rcases List.mem_append.mp hx with hx | hx
    · exact hq.pending x hx
    · exact List.mem_singleton.mp hx ▸ ⟨hc, hp⟩
  active := hq.active
  nested := hq.nested
  shelf := hq.shelf
  ready := hq.ready

theorem offer (hq : q.Sound) (hi : i.nodes ≠ [] → i.Sound) (hc : i.cursor = none)
    (hp : i.parent = none) : (q.offer i).Sound := by
  unfold Queue.offer
  cases hr : q.refusal? i with
  | some refusal => exact hq
  | none =>
    refine hq.enqueue (hi ?_) hc hp
    intro hn
    simp [refusal?, hn] at hr

/-- A queue stays sound through everything that is done with the item on top. -/
theorem move {h : StepHost σ} {w w' : σ} {acts : List Act} (hq : (q.activate i).Sound)
    (hm : Move h q i w acts q' w') : q'.Sound := by
  have hi : i.Sound := hq.items i (by simp [mem_items])
  have hready : i.ready = true := hq.ready i (by simp)
  have hempty : q.shelf = [] → ({ q with active := none } : Queue σ).Sound := fun hs =>
    .of_empty _ rfl hs fun x hx => ⟨hq.items x (mem_items.mpr (Or.inr hx)), hq.pending x hx⟩
  cases hm with
  | start hk hn =>
    refine hq.top ⟨hi.nodes, ?_, ?_⟩ rfl hready
    · intro hc
      simp at hc
    · rintro k ⟨⟩
      exact ⟨hi.unstarted hk, List.length_pos_iff.mpr hi.nodes⟩
  | run => exact hq
  | @enter k n cs hk hn hd hc hcs =>
    constructor
    · intro x hx
      simp only [mem_items, inFlight, Option.toList_some, List.singleton_append,
        List.mem_cons] at hx
      rcases hx with (rfl | hx) | hx
      · exact ⟨hcs, fun _ => rfl, fun k hk => by simp [QueueItem.childOf] at hk⟩
      · exact hq.items x (mem_items.mpr (Or.inl (List.mem_cons.mpr hx)))
      · exact hq.items x (mem_items.mpr (Or.inr hx))
    · exact hq.pending
    · intro ha
      simp at ha
    · exact ⟨rfl, hq.nested⟩
    · intro x hx
      rcases List.mem_cons.mp hx with rfl | hx
      · simp [QueueItem.isStarted, hk]
      · exact hq.shelf x hx
    · intro x hx
      rcases List.mem_cons.mp hx with rfl | hx
      · rfl
      · exact hq.ready x hx
  | @next k n n' hk hn hd hn' =>
    refine hq.top ⟨hi.nodes, ?_, ?_⟩ rfl hready
    · intro hc
      simp at hc
    · rintro k' ⟨⟩
      exact ⟨congrArg (· + 1) (hi.started k hk).1, (List.getElem?_eq_some_iff.mp hn').1⟩
  | @resume k n parent shelf hk hn hd hn' hs =>
    have hmem : ∀ x, x ∈ parent :: shelf → x ∈ (q.activate i).inFlight := by
      intro x hx
      rw [inFlight_activate, hs]
      exact List.mem_cons_of_mem _ hx
    constructor
    · intro x hx
      rcases mem_items.mp hx with hx | hx
      · exact hq.items x (mem_items.mpr (Or.inl (hmem x hx)))
      · exact hq.items x (mem_items.mpr (Or.inr hx))
    · exact hq.pending
    · intro ha
      simp at ha
    · have hn := hq.nested
      rw [inFlight_activate, hs] at hn
      exact hn.tail
    · intro x hx
      exact hq.shelf x (by rw [shelf_activate, hs]; exact List.mem_cons_of_mem _ hx)
    · intro x hx
      exact hq.ready x (hmem x hx)
  | finish hk hn hd hn' hs => exact hempty hs
  | again hk hn hd hn' hs =>
    refine (hempty hs).offer (fun hn => .renewed hn) rfl ?_
    have hn := hq.nested
    rw [inFlight_activate, hs] at hn
    exact hn

/-- A round of gates leaves a queue sound. -/
theorem refresh (hq : q.Sound) (now : Nat) (w : σ) : (q.refresh now w).value.Sound := by
  obtain ⟨hv, hf, -⟩ := refresh_spec q now w
  have hpending : ∀ j ∈ (q.refresh now w).value.pending,
      j.Sound ∧ j.cursor = none ∧ j.parent = none := by
    intro j hj
    obtain ⟨i, hi, he⟩ := exists_of_mem_right hf hj
    refine ⟨(hq.items i (mem_items.mpr (Or.inr hi))).of_ready he, ?_⟩
    rw [he]
    exact hq.pending i hi
  rw [hv]
  constructor
  · intro x hx
    rcases mem_items.mp hx with hx | hx
    · exact hq.items x (mem_items.mpr (Or.inl hx))
    · exact (hpending x hx).1
  · exact fun x hx => (hpending x hx).2
  · exact hq.active
  · exact hq.nested
  · exact hq.shelf
  · exact hq.ready

/-- The first ready item may become the active one. -/
theorem choose {others : List (QueueItem σ)} (hq : q.Sound) (ha : q.active = none)
    (ht : takeReady q.pending = some (i, others)) :
    ({ q with pending := others }.activate i).Sound := by
  obtain ⟨before, after, hsplit, rfl, hready, -⟩ := takeReady_eq_some ht
  have hs := hq.active ha
  have hmem : ∀ x, x = i ∨ x ∈ before ++ after → x ∈ q.pending := by
    intro x hx
    rw [hsplit]
    simp only [List.mem_append, List.mem_cons] at hx ⊢
    tauto
  constructor
  · intro x hx
    rw [mem_items, inFlight_activate, hs, List.mem_singleton] at hx
    exact hq.items x (mem_items.mpr (Or.inr (hmem x hx)))
  · exact fun x hx => hq.pending x (hmem x (Or.inr hx))
  · exact fun _ => hs
  · rw [inFlight_activate, hs]
    exact (hq.pending i (hmem i (Or.inl rfl))).2
  · exact hq.shelf
  · intro x hx
    rw [inFlight_activate, hs, List.mem_singleton] at hx
    exact hx ▸ hready

/-- The item that is chosen begins, and nothing else is done. -/
theorem chosen {h : StepHost σ} {others : List (QueueItem σ)} {w w' : σ} {acts : List Act}
    (hq : q.Sound) (ha : q.active = none) (ht : takeReady q.pending = some (i, others))
    (hm : Workable i → Move h { q with pending := others } i w acts q' w') :
    q' = ({ q with pending := others } : Queue σ).activate { i with cursor := some 0 } := by
  obtain ⟨before, after, hsplit, -, -, -⟩ := takeReady_eq_some ht
  have hsound := (hq.choose ha ht).items i (by simp [mem_items])
  obtain ⟨n, ns, hn⟩ := List.exists_cons_of_ne_nil hsound.nodes
  exact ((hm hsound.workable).of_not_started (hq.pending i (by simp [hsplit])).1 hn).1

end Sound

namespace Sound

variable {h : StepHost σ} {q q' : Queue σ} {w w' : σ} {acts : List Act} {status : TickStatus}

theorem ticked (hq : q.Sound) (ht : Ticked h q w acts status q' w') : q'.Sound := by
  cases ht with
  | @active i _ _ _ ha hm =>
    have hi : (q.activate i).Sound := (activate_of_active ha).symm ▸ hq
    exact hi.move (hm (hi.items i (by simp [mem_items])).workable)
  | @chosen i others _ _ _ ha hr hm =>
    have hi := hq.choose ha hr
    exact hi.move (hm (hi.items i (by simp [mem_items])).workable)
  | idle => exact hq

theorem tick (hq : q.Sound) (h : StepHost σ) (w : σ) : (q.tick h w).value.2.Sound :=
  (hq.refresh (h.now w) w).ticked (tick_ticked h q w)

end Sound

/-- What a tick may do to the shelf: nothing, put the active item on it as it is, or take the item
on top from it as it is and go on with it. -/
inductive ShelfStep (q q' : Queue σ) : Prop where
  | keep : q'.shelf = q.shelf → ShelfStep q q'
  | push {i : QueueItem σ} : q.active = some i → q'.shelf = i :: q.shelf → ShelfStep q q'
  | pop {i : QueueItem σ} : q.shelf = i :: q'.shelf → q'.active = some i → ShelfStep q q'

theorem Move.shelfStep {h : StepHost σ} {q q' : Queue σ} {i : QueueItem σ} {w w' : σ}
    {acts : List Act} (hm : Move h q i w acts q' w') : ShelfStep (q.activate i) q' := by
  cases hm with
  | start => exact .keep rfl
  | run => exact .keep rfl
  | enter => exact .push rfl rfl
  | next => exact .keep rfl
  | resume _ _ _ _ hs => exact .pop hs rfl
  | finish => exact .keep rfl
  | again => exact .keep (offer_shelf _ _)

theorem Ticked.shelfStep {h : StepHost σ} {q q' : Queue σ} {w w' : σ} {acts : List Act}
    {status : TickStatus} (hq : q.Sound) (ht : Ticked h q w acts status q' w') :
    ShelfStep q q' := by
  cases ht with
  | @active i _ _ _ ha hm =>
    rw [← activate_of_active ha]
    exact (hm (hq.of_active ha).workable).shelfStep
  | @chosen i others _ _ _ ha hr hm =>
    obtain rfl := hq.chosen ha hr hm
    exact .keep rfl
  | idle => exact .keep rfl

theorem Sound.tick_shelfStep {q : Queue σ} (hq : q.Sound) (h : StepHost σ) (w : σ) :
    ShelfStep q (q.tick h w).value.2 := by
  have ht := (tick_ticked h q w).shelfStep (hq.refresh (h.now w) w)
  cases ht with
  | keep hs => exact .keep (hs.trans (refresh_shelf ..))
  | push ha hs => exact .push (refresh_active q _ w ▸ ha) (refresh_shelf q _ w ▸ hs)
  | pop hs ha => exact .pop (refresh_shelf q _ w ▸ hs) ha

/-- What a host does with its queue: it queues an item that it has built, lets the queue tick, or
drops items. In between the world may change in any way. -/
inductive Request (σ : Type) where
  | submit (i : QueueItem σ) (new : i.IsNew)
  | tick
  | reset
  | softReset
  | elsewhere (change : σ → σ)

/-- The items that the host has queued and that are not yet at an end, as they were built: the one
being worked on, and those that are pending. -/
def held (q : Queue σ) : List (QueueItem σ) := (q.root?.toList ++ q.pending).map (·.renewed)

/-- The item that comes to its end in a tick with these acts, unless it is to be repeated. Items
made for the steps inside a step do not count. -/
def ended (q : Queue σ) (acts : List Act) : List (QueueItem σ) :=
  match q.active, q.shelf with
  | some i, [] => if i.isRepeat = false ∧ .itemDone i.id ∈ acts then [i.renewed] else []
  | _, _ => []

/-- A queue in its world, with what has become of the items that it has taken in so far. -/
structure History (σ : Type) where
  queue : Queue σ
  world : σ
  /-- The items taken in. -/
  accepted : List (QueueItem σ) := []
  /-- The items that have come to their end. -/
  finished : List (QueueItem σ) := []
  /-- The items dropped since they do not persist. -/
  dropped : List (QueueItem σ) := []
  /-- The items dropped with all others. -/
  cleared : List (QueueItem σ) := []

namespace History

def perform (h : StepHost σ) (s : History σ) : Request σ → History σ
  | .submit i _ =>
    let d := s.queue.submit i s.world
    { s with
      queue := d.value.2, world := d.world
      accepted := s.accepted ++ if d.value.1 = none then [i] else [] }
  | .tick =>
    let d := s.queue.tick h s.world
    { s with
      queue := d.value.2, world := d.world, finished := s.finished ++ s.queue.ended d.acts }
  | .reset =>
    let d := s.queue.reset s.world
    { s with queue := d.value, world := d.world, cleared := s.cleared ++ s.queue.held }
  | .softReset =>
    let d := s.queue.softReset h s.world
    { s with
      queue := d.value, world := d.world
      dropped := s.dropped ++ s.queue.held.filter (!·.persists) }
  | .elsewhere change => { s with world := change s.world }

/-- The history of an empty queue. -/
def start (interval : Nat) (w : σ) : History σ := { queue := { interval }, world := w }

/-- The history after requests, one after another. -/
def after (h : StepHost σ) (interval : Nat) (w : σ) (requests : List (Request σ)) : History σ :=
  requests.foldl (perform h) (start interval w)

theorem after_append (h : StepHost σ) (interval : Nat) (w : σ) (requests : List (Request σ))
    (request : Request σ) :
    after h interval w (requests ++ [request]) =
      (after h interval w requests).perform h request := by
  rw [after, List.foldl_append]
  rfl

/-- What holds at the beginning, and after each request if before it, holds at all times. -/
theorem after_induction {P : List (Request σ) → History σ → Prop} {h : StepHost σ} {interval : Nat}
    {w : σ} (nil : P [] (start interval w))
    (snoc : ∀ requests request, P requests (after h interval w requests) →
      P (requests ++ [request]) ((after h interval w requests).perform h request))
    (requests : List (Request σ)) : P requests (after h interval w requests) := by
  induction requests using List.reverseRecOn with
  | nil => exact nil
  | append_singleton requests request ih =>
    rw [after_append]
    exact snoc requests request ih

end History

/-- What is left by a soft reset: the item being worked on, put back to its beginning, and the
pending ones, of which only those that persist. -/
theorem softReset_value (h : StepHost σ) (q : Queue σ) (w : σ) :
    (q.softReset h w).value =
      { interval := q.interval,
        pending := ((q.root?.filter (·.persists)).toList.map (·.renewed)) ++
          q.pending.filter (·.persists) } := by
  unfold softReset
  cases q.root?.filter (·.persists) <;> simp

theorem Sound.softReset {q : Queue σ} (hq : q.Sound) (h : StepHost σ) (w : σ) :
    (q.softReset h w).value.Sound := by
  rw [softReset_value]
  refine .of_empty _ rfl rfl ?_
  intro i hi
  rcases List.mem_append.mp hi with hi | hi
  · obtain ⟨root, hroot, rfl⟩ := List.mem_map.mp hi
    obtain ⟨hroot, -⟩ := Option.filter_eq_some_iff.mp (Option.mem_toList.mp hroot)
    rw [root?_eq] at hroot
    have hmem := mem_items.mpr (Or.inl (List.mem_of_getLast? hroot))
    have hparent : root.parent = none := hq.nested.lowest hroot
    exact ⟨.renewed (hq.items root hmem).nodes, rfl, hparent⟩
  · obtain ⟨hi, -⟩ := List.mem_filter.mp hi
    exact ⟨hq.items i (mem_items.mpr (Or.inr hi)), hq.pending i hi⟩

namespace History

theorem perform_sound {h : StepHost σ} {s : History σ} (hs : s.queue.Sound)
    (request : Request σ) : (s.perform h request).queue.Sound := by
  cases request with
  | submit i new =>
    rw [perform, submit_queue]
    exact hs.offer new.sound new.cursor new.parent
  | tick => exact hs.tick h s.world
  | reset => exact .of_empty _ rfl rfl (by simp [perform, Queue.reset])
  | softReset => exact hs.softReset h s.world
  | elsewhere change => exact hs

theorem after_sound (h : StepHost σ) (interval : Nat) (w : σ) (requests : List (Request σ)) :
    (after h interval w requests).queue.Sound :=
  after_induction (P := fun _ s => s.queue.Sound) (.of_empty _ rfl rfl (by simp [start]))
    (fun _ request hs => perform_sound hs request) requests

theorem perform_shelfStep {h : StepHost σ} {s : History σ} (hs : s.queue.Sound)
    (request : Request σ) :
    ShelfStep s.queue (s.perform h request).queue ∨ request = .reset ∨ request = .softReset := by
  cases request with
  | submit i new => exact Or.inl (.keep (by simp [perform]))
  | tick => exact Or.inl (hs.tick_shelfStep h s.world)
  | reset => exact Or.inr (Or.inl rfl)
  | softReset => exact Or.inr (Or.inr rfl)
  | elsewhere change => exact Or.inl (.keep rfl)

/-- An item that is on the shelf stays there, with those below it, until it is the active item again
or a reset drops it. -/
theorem after_shelf {h : StepHost σ} {interval : Nat} {w : σ} {requests : List (Request σ)}
    {above below : List (QueueItem σ)} {i : QueueItem σ}
    (hs : (after h interval w requests).queue.shelf = above ++ i :: below)
    (more : List (Request σ)) :
    (∃ above, (after h interval w (requests ++ more)).queue.shelf = above ++ i :: below) ∨
      ∃ done request rest, more = done ++ request :: rest ∧
        (∃ above, (after h interval w (requests ++ done)).queue.shelf = above ++ i :: below) ∧
        (request = .reset ∨ request = .softReset ∨
          let q := (after h interval w (requests ++ done ++ [request])).queue
          q.active = some i ∧ q.shelf = below) := by
  induction more using List.reverseRecOn with
  | nil => exact Or.inl ⟨above, by rw [List.append_nil]; exact hs⟩
  | append_singleton more request ih =>
    rcases ih with ⟨above', hs'⟩ | ⟨done, request', rest, rfl, hbefore, hleft⟩
    · have hsound := after_sound h interval w (requests ++ more)
      rw [← List.append_assoc]
      rcases perform_shelfStep (h := h) hsound request with hstep | hdrop
      · rw [← after_append] at hstep
        cases hstep with
        | keep hk => exact Or.inl ⟨above', hk.trans hs'⟩
        | @push j hj hk => exact Or.inl ⟨j :: above', by rw [hk, hs', List.cons_append]⟩
        | @pop j hk hj =>
          rw [hs'] at hk
          cases above' with
          | nil =>
            obtain ⟨rfl, hbelow⟩ := List.cons.inj hk
            exact Or.inr ⟨more, request, [], rfl, ⟨[], hs'⟩, Or.inr (Or.inr ⟨hj, hbelow.symm⟩)⟩
          | cons k above' => exact Or.inl ⟨above', (List.cons.inj hk).2.symm⟩
      · exact Or.inr ⟨more, request, [], rfl, ⟨above', hs'⟩, by tauto⟩
    · exact Or.inr ⟨done, request', rest ++ [request], by simp, hbefore, hleft⟩

/-- However the host answers and whatever it asks for in whatever order: the items in flight stand
on one another as a stack, so that an item resumes the one below it without a warning; each item has
steps and a count and a current step that fit; those on the shelf have begun, those in flight are
ready, and those that are pending are as they were built. An item on the shelf is left as it is, and
goes on from there. -/
theorem after_invariant (h : StepHost σ) (interval : Nat) (w : σ) (requests : List (Request σ)) :
    let q := (after h interval w requests).queue
    (q.shelf ≠ [] → q.active.isSome = true) ∧
    Nested q.inFlight ∧
    (∀ i parent below, q.active = some i → q.shelf = parent :: below → ∀ w,
      (q.resume { i with completed := i.completed + 1 } parent below w).acts =
        [.note (.resumed parent.name parent.cursor)]) ∧
    (∀ i ∈ q.shelf, i.isStarted = true) ∧
    (∀ i ∈ q.items, ∀ k, i.cursor = some k → i.completed = k ∧ ∃ n, i.nodes[k]? = some n) ∧
    (∀ i ∈ q.items, i.nodes ≠ []) ∧
    (∀ i ∈ q.pending, i.isStarted = false ∧ i.completed = 0 ∧ i.parent = none) ∧
    (∀ i ∈ q.inFlight, i.ready = true) ∧
    (∀ request, ShelfStep q ((after h interval w requests).perform h request).queue ∨
      request = .reset ∨ request = .softReset) ∧
    ∀ above i below, q.shelf = above ++ i :: below → ∀ more,
      (∃ above, (after h interval w (requests ++ more)).queue.shelf = above ++ i :: below) ∨
      ∃ done request rest, more = done ++ request :: rest ∧
        (∃ above, (after h interval w (requests ++ done)).queue.shelf = above ++ i :: below) ∧
        (request = .reset ∨ request = .softReset ∨
          let q := (after h interval w (requests ++ done ++ [request])).queue
          q.active = some i ∧ q.shelf = below) := by
  intro q
  have hq : q.Sound := after_sound h interval w requests
  refine ⟨?_, hq.nested, ?_, hq.shelf, ?_, fun i hi => (hq.items i hi).nodes, ?_, hq.ready,
    perform_shelfStep hq, fun above i below hs => after_shelf hs⟩
  · intro hs
    cases ha : q.active with
    | none => exact absurd (hq.active ha) hs
    | some i => rfl
  · intro i parent below ha hs w
    have hn := hq.nested
    rw [inFlight, ha, hs] at hn
    simp [resume, hn.1]
  · intro i hi k hk
    obtain ⟨hcount, hlt⟩ := (hq.items i hi).started k hk
    exact ⟨hcount, i.nodes[k], List.getElem?_eq_getElem hlt⟩
  · intro i hi
    obtain ⟨hcursor, hparent⟩ := hq.pending i hi
    have hsound := hq.items i (mem_items.mpr (Or.inr hi))
    exact ⟨by simp [QueueItem.isStarted, hcursor], hsound.unstarted hcursor, hparent⟩

end History

end Queue

end Criteria
