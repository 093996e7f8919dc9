import Criteria.Proofs.Queue.Move

/-!
# The protocol of an activation

An item begins, goes through its steps one after another and ends. While a step is the current one
it is run, or the steps inside it are run as an item of their own, from beginning to end. However
the host answers and whenever items are queued, the calls of all ticks so far are whole activations,
one behind the other, and the beginning of one more.
-/
namespace Criteria

namespace Act

def isRun : Act → Bool
  | run _ => true
  | _ => false

end Act

namespace ItemId

/-- The identity of the item for the steps inside a step. -/
def inside (id : ItemId) (step : String) (nodes : List Nat) : ItemId :=
  ⟨id.name ++ "/" ++ step, nodes⟩

end ItemId

namespace QueueItem

variable {σ : Type}

@[simp] theorem childOf_id (i : QueueItem σ) (step : String) (nodes : List Nat) :
    (i.childOf step nodes).id = i.id.inside step nodes := rfl

/-- An item as it is built, before it was queued. -/
structure IsNew (i : QueueItem σ) : Prop where
  cursor : i.cursor = none
  completed : i.completed = 0
  ready : i.ready = false
  parent : i.parent = none

end QueueItem

namespace Queue

variable {σ : Type}

/-- What a host does with its queue: it queues an item that it has built, or lets it tick. In
between the world may change in any way. -/
inductive Call (σ : Type) where
  | submit (i : QueueItem σ) (new : i.IsNew)
  | tick
  | elsewhere (change : σ → σ)

/-- A queue in its world, with the calls that each tick so far has made. -/
structure Run (σ : Type) where
  queue : Queue σ
  world : σ
  beats : List (List Act) := []

namespace Run

def perform (h : StepHost σ) (r : Run σ) : Call σ → Run σ
  | .submit i _ =>
    let d := r.queue.submit i r.world
    { r with queue := d.value.2, world := d.world }
  | .tick =>
    let d := r.queue.tick h r.world
    ⟨d.value.2, d.world, r.beats ++ [Act.calls d.acts]⟩
  | .elsewhere change => { r with world := change r.world }

/-- The run from an empty queue. -/
def after (h : StepHost σ) (interval : Nat) (w : σ) (calls : List (Call σ)) : Run σ :=
  calls.foldl (perform h) { queue := { interval }, world := w }

end Run

/-- The active item and those that wait for it, the innermost first. -/
def inFlight (q : Queue σ) : List (QueueItem σ) := q.active.toList ++ q.shelf

/-- The ticks of an activation of an item. The item has got to the step at a place, with nothing
under way inside it, or, if no place is given, to its end. -/
inductive Activation (h : StepHost σ) : ItemId → Option Nat → List (List Act) → Prop where
  /-- The item begins, and its first step. -/
  | start {id : ItemId} {n : Nat} : id.nodes[0]? = some n →
    Activation h id (some 0) [[.itemStart id, .stepStart n]]
  /-- The step says that it is not done, has no steps inside it, and is run. -/
  | run {id : ItemId} {k n : Nat} {beats : List (List Act)} : Activation h id (some k) beats →
    id.nodes[k]? = some n →
    Activation h id (some k) (beats ++ [[.isDone n false, .children n [], .run n]])
  /-- The step says that it is not done, and those inside it are run as an item to its end. -/
  | inside {id : ItemId} {k n : Nat} {w : σ} {cs : List Nat} {beats inner : List (List Act)} :
    Activation h id (some k) beats → id.nodes[k]? = some n → cs ≠ [] →
    Activation h (id.inside (h.name n w) cs) none inner →
    Activation h id (some k) (beats ++ [.isDone n false, .children n cs] :: inner)
  /-- The step says that it is done. It ends, and the next one begins. -/
  | next {id : ItemId} {k n n' : Nat} {beats : List (List Act)} :
    Activation h id (some k) beats → id.nodes[k]? = some n → id.nodes[k + 1]? = some n' →
    Activation h id (some (k + 1)) (beats ++ [[.isDone n true, .stepDone n, .stepStart n']])
  /-- The last step says that it is done. It ends, and the item. -/
  | finish {id : ItemId} {k n : Nat} {beats : List (List Act)} :
    Activation h id (some k) beats → id.nodes[k]? = some n → id.nodes[k + 1]? = none →
    Activation h id none (beats ++ [[.isDone n true, .stepDone n, .itemDone id]])

/-- The ticks before the item in flight: idle ones, and whole activations. An item that is to be
repeated puts its steps back in its last tick. -/
inductive Past (h : StepHost σ) : List (List Act) → Prop where
  | none : Past h []
  | idle {past : List (List Act)} : Past h past → Past h (past ++ [[]])
  | item {past beats : List (List Act)} {id : ItemId} : Past h past →
    Activation h id none beats → Past h (past ++ beats)
  | again {past beats : List (List Act)} {last : List Act} {id : ItemId} : Past h past →
    Activation h id none (beats ++ [last]) →
    Past h (past ++ beats ++ [last ++ id.nodes.map .stepReset])

/-- The ticks of an item so far: none before it has begun. -/
def Stands (h : StepHost σ) (i : QueueItem σ) (beats : List (List Act)) : Prop :=
  match i.cursor with
  | none => beats = []
  | some k => Activation h i.id (some k) beats

/-- The ticks of the items in flight. Each item but the outermost one was made for the steps inside
the current step of the one that waits for it. -/
inductive Underway (h : StepHost σ) : List (QueueItem σ) → List (List Act) → Prop where
  | none : Underway h [] []
  | root {i : QueueItem σ} {k : Nat} {beats : List (List Act)} : i.cursor = some k →
    Activation h i.id (some k) beats → Underway h [i] beats
  | inside {i j : QueueItem σ} {below : List (QueueItem σ)} {k n : Nat} {w : σ} {cs : List Nat}
    {beats inner : List (List Act)} : Underway h (j :: below) beats → j.cursor = some k →
    j.nodes[k]? = some n → cs ≠ [] → i.id = j.id.inside (h.name n w) cs → Stands h i inner →
    Underway h (i :: j :: below) (beats ++ [.isDone n false, .children n cs] :: inner)

theorem Activation.lt {h : StepHost σ} {id : ItemId} {k : Nat} {beats : List (List Act)}
    (ha : Activation h id (some k) beats) : k < id.nodes.length := by
  cases ha with
  | start hn => exact (List.getElem?_eq_some_iff.mp hn).1
  | run _ hn => exact (List.getElem?_eq_some_iff.mp hn).1
  | inside _ hn => exact (List.getElem?_eq_some_iff.mp hn).1
  | next _ _ hn => exact (List.getElem?_eq_some_iff.mp hn).1

/-- The innermost item in flight has a current step, or is about to begin. -/
theorem Underway.workable {h : StepHost σ} {i : QueueItem σ} {below : List (QueueItem σ)}
    {beats : List (List Act)} (hu : Underway h (i :: below) beats) : Workable i := by
  have hlt : ∀ k beats, Activation h i.id (some k) beats → k < i.nodes.length :=
    fun k beats ha => ha.lt
  cases hu with
  | root hk ha =>
    have hl := hlt _ _ ha
    refine ⟨List.ne_nil_of_length_pos (by omega), ?_⟩
    intro k hk'
    rw [hk] at hk'
    obtain rfl := Option.some.inj hk'
    exact hl
  | inside hj hk hn hcs hid hs =>
    refine ⟨?_, ?_⟩
    · have hnodes := congrArg ItemId.nodes hid
      intro he
      exact hcs (hnodes.symm.trans he)
    · intro k hk'
      rw [Stands, hk'] at hs
      exact hlt _ _ hs

/-- Whatever the innermost item does by itself comes behind all that was done before. -/
theorem Underway.extend {h : StepHost σ} {i i' : QueueItem σ} {below : List (QueueItem σ)}
    {beats more : List (List Act)} (hu : Underway h (i :: below) beats) (hid : i'.id = i.id)
    {k : Nat} (hk : i'.cursor = some k)
    (hs : ∀ inner, Stands h i inner → Activation h i.id (some k) (inner ++ more)) :
    Underway h (i' :: below) (beats ++ more) := by
  cases hu with
  | root hi ha =>
    have hs' := hs beats (by rw [Stands, hi]; exact ha)
    exact .root hk (hid ▸ hs')
  | inside hj hjk hn hcs hi hinner =>
    rw [List.append_assoc, List.cons_append]
    refine .inside hj hjk hn hcs (hid.trans hi) ?_
    rw [Stands, hk, hid]
    exact hs _ hinner

/-- What holds at all times of a run: no pending item has begun, an item waits only for another one,
and the ticks have kept to the protocol. -/
structure Run.Orderly (h : StepHost σ) (r : Run σ) : Prop where
  pending : ∀ i ∈ r.queue.pending, i.nodes ≠ [] ∧ i.cursor = none
  shelf : r.queue.active = none → r.queue.shelf = []
  beats : ∃ past now, r.beats = past ++ now ∧ Past h past ∧ Underway h r.queue.inFlight now
  single : ∀ beat ∈ r.beats, beat.countP Act.isRun ≤ 1

theorem Move.single {h : StepHost σ} {q q' : Queue σ} {i : QueueItem σ} {w w' : σ}
    {acts : List Act} (hm : Move h q i w acts q' w') : acts.countP Act.isRun ≤ 1 := by
  cases hm with
  | again =>
    rw [List.countP_append, List.countP_map]
    simp [Act.isRun, Function.comp_def]
  | _ => simp [Act.isRun]

theorem mem_offer {q : Queue σ} {i j : QueueItem σ} (hj : j ∈ (q.offer i).pending) :
    j ∈ q.pending ∨ (j = i ∧ i.nodes ≠ []) := by
  unfold offer refusal? at hj
  by_cases hn : i.nodes.isEmpty
  · simp only [hn, if_true] at hj
    exact Or.inl hj
  · by_cases hc : q.contains i.id
    · simp only [hn, hc, if_true] at hj
      exact Or.inl hj
    · simp only [hn, hc, Bool.false_eq_true, if_false, enqueue, List.mem_append,
        List.mem_singleton] at hj
      exact hj.imp_right fun h => ⟨h, by simpa using hn⟩

@[simp] theorem offer_active (q : Queue σ) (i : QueueItem σ) : (q.offer i).active = q.active := by
  unfold offer
  cases q.refusal? i <;> rfl

@[simp] theorem offer_shelf (q : Queue σ) (i : QueueItem σ) : (q.offer i).shelf = q.shelf := by
  unfold offer
  cases q.refusal? i <;> rfl

/-- The pending items after a move are those before it, and perhaps one that is to be repeated. -/
theorem Move.pending {h : StepHost σ} {q q' : Queue σ} {i j : QueueItem σ} {w w' : σ}
    {acts : List Act} (hm : Move h q i w acts q' w') (hj : j ∈ q'.pending) :
    j ∈ q.pending ∨ (j.nodes ≠ [] ∧ j.cursor = none) := by
  cases hm with
  | again =>
    rcases mem_offer hj with hj | ⟨rfl, hn⟩
    · exact Or.inl hj
    · exact Or.inr ⟨hn, rfl⟩
  | _ => exact Or.inl hj

/-- Without an active item none waits. -/
theorem Move.shelf {h : StepHost σ} {q q' : Queue σ} {i : QueueItem σ} {w w' : σ} {acts : List Act}
    (hm : Move h q i w acts q' w') (hq : q'.active = none) : q'.shelf = [] := by
  cases hm with
  | finish _ _ _ _ hs => exact hs
  | again _ _ _ _ hs => rw [offer_shelf]; exact hs
  | _ => simp [activate] at hq

/-- A move goes on with the activation of the innermost item, or begins or ends one inside it. -/
theorem Underway.move {h : StepHost σ} {q q' : Queue σ} {i : QueueItem σ} {w w' : σ}
    {acts : List Act} {past now : List (List Act)} (hm : Move h q i w acts q' w') (hp : Past h past)
    (hu : Underway h (i :: q.shelf) now) :
    ∃ past' now', past ++ now ++ [acts] = past' ++ now' ∧ Past h past' ∧
      Underway h q'.inFlight now' := by
  cases hm with
  | start hk hn =>
    refine ⟨past, now ++ [[.itemStart i.id, .stepStart _]], by rw [List.append_assoc], hp, ?_⟩
    refine hu.extend rfl rfl ?_
    intro inner hs
    rw [Stands, hk] at hs
    subst hs
    exact .start (by rw [QueueItem.id, hn]; rfl)
  | @run k n hk hn hd hc =>
    refine ⟨past, now ++ [[.isDone n false, .children n [], .run n]], by rw [List.append_assoc],
      hp, ?_⟩
    refine hu.extend rfl hk ?_
    intro inner hs
    rw [Stands, hk] at hs
    exact .run hs hn
  | @enter k n cs hk hn hd hc hcs =>
    refine ⟨past, now ++ [[.isDone n false, .children n cs]], by rw [List.append_assoc], hp, ?_⟩
    exact .inside hu hk hn hcs rfl rfl
  | @next k n n' hk hn hd hn' =>
    refine ⟨past, now ++ [[.isDone n true, .stepDone n, .stepStart n']], by rw [List.append_assoc],
      hp, ?_⟩
    refine hu.extend rfl rfl ?_
    intro inner hs
    rw [Stands, hk] at hs
    exact .next hs hn hn'
  | @resume k n parent shelf hk hn hd hn' hshelf =>
    rw [hshelf] at hu
    cases hu with
    | @inside _ _ _ k' m w cs beats inner hbelow hj hm hcs hid hs =>
      rw [Stands, hk] at hs
      have hwhole := Activation.finish hs hn hn'
      rw [hid] at hwhole
      refine ⟨past, beats ++ [.isDone m false, .children m cs] ::
        (inner ++ [[.isDone n true, .stepDone n, .itemDone i.id]]), by simp, hp, ?_⟩
      refine hbelow.extend rfl hj ?_
      intro beats' hs'
      rw [Stands, hj] at hs'
      rw [hid]
      exact .inside hs' hm hcs hwhole
  | @finish k n hk hn hd hn' hshelf =>
    rw [hshelf] at hu
    cases hu with
    | root hi ha =>
      obtain rfl := Option.some.inj (hi.symm.trans hk)
      refine ⟨past ++ (now ++ [[.isDone n true, .stepDone n, .itemDone i.id]]), [], by simp,
        .item hp (.finish ha hn hn'), ?_⟩
      simpa [inFlight, hshelf] using Underway.none
  | @again k n hk hn hd hn' hshelf =>
    rw [hshelf] at hu
    cases hu with
    | root hi ha =>
      obtain rfl := Option.some.inj (hi.symm.trans hk)
      refine ⟨_, [], ?_, .again hp (.finish ha hn hn'), ?_⟩
      · simp [QueueItem.id]
      · simpa [inFlight, hshelf] using Underway.none

namespace Run

/-- A round of gates leaves the items in flight alone, and pending items have not begun behind it
either. -/
theorem Orderly.refresh {h : StepHost σ} {r : Run σ} (hr : r.Orderly h) (now : Nat) :
    let d := r.queue.refresh now r.world
    Orderly h ⟨d.value, d.world, r.beats⟩ := by
  obtain ⟨hpending, hshelf, hbeats, hsingle⟩ := hr
  obtain ⟨hv, hf, -⟩ := refresh_spec r.queue now r.world
  intro d
  refine ⟨?_, ?_, ?_, hsingle⟩
  · intro j hj
    obtain ⟨i, hi, hj'⟩ := exists_of_mem_right hf hj
    rw [hj']
    exact hpending i hi
  · rw [hv]
    exact hshelf
  · rw [hv]
    exact hbeats

/-- What a tick does behind its round of gates keeps to the protocol. -/
theorem Orderly.ticked {h : StepHost σ} {q q' : Queue σ} {w w' : σ} {beats : List (List Act)}
    {acts : List Act} {status : TickStatus} (hr : Orderly h ⟨q, w, beats⟩)
    (ht : Ticked h q w acts status q' w') : Orderly h ⟨q', w', beats ++ [acts]⟩ := by
  obtain ⟨hpending, hshelf, ⟨past, now, hbeats, hpast, hnow⟩, hsingle⟩ := hr
  have hsingle' : acts.countP Act.isRun ≤ 1 →
      ∀ beat ∈ beats ++ [acts], beat.countP Act.isRun ≤ 1 := by
    intro ha beat hbeat
    rcases List.mem_append.mp hbeat with hb | hb
    · exact hsingle beat hb
    · rw [List.mem_singleton.mp hb]
      exact ha
  simp only at hpending hshelf hbeats hnow
  subst hbeats
  cases ht with
  | @active i _ _ _ hi hm =>
    rw [inFlight, hi] at hnow
    have hmove := hm hnow.workable
    obtain ⟨past', now', heq, hpast', hnow'⟩ := hnow.move hmove hpast
    refine ⟨?_, hmove.shelf, ⟨past', now', heq, hpast', hnow'⟩, hsingle' hmove.single⟩
    intro j hj
    exact (hmove.pending hj).elim (hpending j) id
  | @chosen i others _ _ _ hq hi hm =>
    obtain ⟨before, after, hsplit, rfl, -, -⟩ := takeReady_eq_some hi
    obtain ⟨hne, hcursor⟩ := hpending i (by simp [hsplit])
    have hmove := hm ⟨hne, by simp [hcursor]⟩
    -- An item that has not begun can only begin.
    have hnil : now = [] := by
      rw [inFlight, hq, hshelf hq] at hnow
      cases hnow
      rfl
    refine ⟨?_, hmove.shelf, ?_, hsingle' hmove.single⟩
    · intro j hj
      refine (hmove.pending hj).elim (fun hj => hpending j ?_) id
      rw [hsplit]
      simp only [List.mem_append, List.mem_cons] at hj ⊢
      tauto
    · cases hmove with
      | @start n ns _ hn =>
        refine ⟨past, [[.itemStart i.id, .stepStart n]], by rw [hnil, List.append_nil], hpast, ?_⟩
        have hroot : Underway h [{ i with cursor := some 0 }] [[.itemStart i.id, .stepStart n]] :=
          .root rfl (.start (by rw [QueueItem.id, hn]; rfl))
        simpa [inFlight, activate, hshelf hq] using hroot
      | _ hk => simp [hcursor] at hk
  | idle hq hi =>
    have hnil : now = [] := by
      rw [inFlight, hq, hshelf hq] at hnow
      cases hnow
      rfl
    subst hnil
    exact ⟨hpending, hshelf, ⟨past ++ [[]], [], by simp, .idle hpast, hnow⟩, hsingle' (by simp)⟩

theorem Orderly.perform {h : StepHost σ} {r : Run σ} (hr : r.Orderly h) (c : Call σ) :
    (r.perform h c).Orderly h := by
  cases c with
  | submit i new =>
    obtain ⟨hpending, hshelf, hbeats, hsingle⟩ := hr
    refine ⟨?_, ?_, ?_, hsingle⟩
    · intro j hj
      rw [Run.perform, submit_queue] at hj
      rcases mem_offer hj with hj | ⟨rfl, hn⟩
      · exact hpending j hj
      · exact ⟨hn, new.cursor⟩
    · simpa [Run.perform] using hshelf
    · simpa [Run.perform, inFlight] using hbeats
  | tick => exact (hr.refresh (h.now r.world)).ticked (tick_ticked h r.queue r.world)
  | elsewhere change =>
    obtain ⟨hpending, hshelf, hbeats, hsingle⟩ := hr
    exact ⟨hpending, hshelf, hbeats, hsingle⟩

theorem orderly_after (h : StepHost σ) (interval : Nat) (w : σ) (calls : List (Call σ)) :
    (after h interval w calls).Orderly h := by
  have hfold : ∀ r : Run σ, r.Orderly h → (calls.foldl (perform h) r).Orderly h := by
    induction calls with
    | nil => exact fun r hr => hr
    | cons c calls ih => exact fun r hr => ih _ (hr.perform c)
  apply hfold
  exact ⟨by simp, fun _ => rfl, ⟨[], [], rfl, .none, .none⟩, by simp⟩

/-- Whatever the host answers and in whatever order it queues items and ticks: the ticks so far are
idle ones and whole activations of one item after another, and then the activations of the items in
flight, each up to the step for which it waits. No tick runs more than one step. -/
theorem after_protocol (h : StepHost σ) (interval : Nat) (w : σ) (calls : List (Call σ)) :
    let r := after h interval w calls
    (∃ past now, r.beats = past ++ now ∧ Past h past ∧ Underway h r.queue.inFlight now) ∧
      ∀ beat ∈ r.beats, beat.countP Act.isRun ≤ 1 :=
  have hr := orderly_after h interval w calls
  ⟨hr.beats, hr.single⟩

end Run

end Queue

end Criteria
