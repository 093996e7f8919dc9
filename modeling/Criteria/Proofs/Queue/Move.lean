import Criteria.Queue
import Mathlib.Data.List.Forall2

/-!
# What a tick does

A tick does one thing with one item. Each of these is a move: it says what is called, which queue is
left behind and how the world has changed. Everything that is proved about the queue is proved by
cases on the moves.
-/
namespace Criteria

namespace Act

/-- The calls of hooks and of steps, but neither notes nor the gates of items. -/
def isCall : Act → Bool
  | gate _ _ => false
  | note _ => false
  | _ => true

/-- The calls among acts, in order. -/
def calls (acts : List Act) : List Act := acts.filter isCall

@[simp] theorem calls_nil : calls [] = [] := rfl

@[simp] theorem calls_append (a b : List Act) : calls (a ++ b) = calls a ++ calls b :=
  List.filter_append ..

@[simp] theorem calls_note (e : Event) (acts : List Act) : calls (.note e :: acts) = calls acts :=
  rfl

@[simp] theorem calls_notes (es : List Event) : calls (es.map .note) = [] := by
  induction es with
  | nil => rfl
  | cons e es ih => exact ih

end Act

namespace Work

variable {σ α : Type}

@[simp] theorem call_value (act : α → Act) (f : σ → Reply σ α) (w : σ) :
    (call act f w).value = (f w).answer := rfl

@[simp] theorem call_world (act : α → Act) (f : σ → Reply σ α) (w : σ) :
    (call act f w).world = (f w).world := rfl

/-- A call is recorded once, whatever it reports. -/
theorem calls_call (act : α → Act) (f : σ → Reply σ α) (w : σ) (h : (act (f w).answer).isCall) :
    Act.calls (call act f w).acts = [act (f w).answer] := by
  rw [call, Act.calls, List.filter_cons_of_pos h]
  exact congrArg _ (Act.calls_notes _)

theorem calls_gate (i : ItemId) (f : σ → Reply σ Bool) (w : σ) :
    Act.calls (call (.gate i) f w).acts = [] := by
  rw [call, Act.calls, List.filter_cons_of_neg (by simp [Act.isCall])]
  exact Act.calls_notes _

end Work

namespace StepHost

variable {σ : Type} (h : StepHost σ)

@[simp] theorem calls_askDone (n : Nat) (w : σ) :
    Act.calls (h.askDone n w).acts = [.isDone n (h.isDone n w).answer] :=
  Work.calls_call _ _ _ rfl

@[simp] theorem calls_askChildren (n : Nat) (w : σ) :
    Act.calls (h.askChildren n w).acts = [.children n (h.children n w).answer] :=
  Work.calls_call _ _ _ rfl

@[simp] theorem calls_runStep (n : Nat) (w : σ) : Act.calls (h.runStep n w).acts = [.run n] :=
  Work.calls_call _ _ _ rfl

@[simp] theorem calls_startStep (n : Nat) (w : σ) :
    Act.calls (h.startStep n w).acts = [.stepStart n] :=
  Work.calls_call _ _ _ rfl

@[simp] theorem calls_endStep (n : Nat) (w : σ) : Act.calls (h.endStep n w).acts = [.stepDone n] :=
  Work.calls_call _ _ _ rfl

@[simp] theorem calls_resetStep (n : Nat) (w : σ) :
    Act.calls (h.resetStep n w).acts = [.stepReset n] :=
  Work.calls_call _ _ _ rfl

@[simp] theorem askDone_value (n : Nat) (w : σ) : (h.askDone n w).value = (h.isDone n w).answer := rfl

@[simp] theorem askDone_world (n : Nat) (w : σ) : (h.askDone n w).world = (h.isDone n w).world := rfl

@[simp] theorem askChildren_value (n : Nat) (w : σ) :
    (h.askChildren n w).value = (h.children n w).answer := rfl

@[simp] theorem askChildren_world (n : Nat) (w : σ) :
    (h.askChildren n w).world = (h.children n w).world := rfl

@[simp] theorem runStep_world (n : Nat) (w : σ) : (h.runStep n w).world = (h.run n w).world := rfl

@[simp] theorem startStep_world (n : Nat) (w : σ) :
    (h.startStep n w).world = (h.onStart n w).world := rfl

@[simp] theorem endStep_world (n : Nat) (w : σ) : (h.endStep n w).world = (h.onDone n w).world := rfl

/-- The world after steps were put back. -/
def afterReset (w : σ) (nodes : List Nat) : σ := nodes.foldl (fun w n => (h.reset n w).world) w

@[simp] theorem resetAll_world (nodes : List Nat) (w : σ) :
    (h.resetAll nodes w).world = h.afterReset w nodes := by
  induction nodes generalizing w with
  | nil => rfl
  | cons n nodes ih => exact ih _

@[simp] theorem calls_resetAll (nodes : List Nat) (w : σ) :
    Act.calls (h.resetAll nodes w).acts = nodes.map .stepReset := by
  induction nodes generalizing w with
  | nil => rfl
  | cons n nodes ih => simp [resetAll, ih]

end StepHost

namespace QueueItem

variable {σ : Type}

/-- The world after a hook was told, if there is one. -/
def afterHook (hook : Option (Hook σ)) (w : σ) : σ :=
  match hook with
  | some f => (f w).world
  | none => w

@[simp] theorem tell_world (hook : Option (Hook σ)) (act : Act) (w : σ) :
    (tell hook act w).world = afterHook hook w := by
  cases hook <;> rfl

@[simp] theorem calls_tell_start (hook : Option (Hook σ)) (i : ItemId) (w : σ) :
    Act.calls (tell hook (.itemStart i) w).acts = [.itemStart i] := Work.calls_call _ _ _ rfl

@[simp] theorem calls_tell_done (hook : Option (Hook σ)) (i : ItemId) (w : σ) :
    Act.calls (tell hook (.itemDone i) w).acts = [.itemDone i] := Work.calls_call _ _ _ rfl

/-- The item as it was before it began. -/
def renewed (i : QueueItem σ) : QueueItem σ := { i with cursor := none, completed := 0, ready := false }

/-- Asking the gate of an item changes nothing about it but whether it is ready. -/
theorem checkReady_value (i : QueueItem σ) (w : σ) :
    (i.checkReady w).value = { i with ready := (i.checkReady w).value.ready } := by
  unfold checkReady
  cases hr : i.ready with
  | true => simp [← hr]
  | false => cases hg : i.gate <;> simp

theorem calls_checkReady (i : QueueItem σ) (w : σ) : Act.calls (i.checkReady w).acts = [] := by
  unfold checkReady
  cases i.ready with
  | true => rfl
  | false => cases i.gate <;> simp [Work.calls_gate]

theorem start_spec (h : StepHost σ) (i : QueueItem σ) (w : σ) {n : Nat} {ns : List Nat}
    (hn : i.nodes = n :: ns) :
    (i.start h w).value = { i with cursor := some 0 } ∧
    (i.start h w).world = (h.onStart n (afterHook i.onStart w)).world ∧
    Act.calls (i.start h w).acts = [.itemStart i.id, .stepStart n] := by
  simp [start, hn]

end QueueItem

namespace Queue

variable {σ : Type}

/-- The queue after an item was offered to it. -/
def offer (q : Queue σ) (i : QueueItem σ) : Queue σ :=
  match q.refusal? i with
  | some _ => q
  | none => q.enqueue i

@[simp] theorem submit_queue (q : Queue σ) (i : QueueItem σ) (w : σ) :
    (q.submit i w).value.2 = q.offer i := by
  unfold submit offer
  cases q.refusal? i <;> rfl

@[simp] theorem submit_world (q : Queue σ) (i : QueueItem σ) (w : σ) :
    (q.submit i w).world = w := by
  unfold submit
  cases q.refusal? i <;> rfl

@[simp] theorem calls_submit (q : Queue σ) (i : QueueItem σ) (w : σ) :
    Act.calls (q.submit i w).acts = [] := by
  unfold submit
  cases q.refusal? i <;> rfl

/-- What is done with the active item in one tick: the calls, the queue and the world after it. -/
inductive Move (h : StepHost σ) (q : Queue σ) (i : QueueItem σ) (w : σ) :
    List Act → Queue σ → σ → Prop where
  /-- The item begins with its first step. -/
  | start {n : Nat} {ns : List Nat} : i.cursor = none → i.nodes = n :: ns →
    Move h q i w [.itemStart i.id, .stepStart n] (q.activate { i with cursor := some 0 })
      (h.onStart n (QueueItem.afterHook i.onStart w)).world
  /-- The current step is run. -/
  | run {k n : Nat} : i.cursor = some k → i.nodes[k]? = some n → (h.isDone n w).answer = false →
    (h.children n (h.isDone n w).world).answer = [] →
    Move h q i w [.isDone n false, .children n [], .run n] (q.activate i)
      (h.run n (h.children n (h.isDone n w).world).world).world
  /-- The steps inside the current step become an item, for which this one waits. -/
  | enter {k n : Nat} {cs : List Nat} : i.cursor = some k → i.nodes[k]? = some n →
    (h.isDone n w).answer = false → (h.children n (h.isDone n w).world).answer = cs → cs ≠ [] →
    Move h q i w [.isDone n false, .children n cs]
      { q with shelf := i :: q.shelf,
               active := some (i.childOf (h.name n (h.children n (h.isDone n w).world).world) cs) }
      (h.children n (h.isDone n w).world).world
  /-- The current step ends and the next one begins. -/
  | next {k n n' : Nat} : i.cursor = some k → i.nodes[k]? = some n → (h.isDone n w).answer = true →
    i.nodes[k + 1]? = some n' →
    Move h q i w [.isDone n true, .stepDone n, .stepStart n']
      (q.activate { i with completed := i.completed + 1, cursor := some (k + 1) })
      (h.onStart n' (h.onDone n (h.isDone n w).world).world).world
  /-- The last step ends, and with it the item, and the one that waited goes on. -/
  | resume {k n : Nat} {parent : QueueItem σ} {shelf : List (QueueItem σ)} : i.cursor = some k →
    i.nodes[k]? = some n → (h.isDone n w).answer = true → i.nodes[k + 1]? = none →
    q.shelf = parent :: shelf →
    Move h q i w [.isDone n true, .stepDone n, .itemDone i.id]
      { q with shelf, active := some parent }
      (QueueItem.afterHook i.onDone (h.onDone n (h.isDone n w).world).world)
  /-- The last step ends, and with it the item, for which none waited. -/
  | finish {k n : Nat} : i.cursor = some k → i.nodes[k]? = some n → (h.isDone n w).answer = true →
    i.nodes[k + 1]? = none → q.shelf = [] → i.isRepeat = false →
    Move h q i w [.isDone n true, .stepDone n, .itemDone i.id] { q with active := none }
      (QueueItem.afterHook i.onDone (h.onDone n (h.isDone n w).world).world)
  /-- The last step ends, and with it the item, which is put back and offered to the queue. -/
  | again {k n : Nat} : i.cursor = some k → i.nodes[k]? = some n → (h.isDone n w).answer = true →
    i.nodes[k + 1]? = none → q.shelf = [] → i.isRepeat = true →
    Move h q i w
      ([.isDone n true, .stepDone n, .itemDone i.id] ++ i.nodes.map .stepReset)
      ({ q with active := none }.offer i.renewed)
      (h.afterReset (QueueItem.afterHook i.onDone (h.onDone n (h.isDone n w).world).world) i.nodes)

/-- An item that can be worked on: it has steps, and its current step is one of them. -/
def Workable (i : QueueItem σ) : Prop := i.nodes ≠ [] ∧ ∀ k, i.cursor = some k → k < i.nodes.length

/-- The only move with an item that has not begun is its beginning. -/
theorem Move.of_not_started {h : StepHost σ} {q q' : Queue σ} {i : QueueItem σ} {w w' : σ}
    {acts : List Act} {n : Nat} {ns : List Nat} (hm : Move h q i w acts q' w')
    (hcursor : i.cursor = none) (hnodes : i.nodes = n :: ns) :
    q' = q.activate { i with cursor := some 0 } ∧
    w' = (h.onStart n (QueueItem.afterHook i.onStart w)).world := by
  cases hm with
  | start _ hn =>
    rw [hnodes, List.cons.injEq] at hn
    obtain ⟨rfl, -⟩ := hn
    exact ⟨rfl, rfl⟩
  | run hk => simp [hcursor] at hk
  | enter hk => simp [hcursor] at hk
  | next hk => simp [hcursor] at hk
  | resume hk => simp [hcursor] at hk
  | finish hk => simp [hcursor] at hk
  | again hk => simp [hcursor] at hk

theorem resume_spec (q : Queue σ) (i parent : QueueItem σ) (shelf : List (QueueItem σ)) (w : σ) :
    (q.resume i parent shelf w).value = { q with shelf, active := some parent } ∧
    (q.resume i parent shelf w).world = w ∧ Act.calls (q.resume i parent shelf w).acts = [] := by
  unfold resume
  by_cases hp : i.parent = some parent.id <;> simp [hp]

theorem requeue_spec (h : StepHost σ) (q : Queue σ) (i : QueueItem σ) (w : σ) :
    (q.requeue h i w).value = q.offer i.renewed ∧
    (q.requeue h i w).world = h.afterReset w i.nodes ∧
    Act.calls (q.requeue h i w).acts = i.nodes.map .stepReset := by
  unfold requeue QueueItem.reset
  cases hr : (q.submit i.renewed (h.afterReset w i.nodes)).value.1 <;>
    simp_all [QueueItem.renewed]

theorem complete_resume (h : StepHost σ) (q : Queue σ) (i parent : QueueItem σ)
    (shelf : List (QueueItem σ)) (w : σ) (hs : q.shelf = parent :: shelf) :
    let d := q.complete h i w
    d.value = { q with shelf, active := some parent } ∧
    d.world = QueueItem.afterHook i.onDone w ∧ Act.calls d.acts = [.itemDone i.id] := by
  have hr := resume_spec q i parent shelf (QueueItem.afterHook i.onDone w)
  simp [complete, hs, hr]

theorem complete_finish (h : StepHost σ) (q : Queue σ) (i : QueueItem σ) (w : σ)
    (hs : q.shelf = []) (hi : i.isRepeat = false) :
    let d := q.complete h i w
    d.value = { q with active := none } ∧
    d.world = QueueItem.afterHook i.onDone w ∧ Act.calls d.acts = [.itemDone i.id] := by
  simp [complete, hs, hi]

theorem complete_again (h : StepHost σ) (q : Queue σ) (i : QueueItem σ) (w : σ)
    (hs : q.shelf = []) (hi : i.isRepeat = true) :
    let d := q.complete h i w
    d.value = { q with active := none }.offer i.renewed ∧
    d.world = h.afterReset (QueueItem.afterHook i.onDone w) i.nodes ∧
    Act.calls d.acts = .itemDone i.id :: i.nodes.map .stepReset := by
  have hr := requeue_spec h { q with active := none } i (QueueItem.afterHook i.onDone w)
  simp [complete, hs, hi] at hr ⊢
  simp [hr]

/-- The end of an item is a move, whether another item waited for it or it is to be repeated. -/
theorem complete_move {h : StepHost σ} {q : Queue σ} {i : QueueItem σ} {w : σ} {k n : Nat}
    (hk : i.cursor = some k) (hn : i.nodes[k]? = some n) (hd : (h.isDone n w).answer = true)
    (hlast : i.nodes[k + 1]? = none) :
    let d := q.complete h { i with completed := i.completed + 1 }
      (h.onDone n (h.isDone n w).world).world
    Move h q i w (.isDone n true :: .stepDone n :: Act.calls d.acts) d.value d.world := by
  intro d
  cases hs : q.shelf with
  | cons parent shelf =>
    obtain ⟨hv, hw, hc⟩ := complete_resume h q { i with completed := i.completed + 1 } parent shelf
      (h.onDone n (h.isDone n w).world).world hs
    rw [hv, hw, hc]
    exact .resume hk hn hd hlast hs
  | nil =>
    cases hr : i.isRepeat with
    | false =>
      obtain ⟨hv, hw, hc⟩ := complete_finish h q { i with completed := i.completed + 1 }
        (h.onDone n (h.isDone n w).world).world hs hr
      rw [hv, hw, hc]
      exact .finish hk hn hd hlast hs hr
    | true =>
      obtain ⟨hv, hw, hc⟩ := complete_again h q { i with completed := i.completed + 1 }
        (h.onDone n (h.isDone n w).world).world hs hr
      rw [hv, hw, hc]
      exact .again hk hn hd hlast hs hr

/-- A current step that is done is left for the next one. -/
theorem advance_move {h : StepHost σ} {q : Queue σ} {i : QueueItem σ} {w : σ} {k n : Nat}
    (hk : i.cursor = some k) (hn : i.nodes[k]? = some n) (hd : (h.isDone n w).answer = true) :
    let d := q.advance h i k n (h.isDone n w).world
    Move h q i w (.isDone n true :: Act.calls d.acts) d.value d.world := by
  cases hn' : i.nodes[k + 1]? with
  | some n' =>
    simp [advance, hn']
    exact .next hk hn hd hn'
  | none =>
    simp [advance, hn']
    exact complete_move hk hn hd hn'

theorem proceed_done {h : StepHost σ} (q : Queue σ) (i : QueueItem σ) {w : σ} (k : Nat) {n : Nat}
    (hd : (h.isDone n w).answer = true) :
    let d := q.advance h i k n (h.isDone n w).world
    q.proceed h i k n w = ⟨d.value, d.world, (h.askDone n w).acts ++ d.acts⟩ := by
  have hd' : (h.askDone n w).value = true := hd
  simp only [proceed, Work.bind_apply, hd', if_true]
  rfl

theorem proceed_run {h : StepHost σ} (q : Queue σ) (i : QueueItem σ) {w : σ} (k : Nat) {n : Nat}
    (hd : (h.isDone n w).answer = false)
    (hc : (h.children n (h.isDone n w).world).answer = []) :
    let d := h.runStep n (h.children n (h.isDone n w).world).world
    q.proceed h i k n w = ⟨q.activate i, d.world, (h.askDone n w).acts ++
      ((h.askChildren n (h.isDone n w).world).acts ++ (d.acts ++ []))⟩ := by
  have hd' : (h.askDone n w).value = false := hd
  have hc' : (h.askChildren n (h.askDone n w).world).value = [] := hc
  simp only [proceed, Work.bind_apply, hd', Bool.false_eq_true, if_false, hc']
  rfl

theorem proceed_shelve {h : StepHost σ} (q : Queue σ) (i : QueueItem σ) {w : σ} (k : Nat) {n : Nat}
    {c : Nat} {cs : List Nat} (hd : (h.isDone n w).answer = false)
    (hc : (h.children n (h.isDone n w).world).answer = c :: cs) :
    let d := q.shelve h i n (c :: cs) (h.children n (h.isDone n w).world).world
    q.proceed h i k n w = ⟨d.value, d.world, (h.askDone n w).acts ++
      ((h.askChildren n (h.isDone n w).world).acts ++ d.acts)⟩ := by
  have hd' : (h.askDone n w).value = false := hd
  have hc' : (h.askChildren n (h.askDone n w).world).value = c :: cs := hc
  simp only [proceed, Work.bind_apply, hd', Bool.false_eq_true, if_false, hc']
  rfl

/-- Whatever is done with an item that can be worked on is a move. -/
theorem work_move (h : StepHost σ) (q : Queue σ) (i : QueueItem σ) (w : σ) (hi : Workable i) :
    let d := q.work h i w
    Move h q i w (Act.calls d.acts) d.value d.world := by
  cases hk : i.cursor with
  | none =>
    obtain ⟨n, ns, hn⟩ := List.exists_cons_of_ne_nil hi.1
    obtain ⟨hv, hw, hc⟩ := i.start_spec h w hn
    simp only [work, hk, Work.bind_apply, Work.pure_apply, List.append_nil, hv, hw, hc]
    exact .start hk hn
  | some k =>
    obtain ⟨n, hn⟩ : ∃ n, i.nodes[k]? = some n := ⟨_, List.getElem?_eq_getElem (hi.2 k hk)⟩
    simp only [work, hk, hn]
    cases hd : (h.isDone n w).answer with
    | true =>
      rw [proceed_done q i k hd, Act.calls_append, StepHost.calls_askDone, hd]
      exact advance_move hk hn hd
    | false =>
      cases hc : (h.children n (h.isDone n w).world).answer with
      | nil =>
        rw [proceed_run q i k hd hc]
        simp only [Act.calls_append, StepHost.calls_askDone, StepHost.calls_askChildren,
          StepHost.calls_runStep, StepHost.runStep_world, hd, hc]
        exact .run hk hn hd hc
      | cons c cs =>
        rw [proceed_shelve q i k hd hc]
        simp only [Act.calls_append, StepHost.calls_askDone, StepHost.calls_askChildren, hd, hc]
        exact .enter hk hn hd hc (List.cons_ne_nil c cs)

/-- A round of gates changes nothing about items but whether they are ready. -/
theorem checkAll_spec (items : List (QueueItem σ)) (w : σ) :
    List.Forall₂ (fun i j => j = { i with ready := j.ready }) items (checkAll items w).value ∧
    Act.calls (checkAll items w).acts = [] := by
  induction items generalizing w with
  | nil => exact ⟨.nil, rfl⟩
  | cons i items ih =>
    obtain ⟨hv, hc⟩ := ih (i.checkReady w).world
    simp only [checkAll, Work.bind_apply, Work.pure_apply, Act.calls_append,
      List.append_nil, QueueItem.calls_checkReady, hc, and_true]
    exact .cons (i.checkReady_value w) hv

/-- Behind a round each item is one from before it, which may have become ready. -/
theorem exists_of_mem_right {items items' : List (QueueItem σ)} {j : QueueItem σ}
    (hf : List.Forall₂ (fun i j => j = { i with ready := j.ready }) items items') (hj : j ∈ items') :
    ∃ i ∈ items, j = { i with ready := j.ready } := by
  induction hf with
  | nil => simp at hj
  | @cons i i' items items' hi _ ih =>
    rcases List.mem_cons.mp hj with rfl | hj
    · exact ⟨i, by simp, hi⟩
    · obtain ⟨i', hi', he⟩ := ih hj
      exact ⟨i', by simp [hi'], he⟩

theorem refresh_spec (q : Queue σ) (now : Nat) (w : σ) :
    let d := q.refresh now w
    d.value = { q with pending := d.value.pending, lastRound := d.value.lastRound } ∧
    List.Forall₂ (fun i j => j = { i with ready := j.ready }) q.pending d.value.pending ∧
    Act.calls d.acts = [] := by
  unfold refresh
  cases q.isRoundDue now with
  | true =>
    obtain ⟨hv, hc⟩ := checkAll_spec q.pending w
    simpa [hc] using hv
  | false =>
    refine ⟨rfl, ?_, rfl⟩
    exact List.forall₂_same.mpr fun i _ => rfl

/-- The ready item is taken out of its place, and the others keep their order. -/
theorem takeReady_eq_some {items others : List (QueueItem σ)} {i : QueueItem σ}
    (h : takeReady items = some (i, others)) :
    ∃ before after, items = before ++ i :: after ∧ others = before ++ after ∧ i.ready = true ∧
      ∀ j ∈ before, j.ready = false := by
  induction items generalizing others with
  | nil => simp [takeReady] at h
  | cons j items ih =>
    rw [takeReady] at h
    cases hj : j.ready with
    | true =>
      simp only [hj, if_true, Option.some.injEq, Prod.mk.injEq] at h
      obtain ⟨rfl, rfl⟩ := h
      exact ⟨[], items, rfl, rfl, hj, by simp⟩
    | false =>
      simp only [hj, Bool.false_eq_true, if_false, Option.map_eq_some_iff, Prod.mk.injEq] at h
      obtain ⟨⟨found, rest⟩, hrest, rfl, rfl⟩ := h
      obtain ⟨before, after, rfl, rfl, hready, hbefore⟩ := ih hrest
      exact ⟨j :: before, after, rfl, rfl, hready, by simpa [hj] using hbefore⟩

/-- A tick after its round of gates: it works on the active item or on the first one that is ready,
or finds none. -/
inductive Ticked (h : StepHost σ) (q : Queue σ) (w : σ) :
    List Act → TickStatus → Queue σ → σ → Prop where
  | active {i : QueueItem σ} {acts : List Act} {q' : Queue σ} {w' : σ} : q.active = some i →
    (Workable i → Move h q i w acts q' w') → Ticked h q w acts .running q' w'
  | chosen {i : QueueItem σ} {others : List (QueueItem σ)} {acts : List Act} {q' : Queue σ}
    {w' : σ} : q.active = none → takeReady q.pending = some (i, others) →
    (Workable i → Move h { q with pending := others } i w acts q' w') →
    Ticked h q w acts .running q' w'
  | idle : q.active = none → takeReady q.pending = none → Ticked h q w [] .idle q w

namespace Ticked

variable {h : StepHost σ} {q q' : Queue σ} {i : QueueItem σ} {others : List (QueueItem σ)}
  {w w' : σ} {acts : List Act} {status : TickStatus}

/-- A tick of a queue with an active item is a move with it. -/
theorem move_active (ht : Ticked h q w acts status q' w') (ha : q.active = some i)
    (hi : Workable i) : Move h q i w acts q' w' := by
  cases ht with
  | active ha' hmove =>
    rw [ha, Option.some.injEq] at ha'
    exact ha' ▸ hmove (ha' ▸ hi)
  | chosen ha' => simp [ha] at ha'
  | idle ha' => simp [ha] at ha'

/-- A tick of a queue without an active item is a move with the first one that is ready. -/
theorem move_chosen (ht : Ticked h q w acts status q' w') (ha : q.active = none)
    (hready : takeReady q.pending = some (i, others)) (hi : Workable i) :
    Move h { q with pending := others } i w acts q' w' := by
  cases ht with
  | active ha' => simp [ha] at ha'
  | chosen _ hready' hmove =>
    rw [hready, Option.some.injEq, Prod.mk.injEq] at hready'
    obtain ⟨rfl, rfl⟩ := hready'
    exact hmove hi
  | idle _ hready' => simp [hready] at hready'

/-- A tick of a queue without an active item and without a ready one changes nothing. -/
theorem eq_of_idle (ht : Ticked h q w acts status q' w') (ha : q.active = none)
    (hready : takeReady q.pending = none) : q' = q ∧ w' = w := by
  cases ht with
  | active ha' => simp [ha] at ha'
  | chosen _ hready' => simp [hready] at hready'
  | idle => exact ⟨rfl, rfl⟩

end Ticked

/-- What a tick does, with the round of gates that comes first. -/
theorem tick_ticked (h : StepHost σ) (q : Queue σ) (w : σ) :
    let r := q.refresh (h.now w) w
    let d := q.tick h w
    Ticked h r.value r.world (Act.calls d.acts) d.value.1 d.value.2 d.world := by
  have hr := (refresh_spec q (h.now w) w).2.2
  simp only [tick, Work.bind_apply, Work.look_apply, Act.calls_append, hr, List.nil_append]
  cases ha : (q.refresh (h.now w) w).value.active with
  | some i =>
    simp
    exact .active ha (work_move h _ i _)
  | none =>
    cases ht : takeReady (q.refresh (h.now w) w).value.pending with
    | none => exact .idle ha ht
    | some found =>
      obtain ⟨i, others⟩ := found
      simp
      exact .chosen ha ht (work_move h _ i _)

end Queue

end Criteria
