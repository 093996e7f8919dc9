import Criteria.Proofs.Queue.Conservation

/-!
# Rounds of gates

A round asks the gate of each pending item that is not ready, once and in order, and nothing else
asks a gate. The first tick holds a round, and later ones do once the clock has moved on by the
interval since the last round.
-/
namespace Criteria

namespace Act

/-- The item whose gate is asked, with the answer. -/
def gate? : Act → Option (ItemId × Bool)
  | gate item answer => some (item, answer)
  | _ => none

/-- The gates asked among acts, in order, with their answers. -/
def gates (acts : List Act) : List (ItemId × Bool) := acts.filterMap gate?

@[simp] theorem gates_nil : gates [] = [] := rfl

@[simp] theorem gates_append (a b : List Act) : gates (a ++ b) = gates a ++ gates b :=
  List.filterMap_append

@[simp] theorem gates_notes (es : List Event) : gates (es.map .note) = [] := by
  induction es with
  | nil => rfl
  | cons e es ih => exact ih

end Act

namespace Work

variable {σ α β : Type}

/-- Work that asks no gate, whatever the world is like. -/
def Gateless (m : Work σ α) : Prop := ∀ w, Act.gates (m w).acts = []

namespace Gateless

theorem pure (a : α) : Gateless (Pure.pure a : Work σ α) := fun _ => rfl

theorem look (f : σ → α) : Gateless (Work.look f) := fun _ => rfl

theorem note (e : Event) : Gateless (Work.note e : Work σ Unit) := fun _ => rfl

theorem bind {m : Work σ α} {f : α → Work σ β} (hm : m.Gateless) (hf : ∀ a, (f a).Gateless) :
    (m >>= f).Gateless := by
  intro w
  rw [bind_apply, Act.gates_append, hm, hf, List.append_nil]

theorem call {act : α → Act} (ha : ∀ a, (act a).gate? = none) (f : σ → Reply σ α) :
    Gateless (Work.call act f) := by
  intro w
  rw [Work.call, Act.gates, List.filterMap_cons_none (ha _)]
  exact Act.gates_notes _

end Gateless

end Work

namespace QueueItem

variable {σ : Type} (h : StepHost σ)

theorem gateless_tell {act : Act} (ha : act.gate? = none) (hook : Option (Hook σ)) :
    (tell hook act).Gateless := .call (fun _ => ha) _

theorem gateless_start (i : QueueItem σ) : (i.start h).Gateless := by
  refine .bind (gateless_tell rfl _) fun _ => ?_
  cases i.nodes with
  | nil => exact .pure _
  | cons first rest => exact .bind (.call (fun _ => rfl) _) fun _ => .pure _

theorem gateless_resetAll (nodes : List Nat) : (h.resetAll nodes).Gateless := by
  induction nodes with
  | nil => exact .pure _
  | cons step rest ih => exact .bind (.call (fun _ => rfl) _) fun _ => ih

end QueueItem

namespace Queue

variable {σ : Type}

section Gateless

variable (h : StepHost σ) (q : Queue σ) (i : QueueItem σ)

theorem gateless_submit : (q.submit i).Gateless := by
  unfold submit
  split <;> exact .bind (.note _) fun _ => .pure _

theorem gateless_resume (parent : QueueItem σ) (shelf : List (QueueItem σ)) :
    (q.resume i parent shelf).Gateless := by
  unfold resume
  split
  · exact .bind (.note _) fun _ => .bind (.note _) fun _ => .pure _
  · exact .bind (.note _) fun _ => .pure _

theorem gateless_requeue : (q.requeue h i).Gateless := by
  refine .bind (.bind (QueueItem.gateless_resetAll h _) fun _ => .pure _) fun i' => ?_
  refine .bind (gateless_submit q i') fun answer => ?_
  dsimp only
  split
  · exact .bind (.note _) fun _ => .pure _
  · exact .pure _

theorem gateless_complete : (q.complete h i).Gateless := by
  refine .bind (QueueItem.gateless_tell rfl _) fun _ => .bind (.note _) fun _ => ?_
  split
  · exact gateless_resume _ _ _ _
  · dsimp only
    split
    · exact gateless_requeue _ _ _
    · exact .pure _

theorem gateless_advance (place step : Nat) : (q.advance h i place step).Gateless := by
  refine .bind (.call (fun _ => rfl) _) fun _ => ?_
  dsimp only
  split
  · exact .bind (.call (fun _ => rfl) _) fun _ => .pure _
  · exact gateless_complete _ _ _

theorem gateless_proceed (place step : Nat) : (q.proceed h i place step).Gateless := by
  refine .bind (.call (fun _ => rfl) _) fun done => ?_
  split
  · exact gateless_advance _ _ _ _ _
  · refine .bind (.call (fun _ => rfl) _) fun children => ?_
    split
    · exact .bind (.call (fun _ => rfl) _) fun _ => .pure _
    · exact .bind (.look _) fun _ => .bind (.note _) fun _ => .pure _

theorem gateless_work : (q.work h i).Gateless := by
  unfold work
  split
  · exact .bind (QueueItem.gateless_start h i) fun _ => .pure _
  · split
    · exact gateless_proceed _ _ _ _ _
    · exact gateless_complete _ _ _

/-- A tick asks the gates of its round, and no other ones. -/
theorem gates_tick (w : σ) :
    Act.gates (q.tick h w).acts = Act.gates (q.refresh (h.now w) w).acts := by
  have hrest : ∀ (m : Work σ (TickStatus × Queue σ)), m.Gateless → ∀ d : Done σ (Queue σ),
      Act.gates (d.acts ++ (m d.world).acts) = Act.gates d.acts := by
    intro m hm d
    rw [Act.gates_append, hm, List.append_nil]
  simp only [tick, Work.bind_apply, Work.look_apply, List.nil_append]
  refine hrest _ ?_ _
  split
  · exact .bind (gateless_work _ _ _) fun _ => .pure _
  · split
    · exact .pure _
    · exact .bind (.note _) fun _ => .bind (gateless_work _ _ _) fun _ => .pure _

end Gateless

/-- A round of gates over items, with the gates that it asks and their answers, and the items and
the world behind it. -/
inductive Round : List (QueueItem σ) → σ → List (ItemId × Bool) → List (QueueItem σ) → σ → Prop where
  | nil {w : σ} : Round [] w [] [] w
  /-- An item that is ready is not asked again. -/
  | ready {i : QueueItem σ} {items items' : List (QueueItem σ)} {w w' : σ}
    {asked : List (ItemId × Bool)} : i.ready = true → Round items w asked items' w' →
    Round (i :: items) w asked (i :: items') w'
  /-- An item without a gate becomes ready. -/
  | ungated {i : QueueItem σ} {items items' : List (QueueItem σ)} {w w' : σ}
    {asked : List (ItemId × Bool)} : i.ready = false → i.gate = none →
    Round items w asked items' w' → Round (i :: items) w asked ({ i with ready := true } :: items') w'
  /-- The gate says whether the item becomes ready. -/
  | gated {i : QueueItem σ} {g : Gate σ} {items items' : List (QueueItem σ)} {w w' : σ}
    {asked : List (ItemId × Bool)} : i.ready = false → i.gate = some g →
    Round items (g i.nodes w).world asked items' w' →
    Round (i :: items) w ((i.id, (g i.nodes w).answer) :: asked)
      ({ i with ready := (g i.nodes w).answer } :: items') w'

theorem checkAll_round (items : List (QueueItem σ)) (w : σ) :
    let d := checkAll items w
    Round items w (Act.gates d.acts) d.value d.world := by
  induction items generalizing w with
  | nil => exact .nil
  | cons i items ih =>
    have ih' := ih (i.checkReady w).world
    simp only [checkAll, Work.bind_apply, Work.pure_apply, List.append_nil, Act.gates_append]
    cases hr : i.ready with
    | true =>
      have hc : i.checkReady w = ⟨i, w, []⟩ := by simp [QueueItem.checkReady, hr]
      rw [hc] at ih' ⊢
      exact .ready hr ih'
    | false =>
      cases hg : i.gate with
      | none =>
        have hc : i.checkReady w = ⟨{ i with ready := true }, w, []⟩ := by
          simp [QueueItem.checkReady, hr, hg]
        rw [hc] at ih' ⊢
        exact .ungated hr hg ih'
      | some g =>
        have hc : i.checkReady w = ⟨{ i with ready := (g i.nodes w).answer }, (g i.nodes w).world,
            .gate i.id (g i.nodes w).answer :: (g i.nodes w).events.map .note⟩ := by
          simp [QueueItem.checkReady, hr, hg, Work.call]
        have hgates : Act.gates (.gate i.id (g i.nodes w).answer ::
            (g i.nodes w).events.map .note) = [(i.id, (g i.nodes w).answer)] :=
          congrArg (_ :: ·) (Act.gates_notes _)
        rw [hc] at ih' ⊢
        rw [hgates]
        exact .gated hr hg ih'

namespace Round

variable {items items' : List (QueueItem σ)} {w w' : σ} {asked : List (ItemId × Bool)}

/-- The gates of the items that are not ready are asked once each, in order. -/
theorem asked_ids (hr : Round items w asked items' w') :
    asked.map Prod.fst =
      (items.filter fun i => !i.ready && i.gate.isSome).map QueueItem.id := by
  induction hr with
  | nil => rfl
  | ready hi _ ih => simp [hi, ih]
  | ungated hi hg _ ih => simp [hg, ih]
  | gated hi hg _ ih => simp [hi, hg, ih]

theorem mem_of_asked (hr : Round items w asked items' w') {id : ItemId} {answer : Bool}
    (ha : (id, answer) ∈ asked) : ∃ i ∈ items, i.id = id ∧ i.ready = false := by
  have hid : id ∈ asked.map Prod.fst := List.mem_map.mpr ⟨_, ha, rfl⟩
  rw [hr.asked_ids] at hid
  obtain ⟨i, hi, rfl⟩ := List.mem_map.mp hid
  obtain ⟨hi, hp⟩ := List.mem_filter.mp hi
  rw [Bool.and_eq_true, Bool.not_eq_true'] at hp
  exact ⟨i, hi, rfl, hp.1⟩

/-- No item changes but by becoming ready, and one that is ready does not change. -/
theorem forall₂ (hr : Round items w asked items' w') :
    List.Forall₂ (fun i j => j = { i with ready := j.ready } ∧ (i.ready = true → j = i)) items
      items' := by
  induction hr with
  | nil => exact .nil
  | ready _ _ ih => exact .cons ⟨rfl, fun _ => rfl⟩ ih
  | ungated hi _ _ ih => exact .cons ⟨rfl, fun hi' => by simp [hi] at hi'⟩ ih
  | gated hi _ _ ih => exact .cons ⟨rfl, fun hi' => by simp [hi] at hi'⟩ ih

/-- An item is ready behind a round if it was before, or has no gate, or its gate says so. -/
theorem mem_ready (hr : Round items w asked items' w') (hn : (items.map QueueItem.id).Nodup)
    {i : QueueItem σ} (hi : i ∈ items)
    (hready : i.ready = true ∨ i.gate = none ∨ (i.id, true) ∈ asked) :
    { i with ready := true } ∈ items' := by
  induction hr with
  | nil => simp at hi
  | @ready j items items' w w' asked hj hround ih =>
    rcases List.mem_cons.mp hi with rfl | hi
    · rw [← hj]
      exact List.mem_cons_self
    · exact List.mem_cons_of_mem _ (ih (List.nodup_cons.mp hn).2 hi hready)
  | @ungated j items items' w w' asked hj hg hround ih =>
    rcases List.mem_cons.mp hi with rfl | hi
    · exact List.mem_cons_self
    · exact List.mem_cons_of_mem _ (ih (List.nodup_cons.mp hn).2 hi hready)
  | @gated j g items items' w w' asked hj hg hround ih =>
    obtain ⟨hfresh, hn⟩ := List.nodup_cons.mp hn
    rcases List.mem_cons.mp hi with rfl | hi
    · -- The head's gate was asked first, and no other item of its identity comes behind it.
      have hhead : (i.id, true) = (i.id, (g i.nodes w).answer) := by
        rcases hready with hready | hready | hready
        · simp [hj] at hready
        · simp [hg] at hready
        · rcases List.mem_cons.mp hready with he | hrest
          · exact he
          · obtain ⟨k, hk, hid, -⟩ := hround.mem_of_asked hrest
            exact absurd (List.mem_map.mpr ⟨k, hk, hid⟩) hfresh
      rw [← (Prod.mk.inj hhead).2]
      exact List.mem_cons_self
    · refine List.mem_cons_of_mem _ (ih hn hi (hready.imp_right (Or.imp_right fun ha => ?_)))
      refine (List.mem_cons.mp ha).resolve_left fun he => hfresh ?_
      exact List.mem_map.mpr ⟨i, hi, (Prod.mk.inj he).1⟩

end Round

theorem refresh_held {q : Queue σ} {now : Nat} (hdue : q.isRoundDue now = true) (w : σ) :
    let d := q.refresh now w
    Round q.pending w (Act.gates d.acts) d.value.pending d.world ∧ d.value.lastRound = some now := by
  have hround := checkAll_round q.pending w
  unfold refresh
  rw [if_pos hdue]
  simpa using hround

theorem refresh_skipped {q : Queue σ} {now : Nat} (hdue : q.isRoundDue now = false) (w : σ) :
    q.refresh now w = ⟨q, w, []⟩ := by
  unfold refresh
  rw [if_neg (by simp [hdue])]
  rfl

/-- Whether or not a round is due, pending items change only by becoming ready. -/
theorem refresh_forall₂ (q : Queue σ) (now : Nat) (w : σ) :
    List.Forall₂ (fun i j => j = { i with ready := j.ready } ∧ (i.ready = true → j = i)) q.pending
      (q.refresh now w).value.pending := by
  cases hdue : q.isRoundDue now with
  | true => exact (refresh_held hdue w).1.forall₂
  | false =>
    rw [refresh_skipped hdue]
    exact List.forall₂_same.mpr fun i _ => ⟨rfl, fun _ => rfl⟩

theorem offer_timing (q : Queue σ) (i : QueueItem σ) :
    (q.offer i).interval = q.interval ∧ (q.offer i).lastRound = q.lastRound := by
  unfold offer
  cases q.refusal? i <;> exact ⟨rfl, rfl⟩

/-- Work on an item leaves the interval and the time of the last round alone. -/
theorem Move.timing {h : StepHost σ} {q q' : Queue σ} {i : QueueItem σ} {w w' : σ}
    {acts : List Act} (hm : Move h q i w acts q' w') :
    q'.interval = q.interval ∧ q'.lastRound = q.lastRound := by
  cases hm with
  | again => exact offer_timing _ _
  | _ => exact ⟨rfl, rfl⟩

theorem Ticked.timing {h : StepHost σ} {q q' : Queue σ} {w w' : σ} {acts : List Act}
    {status : TickStatus} (hq : q.Sound) (ht : Ticked h q w acts status q' w') :
    q'.interval = q.interval ∧ q'.lastRound = q.lastRound := by
  cases ht with
  | @active i _ _ _ ha hm =>
    exact (hm (hq.of_active ha).workable).timing
  | @chosen i others _ _ _ ha hr hm =>
    obtain rfl := hq.chosen ha hr hm
    exact ⟨rfl, rfl⟩
  | idle => exact ⟨rfl, rfl⟩

theorem tick_timing {q : Queue σ} (hq : q.Sound) (h : StepHost σ) (w : σ) :
    (q.tick h w).value.2.interval = q.interval ∧
    (q.tick h w).value.2.lastRound =
      if q.isRoundDue (h.now w) then some (h.now w) else q.lastRound := by
  obtain ⟨hinterval, hlast⟩ := (tick_ticked h q w).timing (hq.refresh (h.now w) w)
  refine ⟨?_, ?_⟩
  · rw [hinterval, (refresh_spec q (h.now w) w).1]
  · rw [hlast]
    cases hdue : q.isRoundDue (h.now w) with
    | true => exact (refresh_held hdue w).2
    | false => rw [refresh_skipped hdue w]; rfl

namespace Call

/-- The call as one of the requests of a host that may also drop items. -/
def request : Call σ → Request σ
  | submit i new => .submit i new
  | tick => .tick
  | elsewhere change => .elsewhere change

end Call

namespace Run

/-- The run of an empty queue before any call. -/
def start (interval : Nat) (w : σ) : Run σ := { queue := { interval }, world := w }

theorem after_append (h : StepHost σ) (interval : Nat) (w : σ) (calls : List (Call σ)) (c : Call σ) :
    after h interval w (calls ++ [c]) = (after h interval w calls).perform h c := by
  rw [after, List.foldl_append]
  rfl

/-- A run is a history without resets. -/
theorem after_history (h : StepHost σ) (interval : Nat) (w : σ) (calls : List (Call σ)) :
    (after h interval w calls).queue =
      (History.after h interval w (calls.map Call.request)).queue ∧
    (after h interval w calls).world =
      (History.after h interval w (calls.map Call.request)).world := by
  induction calls using List.reverseRecOn with
  | nil => exact ⟨rfl, rfl⟩
  | append_singleton calls c ih =>
    obtain ⟨hqueue, hworld⟩ := ih
    rw [after_append, List.map_append, List.map_singleton, History.after_append]
    cases c <;> simp only [perform, Call.request, History.perform, hqueue, hworld, and_self]

theorem after_sound (h : StepHost σ) (interval : Nat) (w : σ) (calls : List (Call σ)) :
    (after h interval w calls).queue.Sound := by
  rw [(after_history h interval w calls).1]
  exact History.after_sound ..

theorem after_distinct (h : StepHost σ) (interval : Nat) (w : σ) (calls : List (Call σ)) :
    (after h interval w calls).queue.Distinct := by
  rw [(after_history h interval w calls).1]
  exact (History.after_conserves_distinct ..).1

/-- What the clock says. -/
def reading (h : StepHost σ) (r : Run σ) : Nat := h.now r.world

/-- Whether a tick now holds a round of gates. -/
def holdsRound (h : StepHost σ) (r : Run σ) : Bool := r.queue.isRoundDue (r.reading h)

/-- The gates that a tick now asks, in order, with their answers. -/
def asked (h : StepHost σ) (r : Run σ) : List (ItemId × Bool) :=
  Act.gates (r.queue.tick h r.world).acts

/-- The run as a call finds it, if the call is a tick. -/
def found (r : Run σ) : Call σ → List (Run σ)
  | .tick => [r]
  | _ => []

/-- The run as each tick among further calls finds it. -/
def ticks (h : StepHost σ) : Run σ → List (Call σ) → List (Run σ)
  | _, [] => []
  | r, c :: calls => r.found c ++ (r.perform h c).ticks h calls

theorem ticks_append (h : StepHost σ) (r : Run σ) (calls more : List (Call σ)) :
    r.ticks h (calls ++ more) = r.ticks h calls ++ (calls.foldl (perform h) r).ticks h more := by
  induction calls generalizing r with
  | nil => rfl
  | cons c calls ih => simp [ticks, ih]

/-- Each tick comes behind the calls before it. -/
theorem exists_of_ticks_eq {h : StepHost σ} {r t : Run σ} {calls : List (Call σ)}
    {before behind : List (Run σ)} (ht : r.ticks h calls = before ++ t :: behind) :
    ∃ done rest, calls = done ++ .tick :: rest ∧ r.ticks h done = before ∧
      t = done.foldl (perform h) r := by
  induction calls generalizing r before with
  | nil => simp [ticks] at ht
  | cons c calls ih =>
    have hlater : ∀ before', (r.perform h c).ticks h calls = before' ++ t :: behind →
        r.found c ++ before' = before → ∃ done rest, c :: calls = done ++ .tick :: rest ∧
          r.ticks h done = before ∧ t = done.foldl (perform h) r := by
      intro before' ht' hbefore
      obtain ⟨done, rest, rfl, rfl, rfl⟩ := ih ht'
      exact ⟨c :: done, rest, rfl, hbefore, rfl⟩
    cases c with
    | tick =>
      cases before with
      | nil => exact ⟨[], calls, rfl, rfl, (List.cons.inj ht).1.symm⟩
      | cons b before =>
        obtain ⟨hb, ht'⟩ := List.cons.inj ht
        exact hlater before ht' (congrArg (· :: before) hb)
    | submit i new => exact hlater before ht rfl
    | elsewhere change => exact hlater before ht rfl

/-- The last one of ticks that held a round of gates. -/
def lastRound? (h : StepHost σ) (seen : List (Run σ)) : Option (Run σ) :=
  (seen.filter (holdsRound h)).getLast?

theorem lastRound?_append (h : StepHost σ) (seen : List (Run σ)) (r : Run σ) :
    lastRound? h (seen ++ [r]) = if r.holdsRound h then some r else lastRound? h seen := by
  cases hr : r.holdsRound h <;> simp [lastRound?, hr]

theorem mem_of_lastRound? {h : StepHost σ} {seen : List (Run σ)} {r : Run σ}
    (hr : lastRound? h seen = some r) : r ∈ seen :=
  List.mem_of_mem_filter (List.mem_of_getLast? hr)

theorem ticks_concat (h : StepHost σ) (r : Run σ) (calls : List (Call σ)) (c : Call σ) :
    r.ticks h (calls ++ [c]) = r.ticks h calls ++ (calls.foldl (perform h) r).found c := by
  rw [ticks_append, ticks, ticks, List.append_nil]

theorem after_interval (h : StepHost σ) (interval : Nat) (w : σ) (calls : List (Call σ)) :
    (after h interval w calls).queue.interval = interval := by
  induction calls using List.reverseRecOn with
  | nil => rfl
  | append_singleton calls c ih =>
    rw [after_append]
    cases c with
    | tick => exact (tick_timing (after_sound h interval w calls) h _).1.trans ih
    | submit i new => rw [perform, submit_queue, (offer_timing _ _).1, ih]
    | elsewhere change => exact ih

/-- The queue remembers the time of the last tick that held a round, and the first tick held one. -/
theorem after_lastRound (h : StepHost σ) (interval : Nat) (w : σ) (calls : List (Call σ)) :
    let seen := (start interval w).ticks h calls
    (after h interval w calls).queue.lastRound = (lastRound? h seen).map (reading h) ∧
    (lastRound? h seen = none → seen = []) := by
  induction calls using List.reverseRecOn with
  | nil => exact ⟨rfl, fun _ => rfl⟩
  | append_singleton calls c ih =>
    obtain ⟨hlast, hfirst⟩ := ih
    rw [after_append, ticks_concat]
    intro seen
    cases c with
    | tick =>
      have ht : ((after h interval w calls).perform h .tick).queue.lastRound =
          if (after h interval w calls).holdsRound h then
            some ((after h interval w calls).reading h)
          else (after h interval w calls).queue.lastRound :=
        (tick_timing (after_sound h interval w calls) h _).2
      rw [ht, show seen = _ ++ [after h interval w calls] from rfl, lastRound?_append]
      cases hdue : (after h interval w calls).holdsRound h with
      | true => exact ⟨rfl, by simp⟩
      | false =>
        refine ⟨hlast, fun hnone => ?_⟩
        -- A queue that has held no round is due for one.
        rw [if_neg (by simp)] at hnone
        simp [hlast, hnone, holdsRound, isRoundDue] at hdue
    | submit i new =>
      rw [perform, submit_queue, (offer_timing _ _).2,
        show seen = (start interval w).ticks h calls from List.append_nil _]
      exact ⟨hlast, hfirst⟩
    | elsewhere change =>
      rw [show seen = (start interval w).ticks h calls from List.append_nil _]
      exact ⟨hlast, hfirst⟩

/-- Under a clock that never goes back, a round is held in the first tick, and then in each first
tick that comes at least the interval after the last round. -/
theorem holdsRound_iff {h : StepHost σ} {interval : Nat} {w : σ} {calls : List (Call σ)}
    (hclock : (((start interval w).ticks h calls).map (reading h)).Pairwise (· ≤ ·))
    {before behind : List (Run σ)} {t : Run σ}
    (ht : (start interval w).ticks h calls = before ++ t :: behind) :
    t.holdsRound h = true ↔
      before = [] ∨ ∃ u, lastRound? h before = some u ∧ u.reading h + interval ≤ t.reading h := by
  obtain ⟨done, rest, rfl, rfl, hdone⟩ := exists_of_ticks_eq ht
  obtain rfl : t = after h interval w done := hdone
  obtain ⟨hlast, hfirst⟩ := after_lastRound h interval w done
  rw [holdsRound, isRoundDue, hlast, after_interval]
  cases hu : lastRound? h ((start interval w).ticks h done) with
  | none => simp [hfirst hu]
  | some u =>
    have hmem := mem_of_lastRound? hu
    -- An interval of 0 is over at any time, also if the clock went back.
    have hle : u.reading h ≤ (after h interval w done).reading h := by
      rw [ht, List.map_append, List.map_cons] at hclock
      exact (List.pairwise_append.mp hclock).2.2 _ (List.mem_map_of_mem hmem) _
        List.mem_cons_self
    have hsome : (start interval w).ticks h done ≠ [] := List.ne_nil_of_mem hmem
    simp only [Option.map_some, decide_eq_true_eq, hsome, false_or, Option.some.injEq,
      exists_eq_left']
    omega

end Run

end Queue

end Criteria
