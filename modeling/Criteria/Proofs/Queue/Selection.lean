import Criteria.Proofs.Queue.Readiness

/-!
# Which item comes next

A tick without an active item begins with the first pending item that is ready behind its round of
gates. What is pending moves only to the front, so that an item that is ready has its turn after at
most as many others as stand before it.
-/
namespace Criteria

namespace Queue

variable {σ : Type}

theorem takeReady_first {before : List (QueueItem σ)} {x : QueueItem σ} (hx : x.ready = true)
    (hbefore : ∀ y ∈ before, y.ready = false) (behind : List (QueueItem σ)) :
    takeReady (before ++ x :: behind) = some (x, before ++ behind) := by
  induction before with
  | nil => simp [takeReady, hx]
  | cons y before ih =>
    have hy : y.ready = false := hbefore y List.mem_cons_self
    simp [takeReady, hy, ih fun z hz => hbefore z (List.mem_cons_of_mem y hz)]

theorem takeReady_eq_none {items : List (QueueItem σ)} :
    takeReady items = none ↔ ∀ y ∈ items, y.ready = false := by
  induction items with
  | nil => simp [takeReady]
  | cons y items ih => cases hy : y.ready <;> simp [takeReady, hy, ih]

/-- What is taken stands no further back than an item that is ready. -/
theorem takeReady_reaches {x : QueueItem σ} (hx : x.ready = true)
    (before behind : List (QueueItem σ)) :
    takeReady (before ++ x :: behind) = some (x, before ++ behind) ∨
      ∃ front y rest, before = front ++ y :: rest ∧
        takeReady (before ++ x :: behind) = some (y, front ++ rest ++ x :: behind) := by
  induction before with
  | nil => exact Or.inl (takeReady_first hx (by simp) behind)
  | cons y before ih =>
    cases hy : y.ready with
    | true => exact Or.inr ⟨[], y, before, rfl, by simp [takeReady, hy]⟩
    | false =>
      rcases ih with ih | ⟨front, z, rest, rfl, ih⟩
      · exact Or.inl (by simp [takeReady, hy, ih])
      · refine Or.inr ⟨y :: front, z, rest, rfl, ?_⟩
        simp only [List.append_assoc, List.cons_append] at ih ⊢
        simp [takeReady, hy, ih]

section Ticked

variable {h : StepHost σ} {q q' : Queue σ} {x : QueueItem σ} {others : List (QueueItem σ)}
  {w w' : σ} {acts : List Act} {status : TickStatus}

/-- The item that is taken begins. -/
theorem Ticked.of_ready (hq : q.Sound) (ht : Ticked h q w acts status q' w') (ha : q.active = none)
    (hready : takeReady q.pending = some (x, others)) :
    status = .running ∧ q' = ({ q with pending := others } : Queue σ).activate
      { x with cursor := some 0 } := by
  cases ht with
  | active ha' => simp [ha] at ha'
  | @chosen i others' _ _ _ _ hready' hm =>
    obtain ⟨rfl, rfl⟩ := Prod.mk.inj (Option.some.inj (hready'.symm.trans hready))
    exact ⟨rfl, hq.chosen ha hready hm⟩
  | idle _ hready' => simp [hready] at hready'

theorem Ticked.idle_iff (ht : Ticked h q w acts status q' w') :
    status = .idle ↔ q.active = none ∧ ∀ y ∈ q.pending, y.ready = false := by
  rw [← takeReady_eq_none]
  cases ht with
  | active ha => simp [ha]
  | chosen ha hready => simp [hready]
  | idle ha hready => simp [ha, hready]

theorem Ticked.of_idle (ht : Ticked h q w acts status q' w') (hidle : status = .idle) :
    acts = [] ∧ q' = q ∧ w' = w := by
  cases ht with
  | active => simp at hidle
  | chosen => simp at hidle
  | idle => exact ⟨rfl, rfl, rfl⟩

end Ticked

theorem offer_pending (q : Queue σ) (i : QueueItem σ) :
    ∃ new, (q.offer i).pending = q.pending ++ new := by
  unfold offer
  split
  · exact ⟨[], (List.append_nil _).symm⟩
  · exact ⟨[i], rfl⟩

/-- A move leaves the pending items in their places. -/
theorem Move.pending_append {h : StepHost σ} {q q' : Queue σ} {i : QueueItem σ} {w w' : σ}
    {acts : List Act} (hm : Move h q i w acts q' w') :
    ∃ new, q'.pending = q.pending ++ new := by
  cases hm with
  | again => exact offer_pending _ _
  | _ => exact ⟨[], (List.append_nil _).symm⟩

/-- An item that is ready keeps its place in a round of gates. -/
theorem place_of_forall₂ {items items' before behind : List (QueueItem σ)} {x : QueueItem σ}
    (hf : List.Forall₂ (fun i j => j = { i with ready := j.ready } ∧ (i.ready = true → j = i)) items
      items') (hitems : items = before ++ x :: behind) (hx : x.ready = true) :
    ∃ before' behind', items' = before' ++ x :: behind' ∧ before'.length = before.length := by
  induction hf generalizing before with
  | nil => simp at hitems
  | @cons i j items items' hij _ ih =>
    cases before with
    | nil =>
      obtain ⟨rfl, -⟩ := List.cons.inj hitems
      exact ⟨[], items', by rw [hij.2 hx]; rfl, rfl⟩
    | cons y before =>
      obtain ⟨before', behind', rfl, hlen⟩ := ih (List.cons.inj hitems).2
      exact ⟨j :: before', behind', rfl, congrArg (· + 1) hlen⟩

/-- No other pending item has the identity of one of them. -/
theorem Distinct.pending_ne {q : Queue σ} (hd : q.Distinct) {before behind : List (QueueItem σ)}
    {x : QueueItem σ} (hp : q.pending = before ++ x :: behind) :
    ∀ y ∈ before ++ behind, y.id ≠ x.id := by
  have hids := hd.pending
  rw [hp, List.map_append, List.map_cons, List.nodup_middle] at hids
  intro y hy he
  rw [← List.map_append] at hids
  exact (List.nodup_cons.mp hids).1 (List.mem_map.mpr ⟨y, hy, he⟩)

/-- How an item fares that was ready and had so many others before it, when these items have been
activated since: it still waits and has come nearer by one place with each of them, or it had its
turn after no more others than were before it. -/
inductive Served (x : QueueItem σ) (ahead : Nat) (activated : List (QueueItem σ)) (q : Queue σ) :
    Prop where
  | waits {before behind : List (QueueItem σ)} : q.pending = before ++ x :: behind →
    activated.length + before.length = ahead → (∀ y ∈ activated, y.id ≠ x.id) →
    Served x ahead activated q
  | turn {first rest : List (QueueItem σ)} : activated = first ++ { x with cursor := some 0 } :: rest →
    first.length ≤ ahead → (∀ y ∈ first, y.id ≠ x.id) → Served x ahead activated q

theorem Served.after {x : QueueItem σ} {ahead near : Nat} {activated later : List (QueueItem σ)}
    {q : Queue σ} (hs : Served x near later q) (hlen : activated.length + near = ahead)
    (hne : ∀ y ∈ activated, y.id ≠ x.id) : Served x ahead (activated ++ later) q := by
  have hother : ∀ items : List (QueueItem σ), (∀ y ∈ items, y.id ≠ x.id) →
      ∀ y ∈ activated ++ items, y.id ≠ x.id := fun items hitems y hy =>
    (List.mem_append.mp hy).elim (hne y) (hitems y)
  cases hs with
  | waits hp hnear hlater =>
    exact .waits hp (by rw [List.length_append]; omega) (hother _ hlater)
  | @turn first rest hlater hnear hfirst =>
    exact .turn (by rw [hlater, List.append_assoc]) (by rw [List.length_append]; omega)
      (hother _ hfirst)

namespace Run

/-- The item that becomes the active one with a call, if there was none. -/
def activated (h : StepHost σ) (r : Run σ) (c : Call σ) : List (QueueItem σ) :=
  match r.queue.active with
  | none => (r.perform h c).queue.active.toList
  | some _ => []

/-- The items that become the active one with further calls, one after another. -/
def activations (h : StepHost σ) : Run σ → List (Call σ) → List (QueueItem σ)
  | _, [] => []
  | r, c :: calls => r.activated h c ++ (r.perform h c).activations h calls

theorem activated_of_active {h : StepHost σ} {r : Run σ} {i : QueueItem σ}
    (ha : r.queue.active = some i) (c : Call σ) : r.activated h c = [] := by
  rw [activated, ha]

theorem activated_of_idle {h : StepHost σ} {r : Run σ} (ha : r.queue.active = none) (c : Call σ) :
    r.activated h c = (r.perform h c).queue.active.toList := by
  rw [activated, ha]

/-- No item is activated with a call that leaves the active one as it is. -/
theorem activated_of_same {h : StepHost σ} {r : Run σ} {c : Call σ}
    (hc : (r.perform h c).queue.active = r.queue.active) : r.activated h c = [] := by
  cases ha : r.queue.active with
  | none => rw [activated_of_idle ha, hc, ha]; rfl
  | some i => exact activated_of_active ha c

/-- With a tick an item that is ready behind its round has its turn, or it stands where it stood, or
one place nearer to the front if another one is activated. -/
theorem tick_serves {h : StepHost σ} {r : Run σ} (hq : r.queue.Sound) (hd : r.queue.Distinct)
    {before behind : List (QueueItem σ)} {x : QueueItem σ}
    (hp : (r.queue.refresh (r.reading h) r.world).value.pending = before ++ x :: behind)
    (hx : x.ready = true) :
    Served x before.length (r.activated h .tick) (r.perform h .tick).queue := by
  have ht := tick_ticked h r.queue r.world
  cases ha : r.queue.active with
  | some i =>
    have hworkable := (hq.of_active ha).workable
    obtain ⟨new, hnew⟩ := (ht.move_active (by rw [refresh_active, ha]) hworkable).pending_append
    rw [reading] at hp
    rw [hp, List.append_assoc, List.cons_append] at hnew
    rw [activated_of_active ha]
    exact .waits hnew (by simp) (by simp)
  | none =>
    have ha' := (refresh_active r.queue (h.now r.world) r.world).trans ha
    rw [activated_of_idle ha]
    rcases takeReady_reaches hx before behind with hready | ⟨front, y, rest, rfl, hready⟩
    · obtain ⟨-, hqueue⟩ := ht.of_ready (hq.refresh _ _) ha' (hp ▸ hready)
      have hturn : (r.perform h .tick).queue.active.toList =
          [] ++ { x with cursor := some 0 } :: [] := by
        rw [perform, hqueue]
        rfl
      exact .turn hturn (by simp) (by simp)
    · obtain ⟨-, hqueue⟩ := ht.of_ready (hq.refresh _ _) ha' (hp ▸ hready)
      have hnear : (r.perform h .tick).queue.pending = (front ++ rest) ++ x :: behind := by
        rw [perform, hqueue]
        rfl
      have hturn : (r.perform h .tick).queue.active.toList = [{ y with cursor := some 0 }] := by
        rw [perform, hqueue]
        rfl
      rw [hturn]
      refine .waits hnear ?_ ?_
      · simp only [List.length_append, List.length_cons, List.length_nil]
        omega
      · intro z hz
        rw [List.mem_singleton.mp hz]
        exact (hd.refresh _ _).pending_ne hp y (by simp)

/-- With one call a pending item that is ready has its turn, or comes no further to the back. -/
theorem perform_serves {h : StepHost σ} {r : Run σ} (hq : r.queue.Sound) (hd : r.queue.Distinct)
    {before behind : List (QueueItem σ)} {x : QueueItem σ}
    (hp : r.queue.pending = before ++ x :: behind) (hx : x.ready = true) (c : Call σ) :
    Served x before.length (r.activated h c) (r.perform h c).queue := by
  cases c with
  | submit i new =>
    obtain ⟨added, hadded⟩ := offer_pending r.queue i
    have hnone : r.activated h (.submit i new) = [] := activated_of_same (by simp [perform])
    have hp' : (r.perform h (.submit i new)).queue.pending = before ++ x :: (behind ++ added) := by
      rw [perform, submit_queue, hadded, hp, List.append_assoc, List.cons_append]
    rw [hnone]
    exact .waits hp' (by simp) (by simp)
  | elsewhere change =>
    have hnone : r.activated h (.elsewhere change) = [] := activated_of_same rfl
    rw [hnone]
    exact .waits hp (by simp) (by simp)
  | tick =>
    obtain ⟨before', behind', hp', hlen⟩ :=
      place_of_forall₂ (refresh_forall₂ r.queue (r.reading h) r.world) hp hx
    exact hlen ▸ tick_serves hq hd hp' hx

section Serves

variable {h : StepHost σ} {interval : Nat} {w : σ} {calls more : List (Call σ)} {x : QueueItem σ}

/-- An item that waits behind a call is served by the calls behind that one. -/
theorem serves_cons {ahead : Nat} {c : Call σ}
    (hnow : Served x ahead ((after h interval w calls).activated h c)
      ((after h interval w calls).perform h c).queue)
    (hlater : ∀ before behind,
      (after h interval w (calls ++ [c])).queue.pending = before ++ x :: behind →
      Served x before.length ((after h interval w (calls ++ [c])).activations h more)
        (after h interval w (calls ++ [c] ++ more)).queue) :
    Served x ahead ((after h interval w calls).activations h (c :: more))
      (after h interval w (calls ++ c :: more)).queue := by
  rw [← after_append] at hnow
  rw [activations, ← after_append, List.append_cons calls c more]
  cases hnow with
  | waits hp hlen hne => exact (hlater _ _ hp).after hlen hne
  | turn hturn hlen hne =>
    exact .turn (by rw [hturn, List.append_assoc, List.cons_append]) hlen hne

/-- A pending item that is ready has its turn after at most as many others as stand before it. -/
theorem after_serves (hx : x.ready = true) {before behind : List (QueueItem σ)}
    (hp : (after h interval w calls).queue.pending = before ++ x :: behind) :
    Served x before.length ((after h interval w calls).activations h more)
      (after h interval w (calls ++ more)).queue := by
  induction more generalizing calls before behind with
  | nil =>
    rw [List.append_nil]
    exact .waits hp (by simp [activations]) (by simp [activations])
  | cons c more ih =>
    exact serves_cons (perform_serves (after_sound h interval w calls)
      (after_distinct h interval w calls) hp hx c) fun _ _ hp' => ih hp'

end Serves

/-- The item that a tick activates stands behind no ready one. -/
theorem not_ready_of_overtaken {h : StepHost σ} {q : Queue σ} {w : σ} (hq : q.Sound)
    (hd : q.Distinct) (ha : q.active = none) {ahead behind : List (QueueItem σ)}
    {y y' : QueueItem σ} (hp : (q.refresh (h.now w) w).value.pending = ahead ++ y :: behind)
    (hy' : (q.tick h w).value.2.active = some y') (hid : y'.id = y.id) :
    ∀ x ∈ ahead, x.ready = false := by
  have ht := tick_ticked h q w
  have ha' := (refresh_active q (h.now w) w).trans ha
  have hsound := hq.refresh (h.now w) w
  cases hready : takeReady (q.refresh (h.now w) w).value.pending with
  | none =>
    rw [(ht.eq_of_idle ha' hready).1, ha'] at hy'
    simp at hy'
  | some found =>
    obtain ⟨z, others⟩ := found
    rw [(ht.of_ready hsound ha' hready).2] at hy'
    obtain rfl := Option.some.inj hy'
    obtain ⟨front, rest, hsplit, -, -, hfront⟩ := takeReady_eq_some hready
    have hne := (hd.refresh (h.now w) w).pending_ne hp
    have hzy : z = y := by
      have hz : z ∈ ahead ++ y :: behind := by simp [← hp, hsplit]
      by_contra hzy
      exact hne z (by simpa [hzy] using hz) hid
    subst hzy
    have hahead : z ∉ ahead := fun hz => hne z (List.mem_append_left _ hz) rfl
    have hbehind : z ∉ behind := fun hz => hne z (List.mem_append_right _ hz) rfl
    rw [hp, List.append_cons_inj_of_notMem hahead hbehind] at hsplit
    exact hsplit.1 ▸ hfront

/-- However the host answers and in whatever order items are queued and the queue ticks: a tick that
finds no active item activates the first pending one that is ready behind its round of gates, so
that none is passed over that is ready. An item that is ready, be it before a tick or behind the
round of one, has its turn after at most as many others as stand before it. A tick is idle just if
no item is active and none is ready behind its round; it calls no hook and no step then, and changes
nothing beyond the round. -/
theorem after_selects (h : StepHost σ) (interval : Nat) (w : σ) (calls : List (Call σ)) :
    let r := after h interval w calls
    let q := r.queue
    let round := q.refresh (r.reading h) r.world
    let ticked := q.tick h r.world
    (round.value = { q with pending := round.value.pending, lastRound := round.value.lastRound } ∧
      List.Forall₂ (fun i j => j = { i with ready := j.ready }) q.pending round.value.pending) ∧
    (q.active = none → ∀ before x behind, round.value.pending = before ++ x :: behind →
      x.ready = true → (∀ y ∈ before, y.ready = false) →
      ticked.value = (.running, { round.value with
        pending := before ++ behind, active := some { x with cursor := some 0 } })) ∧
    (q.active = none → ∀ before x between y behind y',
      round.value.pending = before ++ x :: (between ++ y :: behind) →
      ticked.value.2.active = some y' → y'.id = y.id → x.ready = false) ∧
    (∀ before x behind, q.pending = before ++ x :: behind → x.ready = true → ∀ more,
      Served x before.length (r.activations h more) (after h interval w (calls ++ more)).queue) ∧
    (∀ before x behind, round.value.pending = before ++ x :: behind → x.ready = true → ∀ more,
      Served x before.length (r.activations h (.tick :: more))
        (after h interval w (calls ++ .tick :: more)).queue) ∧
    (ticked.value.1 = .idle ↔
      q.active = none ∧ ∀ y ∈ round.value.pending, y.ready = false) ∧
    (ticked.value.1 = .idle →
      Act.calls ticked.acts = [] ∧ ticked.value.2 = round.value ∧ ticked.world = round.world) := by
  intro r q round ticked
  have hsound : q.Sound := after_sound h interval w calls
  have hdistinct : q.Distinct := after_distinct h interval w calls
  have ht := tick_ticked h q r.world
  obtain ⟨hround, hf, -⟩ := refresh_spec q (r.reading h) r.world
  have hactive : round.value.active = q.active := refresh_active ..
  refine ⟨⟨hround, hf⟩, fun ha before x behind hp hx hbefore => ?_, fun ha before x between y behind
    y' hp hy' hid => ?_, fun before x behind hp hx more => after_serves hx hp,
    fun before x behind hp hx more => ?_, ?_, ht.of_idle⟩
  · have hready : takeReady round.value.pending = some (x, before ++ behind) :=
      hp ▸ takeReady_first hx hbefore behind
    obtain ⟨hstatus, hqueue⟩ := ht.of_ready (hsound.refresh _ _) (hactive.trans ha) hready
    exact Prod.ext hstatus hqueue
  · have hahead : round.value.pending = (before ++ x :: between) ++ y :: behind := by
      rw [hp, List.append_assoc, List.cons_append]
    exact not_ready_of_overtaken hsound hdistinct ha hahead hy' hid x (by simp)
  · exact serves_cons (tick_serves hsound hdistinct hp hx) fun _ _ hp' => after_serves hx hp'
  · rw [ht.idle_iff, refresh_active]
    rfl

/-- An item whose gate says no is passed over. -/
theorem after_selects_overtaking :
    let gated : QueueItem Nat :=
      { name := "gated", nodes := [0], gate := some fun _ w => ⟨100 ≤ w, w, []⟩ }
    let free : QueueItem Nat := { name := "free", nodes := [1] }
    let r := after clockwork 0 0
      [.submit gated ⟨rfl, rfl, rfl, rfl⟩, .submit free ⟨rfl, rfl, rfl, rfl⟩]
    (r.queue.tick clockwork r.world).value =
      (.running, { interval := 0, pending := [gated], lastRound := some 0,
                   active := some { free with ready := true, cursor := some 0 } }) := by
  intro gated free r
  obtain ⟨-, hfirst, -⟩ := after_selects clockwork 0 0
    [.submit gated ⟨rfl, rfl, rfl, rfl⟩, .submit free ⟨rfl, rfl, rfl, rfl⟩]
  exact hfirst rfl [gated] { free with ready := true } [] rfl rfl (by simp [gated])

end Run

end Queue

end Criteria
