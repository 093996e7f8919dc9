import Criteria.Proofs.Queue.Rounds

/-!
# Ready items stay ready

Once an item is ready it stays so and its gate is not asked again, until the item comes to its end.
One that is to be repeated is then pending once more and has to become ready anew.
-/
namespace Criteria

namespace Queue

variable {σ : Type}

/-- The items that the host has queued and that are ready, as they were built. -/
def readied (q : Queue σ) : List (QueueItem σ) :=
  ((q.root?.toList ++ q.pending).filter (·.ready)).map (·.renewed)

theorem mem_readied {q : Queue σ} {x : QueueItem σ} :
    x ∈ q.readied ↔ ∃ i ∈ q.root?.toList ++ q.pending, i.ready = true ∧ i.renewed = x := by
  simp only [readied, List.mem_map, List.mem_filter, and_assoc]

theorem readied_of_idle {q : Queue σ} (ha : q.active = none) (hs : q.shelf = []) :
    q.readied = (q.pending.filter (·.ready)).map (·.renewed) := by
  simp [readied, root?, ha, hs]

theorem readied_of_alone {q : Queue σ} (hs : q.shelf = []) {i : QueueItem σ} (hi : i.ready = true) :
    (q.activate i).readied = i.renewed :: (q.pending.filter (·.ready)).map (·.renewed) := by
  simp [readied, root?, activate, hs, hi]

theorem readied_enqueue (q : Queue σ) {i : QueueItem σ} (hi : i.ready = false) :
    (q.enqueue i).readied = q.readied := by
  have hroot : (q.enqueue i).root? = q.root? := rfl
  rw [readied, hroot, enqueue, ← List.append_assoc, List.filter_append]
  simp [readied, hi]

/-- The item on top may be replaced by one that is as ready and the same once it is put back. -/
theorem readied_activate {q : Queue σ} {i j : QueueItem σ} (hij : j.renewed = i.renewed)
    (hr : j.ready = i.ready) : (q.activate j).readied = (q.activate i).readied := by
  simp only [readied, root?, activate]
  cases q.shelf.getLast? with
  | some root => rfl
  | none => cases hi : i.ready <;> simp [hi, hr, hij]

/-- An item that the host has queued comes to its end. If it is to be repeated it is the last
pending one then, as it was built; if not, no item of its identity is held any more. -/
structure Completes (x : QueueItem σ) (q : Queue σ) (acts : List Act) (q' : Queue σ) : Prop where
  active : ∃ i, q.active = some i ∧ i.renewed = x
  alone : q.shelf = []
  told : .itemDone x.id ∈ acts
  again : x.isRepeat = true → q'.pending.getLast? = some x
  gone : x.isRepeat = false → ∀ y ∈ q'.held, y.id ≠ x.id

theorem Move.readied {h : StepHost σ} {q q' : Queue σ} {i x : QueueItem σ} {w w' : σ}
    {acts : List Act} (hm : Move h q i w acts q' w') (hq : (q.activate i).Sound)
    (hd : (q.activate i).Distinct) (hx : x ∈ (q.activate i).readied) :
    x ∈ q'.readied ∨ Completes x (q.activate i) acts q' := by
  have hi : i.ready = true := hq.ready i (by simp)
  cases hm with
  | start =>
    have he := readied_activate (q := q) (i := i) (j := { i with cursor := some 0 }) rfl rfl
    exact Or.inl (he ▸ hx)
  | run => exact Or.inl hx
  | enter =>
    left
    simp only [Queue.readied, root?, activate, getLast?_or_top] at hx ⊢
    exact hx
  | @next k =>
    have he := readied_activate (q := q) (i := i)
      (j := { i with completed := i.completed + 1, cursor := some (k + 1) }) rfl rfl
    exact Or.inl (he ▸ hx)
  | resume _ _ _ _ hs =>
    left
    simp only [Queue.readied, root?, activate, hs, getLast?_or_top] at hx ⊢
    exact hx
  | finish _ _ _ _ hs hr =>
    rw [readied_of_alone hs hi] at hx
    rcases List.mem_cons.mp hx with rfl | hx
    · refine Or.inr ⟨⟨i, rfl, rfl⟩, hs, by simp, fun ha => ?_, fun _ y hy => ?_⟩
      · exact absurd (hr.symm.trans ha) (by simp)
      · rw [held_of_idle (q := { q with active := none }) rfl hs] at hy
        obtain ⟨j, hj, rfl⟩ := List.mem_map.mp hy
        exact Distinct.fresh hs hd j hj
    · exact Or.inl ((readied_of_idle (q := { q with active := none }) rfl hs).symm ▸ hx)
  | again _ _ _ _ hs hr =>
    have hoffer := offer_of_not_refused (not_refused (hq.items i (by simp [mem_items])).nodes hs hd)
    rw [hoffer, readied_enqueue _ rfl]
    rw [readied_of_alone hs hi] at hx
    rcases List.mem_cons.mp hx with rfl | hx
    · refine Or.inr ⟨⟨i, rfl, rfl⟩, hs, by simp, fun _ => ?_, fun ha => ?_⟩
      · simp [enqueue]
      · exact absurd (ha.symm.trans hr) (by simp)
    · exact Or.inl ((readied_of_idle (q := { q with active := none }) rfl hs).symm ▸ hx)

theorem Ticked.readied {h : StepHost σ} {q q' : Queue σ} {x : QueueItem σ} {w w' : σ}
    {acts : List Act} {status : TickStatus} (hq : q.Sound) (hd : q.Distinct)
    (ht : Ticked h q w acts status q' w') (hx : x ∈ q.readied) :
    x ∈ q'.readied ∨ Completes x q acts q' := by
  cases ht with
  | @active i _ _ _ ha hm =>
    have hsound := hq.of_active ha
    rw [← activate_of_active ha] at hq hd hx ⊢
    exact (hm hsound.workable).readied hq hd hx
  | @chosen i others _ _ _ ha hr hm =>
    obtain ⟨before, after, hsplit, rfl, hi, hbefore⟩ := takeReady_eq_some hr
    have hs := hq.active ha
    obtain rfl := hq.chosen ha hr hm
    left
    have halone : (({ q with pending := before ++ after } : Queue σ).activate
        { i with cursor := some 0 }).readied =
          i.renewed :: ((before ++ after).filter (·.ready)).map (·.renewed) :=
      readied_of_alone (q := { q with pending := before ++ after }) hs hi
    rw [halone]
    rw [readied_of_idle ha hs, hsplit] at hx
    have hnone : before.filter (·.ready) = [] := List.filter_eq_nil_iff.mpr (by simpa using hbefore)
    simpa [List.filter_append, hnone, hi] using hx
  | idle => exact Or.inl hx

/-- A round of gates takes readiness from no item. -/
theorem readied_refresh {q : Queue σ} (now : Nat) (w : σ) {x : QueueItem σ} (hx : x ∈ q.readied) :
    x ∈ (q.refresh now w).value.readied := by
  obtain ⟨i, hi, hready, rfl⟩ := mem_readied.mp hx
  have hroot : (q.refresh now w).value.root? = q.root? := by
    rw [root?, root?, refresh_shelf, refresh_active]
  refine mem_readied.mpr ⟨i, ?_, hready, rfl⟩
  rw [hroot]
  refine List.mem_append.mpr ((List.mem_append.mp hi).imp_right fun hi => ?_)
  -- An item that is ready stands in its place behind the round.
  obtain ⟨k, hk, rfl⟩ := List.mem_iff_getElem.mp hi
  have hf := refresh_forall₂ q now w
  have hk' : k < (q.refresh now w).value.pending.length := hf.length_eq ▸ hk
  have hget : (q.refresh now w).value.pending[k] = q.pending[k] := (hf.get hk hk').2 hready
  exact hget ▸ List.getElem_mem hk'

theorem tick_readied {q : Queue σ} (hq : q.Sound) (hd : q.Distinct) (h : StepHost σ) (w : σ)
    {x : QueueItem σ} (hx : x ∈ q.readied) :
    x ∈ (q.tick h w).value.2.readied ∨ Completes x q (q.tick h w).acts (q.tick h w).value.2 := by
  have ht := (tick_ticked h q w).readied (hq.refresh _ _) (hd.refresh _ _) (readied_refresh _ _ hx)
  refine ht.imp_right fun hc => ⟨?_, ?_, List.mem_of_mem_filter hc.told, hc.again, hc.gone⟩
  · rw [← refresh_active q (h.now w) w]
    exact hc.active
  · rw [← refresh_shelf q (h.now w) w]
    exact hc.alone

/-- An item that is ready is not asked. -/
theorem not_asked {q : Queue σ} (hd : q.Distinct) (h : StepHost σ) (w : σ) {x : QueueItem σ}
    (hx : x ∈ q.readied) (answer : Bool) :
    (x.id, answer) ∉ Act.gates (q.tick h w).acts := by
  rw [gates_tick]
  cases hdue : q.isRoundDue (h.now w) with
  | false =>
    rw [refresh_skipped hdue]
    simp
  | true =>
    intro hasked
    obtain ⟨j, hj, hid, hready⟩ := (refresh_held hdue w).1.mem_of_asked hasked
    obtain ⟨i, hi, hi', rfl⟩ := mem_readied.mp hx
    rw [Distinct, held_ids] at hd
    have hij : j = i := List.inj_on_of_nodup_map hd (List.mem_append_right _ hj) hi hid
    rw [hij, hi'] at hready
    exact absurd hready (by simp)

/-- An item is ready behind a round if it has no gate or the gate says so. -/
theorem readied_of_asked {q : Queue σ} (hq : q.Sound) (hd : q.Distinct) {h : StepHost σ} {w : σ}
    (hdue : q.isRoundDue (h.now w) = true) {x : QueueItem σ} (hx : x ∈ q.pending)
    (hopen : x.gate = none ∨ (x.id, true) ∈ Act.gates (q.tick h w).acts) :
    x.renewed ∈ (q.tick h w).value.2.readied := by
  rw [gates_tick] at hopen
  have hmem := (refresh_held hdue w).1.mem_ready hd.pending hx (Or.inr hopen)
  have hready : x.renewed ∈ (q.refresh (h.now w) w).value.readied :=
    mem_readied.mpr ⟨_, List.mem_append_right _ hmem, rfl, rfl⟩
  have hdistinct := hd.refresh (h.now w) w
  refine ((tick_ticked h q w).readied (hq.refresh _ _) hdistinct hready).resolve_right fun hc => ?_
  -- A pending item is not the one that comes to its end.
  obtain ⟨i, hi, he⟩ := hc.active
  rw [← activate_of_active hi] at hdistinct
  have hid : i.renewed.id = x.renewed.id := congrArg QueueItem.id he
  exact Distinct.fresh hc.alone hdistinct _ hmem hid.symm

namespace Run

/-- An item that is ready comes to its end with the next tick. -/
def Completing (h : StepHost σ) (r : Run σ) (x : QueueItem σ) : Prop :=
  let d := r.queue.tick h r.world
  Completes x r.queue d.acts d.value.2

theorem perform_readied {h : StepHost σ} {r : Run σ} (hq : r.queue.Sound) (hd : r.queue.Distinct)
    {x : QueueItem σ} (hx : x ∈ r.queue.readied) (c : Call σ) :
    (∀ t ∈ r.found c, ∀ answer, (x.id, answer) ∉ t.asked h) ∧
      (x ∈ (r.perform h c).queue.readied ∨ (c = .tick ∧ r.Completing h x)) := by
  cases c with
  | tick =>
    refine ⟨?_, (tick_readied hq hd h r.world hx).imp_right (And.intro rfl)⟩
    intro t ht
    exact List.mem_singleton.mp ht ▸ not_asked hd h r.world hx
  | submit i new =>
    refine ⟨by simp [found], Or.inl ?_⟩
    rw [perform, submit_queue, offer]
    split
    · exact hx
    · rw [readied_enqueue _ new.ready]
      exact hx
  | elsewhere change => exact ⟨by simp [found], Or.inl hx⟩

/-- An item that is ready stays so and is not asked, until it comes to its end. -/
theorem after_readied {h : StepHost σ} {interval : Nat} {w : σ} {calls : List (Call σ)}
    {x : QueueItem σ} (hx : x ∈ (after h interval w calls).queue.readied) (more : List (Call σ)) :
    let r := after h interval w calls
    (x ∈ (after h interval w (calls ++ more)).queue.readied ∧
      ∀ t ∈ r.ticks h more, ∀ answer, (x.id, answer) ∉ t.asked h) ∨
    ∃ done rest, more = done ++ .tick :: rest ∧
      x ∈ (after h interval w (calls ++ done)).queue.readied ∧
      (∀ t ∈ r.ticks h (done ++ [.tick]), ∀ answer, (x.id, answer) ∉ t.asked h) ∧
      (after h interval w (calls ++ done)).Completing h x := by
  intro r
  induction more using List.reverseRecOn with
  | nil => exact Or.inl ⟨by rw [List.append_nil]; exact hx, by simp [ticks]⟩
  | append_singleton more c ih =>
    rcases ih with ⟨hready, hasked⟩ | ⟨done, rest, rfl, hdone⟩
    · obtain ⟨hnow, hnext⟩ := perform_readied (after_sound h interval w (calls ++ more))
        (after_distinct h interval w (calls ++ more)) hready c
      have hrun : more.foldl (perform h) r = after h interval w (calls ++ more) :=
        List.foldl_append.symm
      have hnone : ∀ t ∈ r.ticks h (more ++ [c]), ∀ answer, (x.id, answer) ∉ t.asked h := by
        rw [ticks_concat, hrun]
        intro t ht
        exact (List.mem_append.mp ht).elim (hasked t) (hnow t)
      rcases hnext with hstays | ⟨rfl, hends⟩
      · rw [← List.append_assoc, after_append]
        exact Or.inl ⟨hstays, hnone⟩
      · exact Or.inr ⟨more, [], rfl, hready, hnone, hends⟩
    · exact Or.inr ⟨done, rest ++ [c], by simp, hdone⟩

/-- However the host answers, whatever the interval and in whatever order items are queued and the
queue ticks: if the clock does not go back, a round of gates is held in the first tick, and then in
each first tick that comes at least the interval after the last round. A round asks the gates of the
pending items that are not ready, once each and in order; nothing else asks a gate. An item is ready
behind a round if it has no gate or its gate says so, and from then on it is ready and not asked
until it comes to its end, behind which it is pending once more if it is to be repeated. -/
theorem after_gates (h : StepHost σ) (interval : Nat) (w : σ) (calls : List (Call σ)) :
    let r := after h interval w calls
    let seen := (start interval w).ticks h calls
    let round := r.queue.refresh (r.reading h) r.world
    ((seen.map (reading h)).Pairwise (· ≤ ·) → ∀ before t behind, seen = before ++ t :: behind →
      (t.holdsRound h = true ↔ before = [] ∨
        ∃ u, lastRound? h before = some u ∧ u.reading h + interval ≤ t.reading h)) ∧
    (r.holdsRound h = true →
      (r.asked h).map Prod.fst =
        (r.queue.pending.filter fun i => !i.ready && i.gate.isSome).map QueueItem.id ∧
      Round r.queue.pending r.world (r.asked h) round.value.pending round.world) ∧
    (r.holdsRound h = false → r.asked h = [] ∧ round = ⟨r.queue, r.world, []⟩) ∧
    (∀ i, Act.gates (r.queue.submit i r.world).acts = []) ∧
    (r.holdsRound h = true → ∀ x ∈ r.queue.pending, x.gate = none ∨ (x.id, true) ∈ r.asked h →
      x.renewed ∈ (r.perform h .tick).queue.readied) ∧
    ∀ x ∈ r.queue.readied, ∀ more,
      (x ∈ (after h interval w (calls ++ more)).queue.readied ∧
        ∀ t ∈ r.ticks h more, ∀ answer, (x.id, answer) ∉ t.asked h) ∨
      ∃ done rest, more = done ++ .tick :: rest ∧
        x ∈ (after h interval w (calls ++ done)).queue.readied ∧
        (∀ t ∈ r.ticks h (done ++ [.tick]), ∀ answer, (x.id, answer) ∉ t.asked h) ∧
        (after h interval w (calls ++ done)).Completing h x := by
  intro r seen round
  have hsound : r.queue.Sound := after_sound h interval w calls
  have hdistinct : r.queue.Distinct := after_distinct h interval w calls
  have hasked : r.asked h = Act.gates round.acts := gates_tick h r.queue r.world
  refine ⟨fun hclock before t behind ht => holdsRound_iff hclock ht, fun hdue => ?_, fun hdue => ?_,
    fun i => gateless_submit r.queue i r.world, fun hdue x hx hopen => ?_,
    fun x hx more => after_readied hx more⟩
  · have hround := (refresh_held hdue r.world).1
    rw [hasked]
    exact ⟨hround.asked_ids, hround⟩
  · have hround : round = ⟨r.queue, r.world, []⟩ := refresh_skipped hdue r.world
    exact ⟨by rw [hasked, hround]; rfl, hround⟩
  · exact readied_of_asked hsound hdistinct hdue hx hopen

/-- A host whose world is its clock, and whose steps are done at once. -/
def clockwork : StepHost Nat where
  now := id
  name _ _ := "step"
  isDone _ w := ⟨true, w, []⟩
  children _ w := ⟨[], w, []⟩
  run _ w := ⟨(), w, []⟩
  onStart _ w := ⟨(), w, []⟩
  onDone _ w := ⟨(), w, []⟩
  reset _ w := ⟨(), w, []⟩

/-- The gate is asked at 0, not at 99, and at 100, where it says yes. -/
theorem after_gates_debounced :
    let item : QueueItem Nat :=
      { name := "heal", nodes := [0], gate := some fun _ w => ⟨100 ≤ w, w, []⟩ }
    let calls : List (Call Nat) :=
      [.submit item ⟨rfl, rfl, rfl, rfl⟩, .tick, .elsewhere (· + 99), .tick, .elsewhere (· + 1)]
    let r := after clockwork 100 0 calls
    ((start 100 0).ticks clockwork calls).map (asked clockwork) = [[(item.id, false)], []] ∧
      r.holdsRound clockwork = true ∧ item ∈ (r.perform clockwork .tick).queue.readied := by
  intro item calls r
  obtain ⟨hrounds, -⟩ := after_gates clockwork 100 0 (calls ++ [.tick])
  have hdue : r.holdsRound clockwork = true :=
    (hrounds (by decide) ((start 100 0).ticks clockwork calls) r [] (ticks_concat ..)).mpr
      (Or.inr ⟨_, rfl, by decide⟩)
  obtain ⟨-, -, -, -, hopen, -⟩ := after_gates clockwork 100 0 calls
  exact ⟨by decide, hdue, hopen hdue item (List.mem_singleton.mpr rfl) (Or.inr (by decide))⟩

end Run

end Queue

end Criteria
