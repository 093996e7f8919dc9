import Criteria.Proofs.Queue.History
import Mathlib.Algebra.Order.Group.Multiset
import Mathlib.Tactic.Abel

/-!
# No item is lost

Each item that a queue takes in is held by it, once, until it comes to its end or is dropped. An
item that is to be repeated goes back to the pending ones and is never refused, since no other item
of its identity can have been taken in while it was held.
-/
namespace Criteria

namespace Queue

variable {σ : Type}

/-- No two items that the host has queued have the same identity. -/
def Distinct (q : Queue σ) : Prop := (q.held.map QueueItem.id).Nodup

theorem held_ids (q : Queue σ) :
    q.held.map QueueItem.id = (q.root?.toList ++ q.pending).map QueueItem.id := by
  rw [held, List.map_map]
  rfl

theorem held_enqueue (q : Queue σ) (i : QueueItem σ) : (q.enqueue i).held = q.held ++ [i.renewed] := by
  rw [held, held, ← List.map_singleton, ← List.map_append, List.append_assoc]
  rfl

theorem held_of_idle {q : Queue σ} (ha : q.active = none) (hs : q.shelf = []) :
    q.held = q.pending.map (·.renewed) := by
  simp [held, root?, ha, hs]

theorem held_of_alone {q : Queue σ} (hs : q.shelf = []) (i : QueueItem σ) :
    (q.activate i).held = i.renewed :: q.pending.map (·.renewed) := by
  simp [held, root?, activate, hs]

/-- What stands on an item does not decide which one is the lowest. -/
theorem getLast?_or_top (i : QueueItem σ) (below : List (QueueItem σ)) (top : Option (QueueItem σ)) :
    (i :: below).getLast?.or top = below.getLast?.or (some i) := by
  cases h : below.getLast? <;> simp [List.getLast?_cons, h]

/-- The item on top may be replaced by one that is the same once it is put back. -/
theorem held_activate {q : Queue σ} {i j : QueueItem σ} (hij : j.renewed = i.renewed) :
    (q.activate j).held = (q.activate i).held := by
  simp only [held, root?, activate]
  cases q.shelf.getLast? <;> simp [hij]

/-- Items that differ at most in whether they are ready are the same once they are put back. -/
theorem map_renewed_of_ready {items items' : List (QueueItem σ)}
    (hf : List.Forall₂ (fun i j => j = { i with ready := j.ready }) items items') :
    items'.map (·.renewed) = items.map (·.renewed) := by
  induction hf with
  | nil => rfl
  | cons hj _ ih =>
    rw [List.map_cons, List.map_cons, ih, hj]
    rfl

/-- A round of gates changes nothing about the items that are held. -/
theorem held_refresh (q : Queue σ) (now : Nat) (w : σ) : (q.refresh now w).value.held = q.held := by
  obtain ⟨hv, hf, -⟩ := refresh_spec q now w
  rw [held, List.map_append, map_renewed_of_ready hf, hv, held, List.map_append]
  rfl

theorem Distinct.refresh {q : Queue σ} (hd : q.Distinct) (now : Nat) (w : σ) :
    (q.refresh now w).value.Distinct := by
  rw [Distinct, held_refresh]
  exact hd

theorem ended_calls (q : Queue σ) (acts : List Act) : q.ended (Act.calls acts) = q.ended acts := by
  have hmem : ∀ id, .itemDone id ∈ Act.calls acts ↔ .itemDone id ∈ acts := by
    simp [Act.calls, Act.isCall]
  unfold ended
  split <;> simp [hmem]

theorem ended_of_shelf {q : Queue σ} (hs : q.shelf ≠ []) (acts : List Act) : q.ended acts = [] := by
  unfold ended
  split
  · contradiction
  · rfl

theorem Distinct.pending {q : Queue σ} (hd : q.Distinct) : (q.pending.map QueueItem.id).Nodup := by
  rw [Distinct, held_ids, List.map_append] at hd
  exact hd.of_append_right

/-- No pending item has the identity of the one being worked on. -/
theorem Distinct.fresh {q : Queue σ} {i : QueueItem σ} (hs : q.shelf = [])
    (hd : (q.activate i).Distinct) : ∀ j ∈ q.pending, j.id ≠ i.id := by
  rw [Distinct, held_ids, root?, shelf_activate, hs] at hd
  intro j hj he
  exact (List.nodup_cons.mp hd).1 (List.mem_map.mpr ⟨j, hj, he⟩)

/-- An item that is to be repeated is not refused: it has steps, and no other item of its identity
has been taken in. -/
theorem not_refused {q : Queue σ} {i : QueueItem σ} (hn : i.nodes ≠ []) (hs : q.shelf = [])
    (hd : (q.activate i).Distinct) :
    ({ q with active := none } : Queue σ).refusal? i.renewed = none := by
  have hfresh := Distinct.fresh hs hd
  have hnodes : i.renewed.nodes.isEmpty = false := by simpa [QueueItem.renewed] using hn
  have hcontains : ({ q with active := none } : Queue σ).contains i.renewed.id = false := by
    simpa [contains, items, hs] using hfresh
  rw [refusal?, hnodes, hcontains]
  rfl

theorem offer_of_not_refused {q : Queue σ} {i : QueueItem σ} (hr : q.refusal? i = none) :
    q.offer i = q.enqueue i := by
  rw [offer, hr]

theorem ended_activate {q : Queue σ} {i : QueueItem σ} (hs : q.shelf = []) (acts : List Act) :
    (q.activate i).ended acts =
      if i.isRepeat = false ∧ .itemDone i.id ∈ acts then [i.renewed] else [] := by
  simp only [ended, activate, hs]

theorem ended_of_notMem {q : Queue σ} {acts : List Act} (ha : ∀ id, .itemDone id ∉ acts) :
    q.ended acts = [] := by
  unfold ended
  split
  · exact if_neg fun hc => ha _ hc.2
  · rfl

/-- What is held before a move is held after it, or has come to its end with it. -/
theorem Move.held_perm {h : StepHost σ} {q q' : Queue σ} {i : QueueItem σ} {w w' : σ}
    {acts : List Act} (hm : Move h q i w acts q' w') (hn : i.nodes ≠ [])
    (hd : (q.activate i).Distinct) :
    (q.activate i).held.Perm (q'.held ++ (q.activate i).ended acts) := by
  cases hm with
  | start =>
    rw [ended_of_notMem (by simp), List.append_nil, held_activate]
    rfl
  | run =>
    rw [ended_of_notMem (by simp), List.append_nil]
  | enter =>
    rw [ended_of_notMem (by simp), List.append_nil]
    simp only [held, root?, activate, getLast?_or_top]
    rfl
  | next =>
    rw [ended_of_notMem (by simp), List.append_nil, held_activate]
    rfl
  | resume _ _ _ _ hs =>
    rw [ended_of_shelf (by simp [hs]), List.append_nil]
    simp only [held, root?, activate, hs, getLast?_or_top]
    rfl
  | finish _ _ _ _ hs hr =>
    rw [ended_activate hs, if_pos ⟨hr, by simp⟩, held_of_alone hs,
      held_of_idle (q := { q with active := none }) rfl hs]
    exact (List.perm_append_singleton _ _).symm
  | again _ _ _ _ hs hr =>
    rw [ended_activate hs, if_neg (by simp [hr]), List.append_nil,
      offer_of_not_refused (not_refused hn hs hd), held_enqueue, held_of_alone hs,
      held_of_idle (q := { q with active := none }) rfl hs]
    exact (List.perm_append_singleton _ _).symm

/-- What is held before a tick is held after it, or has come to its end with it. -/
theorem Ticked.held_perm {h : StepHost σ} {q q' : Queue σ} {w w' : σ} {acts : List Act}
    {status : TickStatus} (hq : q.Sound) (hd : q.Distinct) (ht : Ticked h q w acts status q' w') :
    q.held.Perm (q'.held ++ q.ended acts) := by
  cases ht with
  | @active i _ _ _ ha hm =>
    have hsound := hq.of_active ha
    rw [← activate_of_active ha] at hd ⊢
    exact (hm hsound.workable).held_perm hsound.nodes hd
  | @chosen i others _ _ _ ha hr hm =>
    obtain ⟨before, after, hsplit, rfl, -, -⟩ := takeReady_eq_some hr
    have hs := hq.active ha
    obtain rfl := hq.chosen ha hr hm
    have hheld : (({ q with pending := before ++ after } : Queue σ).activate
        { i with cursor := some 0 }).held = i.renewed :: (before ++ after).map (·.renewed) :=
      held_of_alone (q := { q with pending := before ++ after }) hs _
    rw [hheld, held_of_idle ha hs, hsplit]
    simp [ended, ha]
  | idle ha => simp [ended, ha]

theorem tick_held_perm {q : Queue σ} (hq : q.Sound) (hd : q.Distinct) (h : StepHost σ) (w : σ) :
    q.held.Perm ((q.tick h w).value.2.held ++ q.ended (q.tick h w).acts) := by
  have hheld := held_refresh q (h.now w) w
  have ht := (tick_ticked h q w).held_perm (hq.refresh (h.now w) w) (hd.refresh (h.now w) w)
  have hended : (q.refresh (h.now w) w).value.ended (Act.calls (q.tick h w).acts) =
      q.ended (q.tick h w).acts := by
    rw [ended_calls]
    simp only [ended, refresh_active, refresh_shelf]
  rwa [hheld, hended] at ht

/-- What a soft reset keeps are the items that persist. -/
theorem softReset_held (h : StepHost σ) (q : Queue σ) (w : σ) :
    (q.softReset h w).value.held = q.held.filter (·.persists) := by
  rw [softReset_value, held_of_idle rfl rfl, held]
  cases hr : q.root? with
  | none => simp [List.filter_map, Function.comp_def]
  | some root =>
    cases hp : root.persists <;> simp [List.filter_map, Function.comp_def, Option.filter, hp]

/-- The part of what was held that is still held has distinct identities. -/
theorem Distinct.of_perm {q q' : Queue σ} {gone : List (QueueItem σ)} (hd : q.Distinct)
    (hp : q.held.Perm (q'.held ++ gone)) : q'.Distinct := by
  have hids := (hp.map QueueItem.id).nodup_iff.mp hd
  rw [List.map_append] at hids
  exact hids.of_append_left

/-- An item that is not refused has an identity of its own. -/
theorem fresh_of_not_refused {q : Queue σ} {i : QueueItem σ} (hr : q.refusal? i = none) :
    ∀ j ∈ q.items, j.id ≠ i.id := by
  intro j hj he
  have hc : q.contains i.id = true := List.any_eq_true.mpr ⟨j, hj, beq_iff_eq.mpr he⟩
  rw [refusal?, hc] at hr
  split at hr <;> simp at hr

theorem Distinct.enqueue {q : Queue σ} {i : QueueItem σ} (hd : q.Distinct) (hr : q.refusal? i = none) :
    (q.enqueue i).Distinct := by
  rw [Distinct, held_enqueue, List.map_append, held_ids]
  rw [Distinct, held_ids] at hd
  refine hd.append (List.nodup_singleton _) ?_
  rw [List.map_singleton, List.disjoint_singleton]
  intro hmem
  obtain ⟨j, hj, he⟩ := List.mem_map.mp hmem
  refine fresh_of_not_refused hr j ?_ he
  rw [root?_eq] at hj
  rcases List.mem_append.mp hj with hj | hj
  · exact mem_items.mpr (Or.inl (List.mem_of_getLast? (Option.mem_toList.mp hj)))
  · exact mem_items.mpr (Or.inr hj)

namespace History

/-- Every item taken in is held, or has come to its end, or was dropped. -/
def Conserves (s : History σ) : Prop :=
  s.accepted.Perm (s.queue.held ++ s.finished ++ s.dropped ++ s.cleared)

theorem Conserves.perform {h : StepHost σ} {s : History σ} (hs : s.queue.Sound)
    (hd : s.queue.Distinct) (hc : s.Conserves) (request : Request σ) :
    (s.perform h request).queue.Distinct ∧ (s.perform h request).Conserves := by
  rw [Conserves, ← Multiset.coe_eq_coe] at hc ⊢
  simp only [← Multiset.coe_add] at hc ⊢
  cases request with
  | submit i new =>
    cases hr : s.queue.refusal? i with
    | some refusal =>
      have hp : s.perform h (.submit i new) = s := by simp [History.perform, submit, hr]
      rw [hp]
      exact ⟨hd, hc⟩
    | none =>
      have hp : s.perform h (.submit i new) =
          { s with queue := s.queue.enqueue i, accepted := s.accepted ++ [i] } := by
        simp [History.perform, submit, hr]
      rw [hp]
      refine ⟨hd.enqueue hr, ?_⟩
      rw [held_enqueue, new.renewed, ← Multiset.coe_add, hc, ← Multiset.coe_add]
      abel
  | tick =>
    have ht := tick_held_perm hs hd h s.world
    refine ⟨hd.of_perm ht, ?_⟩
    rw [← Multiset.coe_eq_coe, ← Multiset.coe_add] at ht
    rw [ht] at hc
    simp only [History.perform]
    rw [hc, ← Multiset.coe_add]
    abel
  | reset =>
    have hheld : (s.queue.reset s.world).value.held = [] := held_of_idle rfl rfl
    refine ⟨?_, ?_⟩
    · rw [Distinct, History.perform, hheld]
      exact List.nodup_nil
    · simp only [History.perform]
      rw [hheld, hc, ← Multiset.coe_add, Multiset.coe_nil]
      abel
  | softReset =>
    have hheld := softReset_held h s.queue s.world
    have hsplit : s.queue.held.Perm
        ((s.queue.softReset h s.world).value.held ++ s.queue.held.filter (!·.persists)) := by
      rw [hheld]
      exact (List.filter_append_perm _ _).symm
    refine ⟨hd.of_perm hsplit, ?_⟩
    rw [← Multiset.coe_eq_coe, ← Multiset.coe_add] at hsplit
    rw [hsplit] at hc
    simp only [History.perform]
    rw [hc, ← Multiset.coe_add]
    abel
  | elsewhere change => exact ⟨hd, hc⟩

theorem after_conserves_distinct (h : StepHost σ) (interval : Nat) (w : σ)
    (requests : List (Request σ)) :
    (after h interval w requests).queue.Distinct ∧ (after h interval w requests).Conserves :=
  after_induction (P := fun _ s => s.queue.Distinct ∧ s.Conserves)
    ⟨List.nodup_nil, List.Perm.nil⟩
    (fun requests request ih => ih.2.perform (after_sound h interval w requests) ih.1 request)
    requests

/-- Nothing is cleared but by a reset. -/
theorem cleared_of_no_reset {h : StepHost σ} {interval : Nat} {w : σ} {requests : List (Request σ)}
    (hr : .reset ∉ requests) : (after h interval w requests).cleared = [] := by
  induction requests using List.reverseRecOn with
  | nil => rfl
  | append_singleton requests request ih =>
    rw [List.mem_append, not_or] at hr
    have hc := ih hr.1
    rw [after_append]
    cases request with
    | reset => simp at hr
    | submit i new => exact hc
    | tick => exact hc
    | softReset => exact hc
    | elsewhere change => exact hc

theorem ended_isRepeat {q : Queue σ} {acts : List Act} {i : QueueItem σ} (hi : i ∈ q.ended acts) :
    i.isRepeat = false := by
  unfold ended at hi
  split at hi
  · split at hi
    · next hr =>
      rw [List.mem_singleton.mp hi]
      exact hr.1
    · simp at hi
  · simp at hi

/-- Only items that are not to be repeated are at an end, and only such are dropped that do not
persist. -/
theorem kinds_of_gone (h : StepHost σ) (interval : Nat) (w : σ) (requests : List (Request σ)) :
    (∀ i ∈ (after h interval w requests).finished, i.isRepeat = false) ∧
      ∀ i ∈ (after h interval w requests).dropped, i.persists = false := by
  induction requests using List.reverseRecOn with
  | nil => simp [after, start]
  | append_singleton requests request ih =>
    obtain ⟨hf, hd⟩ := ih
    rw [after_append]
    cases request with
    | tick =>
      refine ⟨fun i hi => ?_, hd⟩
      exact (List.mem_append.mp hi).elim (hf i) ended_isRepeat
    | softReset =>
      refine ⟨hf, fun i hi => ?_⟩
      refine (List.mem_append.mp hi).elim (hd i) fun hi => ?_
      simpa using (List.mem_filter.mp hi).2
    | submit i new => exact ⟨hf, hd⟩
    | reset => exact ⟨hf, hd⟩
    | elsewhere change => exact ⟨hf, hd⟩

end History

section Ends

variable {h : StepHost σ} {q q' : Queue σ} {i parent : QueueItem σ} {below : List (QueueItem σ)}
  {w w' : σ} {acts : List Act}

/-- The end of an item that is to be repeated, and for which none waits. -/
theorem Move.of_end_again (hm : Move h q i w acts q' w') (hdone : .itemDone i.id ∈ acts)
    (hs : q.shelf = []) (hi : i.isRepeat = true) :
    q' = ({ q with active := none } : Queue σ).offer i.renewed := by
  cases hm with
  | resume _ _ _ _ hs' => simp [hs] at hs'
  | finish _ _ _ _ _ hi' => simp [hi] at hi'
  | again => rfl
  | _ => simp at hdone

/-- The end of an item for which another one waits. -/
theorem Move.of_end_resume (hm : Move h q i w acts q' w') (hdone : .itemDone i.id ∈ acts)
    (hs : q.shelf = parent :: below) : q' = { q with shelf := below, active := some parent } := by
  cases hm with
  | resume _ _ _ _ hs' =>
    obtain ⟨rfl, rfl⟩ := List.cons.inj (hs.symm.trans hs')
    rfl
  | finish _ _ _ _ hs' => simp [hs] at hs'
  | again _ _ _ _ hs' => simp [hs] at hs'
  | _ => simp at hdone

/-- The move of a tick with the active item. -/
theorem tick_move (hq : q.Sound) (ha : q.active = some i) :
    let r := q.refresh (h.now w) w
    let d := q.tick h w
    Move h r.value i r.world (Act.calls d.acts) d.value.2 d.world := by
  have hsound := hq.of_active ha
  exact (tick_ticked h q w).move_active (by rw [refresh_active, ha]) hsound.workable

theorem mem_calls_itemDone {id : ItemId} (hdone : .itemDone id ∈ acts) :
    .itemDone id ∈ Act.calls acts := List.mem_filter.mpr ⟨hdone, rfl⟩

/-- An item that is to be repeated is not refused at its end, and is the last pending one then. -/
theorem tick_again (hq : q.Sound) (hd : q.Distinct) (ha : q.active = some i) (hs : q.shelf = [])
    (hi : i.isRepeat = true) (hdone : .itemDone i.id ∈ (q.tick h w).acts) :
    let left := { (q.refresh (h.now w) w).value with active := none }
    left.refusal? i.renewed = none ∧ (q.tick h w).value.2 = left.enqueue i.renewed := by
  intro left
  have hshelf : (q.refresh (h.now w) w).value.shelf = [] := by rw [refresh_shelf, hs]
  have hdistinct : ((q.refresh (h.now w) w).value.activate i).Distinct := by
    rw [activate_of_active (by rw [refresh_active, ha])]
    exact hd.refresh (h.now w) w
  have hsound := hq.of_active ha
  have hr : left.refusal? i.renewed = none := not_refused hsound.nodes hshelf hdistinct
  refine ⟨hr, ?_⟩
  rw [(tick_move hq ha).of_end_again (mem_calls_itemDone hdone) hshelf hi, offer_of_not_refused hr]

/-- The end of an item that was made for the steps inside a step leaves the items below it. -/
theorem tick_resume (hq : q.Sound) (ha : q.active = some i) (hs : q.shelf = parent :: below)
    (hdone : .itemDone i.id ∈ (q.tick h w).acts) :
    (q.tick h w).value.2 =
      { (q.refresh (h.now w) w).value with active := some parent, shelf := below } := by
  exact (tick_move hq ha).of_end_resume (mem_calls_itemDone hdone) (by rw [refresh_shelf, hs])

end Ends

/-- However the host answers and whatever it asks for in whatever order: every item taken in is in
one place, pending, being worked on, at its end, or dropped by a reset; only such items are at their
end that are not to be repeated, and a soft reset drops only such that do not persist. No two items
held have the same identity, so an item that is to be repeated goes straight to the end of the
pending ones. Items made for steps inside a step are never pending and are gone with their end. A
refusal changes nothing. -/
theorem History.after_conserves (h : StepHost σ) (interval : Nat) (w : σ)
    (requests : List (Request σ)) :
    let s := History.after h interval w requests
    let q := s.queue
    let refreshed := (q.refresh (h.now s.world) s.world).value
    let ticked := q.tick h s.world
    s.accepted.Perm (q.pending.map (·.renewed) ++ q.root?.toList.map (·.renewed) ++ s.finished ++
      s.dropped ++ s.cleared) ∧
    ((q.pending ++ q.root?.toList).map QueueItem.id).Nodup ∧
    (∀ i ∈ s.finished, i.isRepeat = false) ∧
    (∀ i ∈ s.dropped, i.persists = false) ∧
    (.reset ∉ requests → s.cleared = []) ∧
    (∀ i, q.active = some i → q.shelf = [] → i.isRepeat = true → .itemDone i.id ∈ ticked.acts →
      let left := { refreshed with active := none }
      left.refusal? i.renewed = none ∧ ticked.value.2 = left.enqueue i.renewed) ∧
    (q.softReset h s.world).value =
      { interval := q.interval,
        pending := (q.root?.filter (·.persists)).toList.map (·.renewed) ++
          q.pending.filter (·.persists) } ∧
    (∀ i ∈ q.pending, i.parent = none) ∧
    (∀ i parent below, q.active = some i → q.shelf = parent :: below →
      .itemDone i.id ∈ ticked.acts →
      ticked.value.2 = { refreshed with active := some parent, shelf := below }) ∧
    ∀ i w, (q.submit i w).value.1 ≠ none →
      (q.submit i w).value.2 = q ∧ (q.submit i w).world = w := by
  intro s q refreshed ticked
  have hq : q.Sound := History.after_sound h interval w requests
  obtain ⟨hd, hc⟩ := History.after_conserves_distinct h interval w requests
  obtain ⟨hfinished, hdropped⟩ := History.kinds_of_gone h interval w requests
  refine ⟨?_, ?_, hfinished, hdropped, History.cleared_of_no_reset, ?_, softReset_value h q s.world,
    fun i hi => (hq.pending i hi).2, ?_, ?_⟩
  · have hheld : q.held.Perm (q.pending.map (·.renewed) ++ q.root?.toList.map (·.renewed)) := by
      rw [held, List.map_append]
      exact List.perm_append_comm
    exact hc.trans (((hheld.append_right _).append_right _).append_right _)
  · rw [Distinct, held_ids] at hd
    exact (List.perm_append_comm.map _).nodup_iff.mp hd
  · exact fun i ha hs hi hdone => tick_again hq hd ha hs hi hdone
  · exact fun i parent below ha hs hdone => tick_resume hq ha hs hdone
  · intro i w' hr
    cases hrefusal : q.refusal? i with
    | none => simp [submit, hrefusal] at hr
    | some refusal => simp [submit, hrefusal]

end Queue

end Criteria
