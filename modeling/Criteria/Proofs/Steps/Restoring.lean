import Criteria.Proofs.Steps.Separation

/-!
# Steps put back

An item that is put back, and a loop that begins a round, find all steps below as they were built,
however the handles are shared and whatever was run before. So a lap of an item that is to be
repeated begins like the first one.
-/
namespace Criteria

namespace StepPlan

open Queue (History Request)

variable {σ : Type} {p : StepPlan σ} {s s' : Site σ} {n : Nat} {steps : List Nat}

/-- Whether the question to a loop which steps are to be run begins a round: the loop is not
finished, no round is under way, and the gate holds. -/
def Begins (p : StepPlan σ) (gate : Poll σ) (n : Nat) (s : Site σ) : Prop :=
  (s.states n).finished = false ∧
    ((s.states n).iterations = 0 ∨ p.allDone s (p.inside n) = true) ∧ (gate s.world).answer = true

section Loop

variable {gate : Poll σ} {cs : List (Fin n)} (hp : p.step n = .loop gate cs)
include hp

/-- When a round begins, the steps inside are to be run, and are as they were built with all that is
below them. -/
theorem round_begins (hb : p.Begins gate n s) :
    let r := p.children n s
    r.answer = p.inside n ∧
      r.world.states n = { s.states n with iterations := (s.states n).iterations + 1 } ∧
      ∀ c ∈ p.inside n, p.Fresh r.world c := by
  intro r
  obtain ⟨hfinished, hbetween, hgate⟩ := hb
  have hhand : p.InHand s n := by
    simp only [InHand, hp]
    exact .inr hbetween
  have hr := loop_held hp hhand ((p.isDone_loop s hp).trans hfinished) hgate
  have hself : (p.resetAll (query gate n s).world (p.inside n)).states n = s.states n :=
    p.resetAll_other _ (p.notMem_belowAll_inside n)
  rw [show r = _ from hr, Site.put_same, hself]
  exact ⟨rfl, rfl, fun c hc => (p.resetAll_fresh _ _ c hc).put hc _⟩

/-- No other round is counted. -/
theorem no_round_begins (hb : ¬ p.Begins gate n s) :
    ((p.children n s).world.states n).iterations = (s.states n).iterations := by
  simp only [children, hp, ← p.inside_loop hp, loopChildren]
  split
  · rfl
  · next hfinished =>
    split
    · next hbetween =>
      split
      · next hgate => exact absurd ⟨by simpa using hfinished, by simpa using hbetween, hgate⟩ hb
      · rw [Site.put_same]
        rfl
    · rfl

end Loop

section Again

variable {q q' : Queue (Site σ)} {i : QueueItem (Site σ)} {acts : List Act}

/-- At the end of an item that is to be repeated, and for which none waits, its steps are put
back. -/
theorem fresh_of_end_again (hm : Queue.Move p.host q i s acts q' s') (hdone : .itemDone i.id ∈ acts)
    (hs : q.shelf = []) (hi : i.isRepeat = true) : ∀ n ∈ i.nodes, p.Fresh s' n := by
  cases hm with
  | resume _ _ _ _ hs' => simp [hs] at hs'
  | finish _ _ _ _ _ hi' => simp [hi] at hi'
  | again => exact p.resetAll_fresh _ i.nodes
  | _ => simp at hdone

/-- A lap ends with the item put back behind the pending ones. -/
theorem lap_ends (hq : q.Sound) (hd : q.Distinct) (ha : q.active = some i) (hs : q.shelf = [])
    (hi : i.isRepeat = true) (hdone : .itemDone i.id ∈ (q.tick p.host s).acts) :
    (q.tick p.host s).value.2.pending.getLast? = some i.renewed ∧
      ∀ n ∈ i.nodes, p.Fresh (q.tick p.host s).world n := by
  obtain ⟨-, hvalue⟩ := Queue.tick_again hq hd ha hs hi hdone
  refine ⟨by simp [hvalue, Queue.enqueue], ?_⟩
  exact fresh_of_end_again (Queue.tick_move hq ha) (Queue.mem_calls_itemDone hdone)
    (by rw [Queue.refresh_shelf, hs]) hi

/-- In a tidy queue an item is chosen as it was built, with all steps below it. -/
theorem Tidy.chosen {others : List (QueueItem (Site σ))} (ht : p.Tidy q s) (hq : q.Sound)
    (hr : Queue.takeReady q.pending = some (i, others)) :
    i.cursor = none ∧ i.completed = 0 ∧ ∀ n ∈ i.nodes, p.Fresh s n := by
  obtain ⟨before, after, hsplit, -, -, -⟩ := Queue.takeReady_eq_some hr
  have hi : i ∈ q.pending := by simp [hsplit]
  obtain ⟨hcursor, -⟩ := hq.pending i hi
  exact ⟨hcursor, (hq.items i (Queue.mem_items.mpr (.inr hi))).unstarted hcursor, ht.fresh i hi⟩

end Again

theorem asBuilt_of_fresh (hf : ∀ n ∈ steps, p.Fresh s n) : ∀ m ∈ p.belowAll steps, p.AsBuilt s m := by
  intro m hm
  obtain ⟨n, hn, hm⟩ := p.mem_belowAll.mp hm
  exact hf n hn m hm

/-- Whatever was run before, and however the handles are shared: an item that is put back is as it
was before it was queued, and all steps below it are as they were built. A loop counts a round just
when it begins one, and then all steps below it but itself are as they were built. So whatever the
host does, a lap of an item that is to be repeated ends with the item pending and all its steps as
they were built; and they still are when the next lap begins, if no other item has a step in common
with it and nothing but the queue runs its steps. -/
theorem reset_restores (p : StepPlan σ) :
    (∀ (i : QueueItem (Site σ)) (s : Site σ),
      let d := i.reset p.host s
      d.value = { i with cursor := none, completed := 0, ready := false } ∧
        ∀ m ∈ p.belowAll i.nodes, p.AsBuilt d.world m) ∧
    (∀ (n : Nat) (gate : Poll σ) (cs : List (Fin n)) (s : Site σ), p.step n = .loop gate cs →
      let r := p.children n s
      ((r.world.states n).iterations ≠ (s.states n).iterations ↔ p.Begins gate n s) ∧
      (p.Begins gate n s → r.answer = handles cs ∧
        (r.world.states n).iterations = (s.states n).iterations + 1 ∧
        ∀ m ∈ p.below n, m ≠ n → p.AsBuilt r.world m)) ∧
    ∀ (interval : Nat) (w : Site σ) (requests : List (Request (Site σ))),
      let t := History.after p.host interval w requests
      let d := t.queue.tick p.host t.world
      let refreshed := t.queue.refresh (p.host.now t.world) t.world
      (∀ i, t.queue.active = some i → t.queue.shelf = [] → i.isRepeat = true →
        .itemDone i.id ∈ d.acts →
        d.value.2.pending.getLast? =
            some { i with cursor := none, completed := 0, ready := false } ∧
          ∀ m ∈ p.belowAll i.nodes, p.AsBuilt d.world m) ∧
      (p.Orderly interval w requests → ∀ i others,
        Queue.takeReady refreshed.value.pending = some (i, others) →
        i.cursor = none ∧ i.completed = 0 ∧
          ∀ m ∈ p.belowAll i.nodes, p.AsBuilt refreshed.world m) := by
  refine ⟨fun i s => ⟨rfl, ?_⟩, fun n gate cs s hp => ⟨⟨?_, ?_⟩, ?_⟩, fun interval w requests => ?_⟩
  · have hworld : (i.reset p.host s).world = p.resetAll s i.nodes :=
      p.host.resetAll_world i.nodes s
    rw [hworld]
    exact asBuilt_of_fresh (p.resetAll_fresh s i.nodes)
  · intro hne
    by_contra hb
    exact hne (no_round_begins hp hb)
  · intro hb
    rw [(round_begins hp hb).2.1]
    exact Nat.succ_ne_self _
  · intro hb
    obtain ⟨hanswer, hself, hfresh⟩ := round_begins hp hb
    refine ⟨hanswer.trans (p.inside_loop hp), by rw [hself], fun m hm hne => ?_⟩
    rw [below_eq, List.mem_cons] at hm
    exact asBuilt_of_fresh hfresh m (hm.resolve_left hne)
  · intro t d refreshed
    have hq : t.queue.Sound := History.after_sound p.host interval w requests
    refine ⟨fun i ha hs hi hdone => ?_, fun ho i others hr => ?_⟩
    · have hd := (History.after_conserves_distinct p.host interval w requests).1
      obtain ⟨hlast, hfresh⟩ := lap_ends hq hd ha hs hi hdone
      exact ⟨hlast, asBuilt_of_fresh hfresh⟩
    · obtain ⟨hcursor, hcompleted, hfresh⟩ :=
        ((after_tidy ho).refresh _).chosen (hq.refresh _ _) hr
      exact ⟨hcursor, hcompleted, asBuilt_of_fresh hfresh⟩

/-- A loop that is left after one round, around a sequence and an action that the sequence holds
too. -/
def lapping : StepPlan Nat where
  now _ := 0
  name _ _ := "lap"
  step
    | 1 => .sequence [⟨0, Nat.one_pos⟩]
    | 2 => .loop (fun w => ⟨w % 2 == 0, w + 1, []⟩) [⟨1, Nat.one_lt_two⟩, ⟨0, Nat.two_pos⟩]
    | _ => .action fun w => ⟨true, w, []⟩

/-- The loop is queued, to be repeated, and the queue ticks. -/
def laps (ticks : Nat) : List (Request (Site Nat)) :=
  .submit { name := "lap", nodes := [2], isRepeat := true } ⟨rfl, rfl, rfl, rfl⟩ ::
    List.replicate ticks .tick

theorem laps_orderly (ticks : Nat) : lapping.Orderly 0 { world := 0 } (laps ticks) := by
  intro before request later he
  cases before with
  | nil =>
    obtain ⟨rfl, -⟩ := List.cons.inj he
    refine fun _ => ⟨QueueItem.onSite_discreet { name := "lap", nodes := [2], isRepeat := true },
      fun n _ => lapping.fresh_new 0 n, ?_⟩
    simp [History.after, History.start, Queue.items]
  | cons first before =>
    have hmem : request ∈ List.replicate ticks Request.tick := by
      rw [(List.cons.inj he).2]
      simp
    rw [List.eq_of_mem_replicate hmem]
    trivial

theorem reset_restores_lapping :
    let t n := History.after lapping.host 0 { world := 0 } (laps n)
    let d := (t 10).queue.tick lapping.host (t 10).world
    let refreshed := (t 11).queue.refresh 0 (t 11).world
    (((t 1).world.states 2).iterations = 0 ∧
      ((lapping.children 2 (t 1).world).world.states 2).iterations = 1) ∧
    (((t 10).world.states 2).finished = true ∧ (d.world.states 2).finished = false ∧
      (d.world.states 2).iterations = 0 ∧ (d.world.states 0).done = false) ∧
    ∃ i others, Queue.takeReady refreshed.value.pending = some (i, others) ∧ i.cursor = none := by
  intro t d refreshed
  have hbelow : lapping.belowAll [2] = [2, 1, 0, 0] := by
    simp [belowAll, below_eq, inside, lapping, handles]
  obtain ⟨-, hround, hlap⟩ := reset_restores lapping
  obtain ⟨i, hi⟩ : ∃ i, (t 10).queue.active = some i :=
    Option.isSome_iff_exists.mp (by decide +kernel)
  have hend : (t 10).queue.active.all (fun i =>
      i.nodes = [2] ∧ i.isRepeat = true ∧ .itemDone i.id ∈ d.acts) = true := by decide +kernel
  rw [hi, Option.all_some, decide_eq_true_iff] at hend
  obtain ⟨hnodes, hrepeat, hdone⟩ := hend
  obtain ⟨-, hbuilt⟩ := (hlap 0 { world := 0 } (laps 10)).1 i hi (by decide +kernel) hrepeat hdone
  obtain ⟨⟨i', others⟩, hready⟩ : ∃ found, Queue.takeReady refreshed.value.pending = some found :=
    Option.isSome_iff_exists.mp (by decide +kernel)
  obtain ⟨hcursor, -⟩ :=
    (hlap 0 { world := 0 } (laps 11)).2 (laps_orderly 11) i' others hready
  have hbegins : lapping.Begins (fun w => ⟨w % 2 == 0, w + 1, []⟩) 2 (t 1).world :=
    ⟨by decide +kernel, .inl (by decide +kernel), by decide +kernel⟩
  obtain ⟨-, hcount, -⟩ := (hround 2 _ _ (t 1).world rfl).2 hbegins
  rw [hnodes, hbelow] at hbuilt
  refine ⟨⟨by decide +kernel, hcount.trans (by decide +kernel)⟩, ⟨by decide +kernel, ?_⟩,
    i', others, hready, hcursor⟩
  have hloop := hbuilt 2 (by simp)
  have haction := hbuilt 0 (by simp)
  exact ⟨hloop.2, hloop.1, haction⟩

end StepPlan

end Criteria
