import Criteria.Proofs.Steps.Shelving

/-!
# A queue runs its items as the interpreter does

What a queue asks the world on behalf of the steps of an item, tick by tick and with items on the
shelf, is what the interpreter asks, in the same order and with the same effects.
-/
namespace Criteria

namespace Inline

variable {σ : Type} {p : StepPlan σ} {m m' f : Inline σ}

theorem asked_query (m : Inline σ) (poll : Poll σ) (n : Nat) (todo : Bool → List Nat) :
    m.asked <+: (m.query poll n todo).asked := List.prefix_append ..

/-- What has been asked stays on record. -/
theorem asked_next (m : Inline σ) : m.asked <+: (m.next p).asked := by
  unfold next
  cases m.todo with
  | nil => exact List.prefix_refl _
  | cons n rest =>
    cases hp : p.step n with
    | action poll => simpa only [hp] using m.asked_query poll n _
    | branch gate cs => simpa only [hp] using m.asked_query gate n _
    | loop gate cs => simpa only [hp] using m.asked_query gate n _
    | sequence cs => simp [hp]
    | wait clock duration => simp [hp]
    | own step => simp [hp]

theorem asked_iterate {g : Inline σ → Inline σ} (hg : ∀ m, m.asked <+: (g m).asked) (m : Inline σ)
    {j k : Nat} (h : j ≤ k) : (g^[j] m).asked <+: (g^[k] m).asked := by
  induction h with
  | refl => exact List.prefix_refl _
  | step _ ih =>
    rw [Function.iterate_succ_apply']
    exact ih.trans (hg _)

/-- Behind its end the interpreter stays where it is. -/
theorem iterate_sub {k : Nat} (h : ((next p)^[k] m).todo = []) (j : Nat) :
    (next p)^[k - j] ((next p)^[j] m) = (next p)^[k] m := by
  by_cases hle : j ≤ k
  · rw [← Function.iterate_add_apply, Nat.sub_add_cancel hle]
  · have hj : (next p)^[j] m = (next p)^[j - k] ((next p)^[k] m) := by
      rw [← Function.iterate_add_apply, Nat.sub_add_cancel (by omega)]
    have hk : k - j = 0 := by omega
    rw [hk, hj, iterate_of_todo_eq_nil h]
    rfl

/-- Nothing is asked that has not been asked at the end. -/
theorem asked_of_todo_eq_nil {k : Nat} (h : ((next p)^[k] m).todo = []) (j : Nat) :
    ((next p)^[j] m).asked <+: ((next p)^[k] m).asked := by
  rw [← iterate_sub h j]
  exact asked_iterate asked_next _ (Nat.zero_le (k - j))

theorem Proceeds.iterate {rank rank' : Nat} (h : Proceeds p m rank m' rank') :
    ∃ k, (next p)^[k] m = m' := by
  rcases h with ⟨-, k, hk⟩ | ⟨rfl, -⟩
  · exact ⟨k + 1, hk⟩
  · exact ⟨0, rfl⟩

/-- The end of the interpreter comes nearer, or else the rank has become less. -/
theorem Proceeds.nearer {rank rank' k : Nat} (h : Proceeds p m rank m' rank')
    (hk : (next p)^[k] m = f) (hf : f.todo = []) :
    ∃ k', (next p)^[k'] m' = f ∧ (k' < k ∨ k' = k ∧ rank' < rank) := by
  rcases h with ⟨hne, j, rfl⟩ | ⟨rfl, hrank⟩
  · subst hk
    refine ⟨k - (j + 1), iterate_sub hf (j + 1), .inl ?_⟩
    cases k with
    | zero => exact absurd hf hne
    | succ k => omega
  · exact ⟨k, hk, .inr ⟨rfl, hrank⟩⟩

end Inline

namespace QueueItem

variable {σ : Type}

/-- The interpreter for an item: an item that is to be repeated begins again at its end. -/
def lap (i : QueueItem σ) (p : StepPlan σ) (m : Inline σ) : Inline σ :=
  match m.todo with
  | [] => if i.isRepeat then i.opened (i.closing m.world) m.asked else m
  | _ :: _ => m.next p

theorem lap_of_not_repeat (i : QueueItem σ) (p : StepPlan σ) (h : i.isRepeat = false) :
    i.lap p = Inline.next p := by
  funext m
  unfold lap
  cases htodo : m.todo with
  | nil => simp [h, Inline.next_of_todo_eq_nil htodo]
  | cons n rest => rfl

/-- What has been asked stays on record, also when the item is repeated. -/
theorem asked_lap (i : QueueItem σ) (p : StepPlan σ) (m : Inline σ) :
    m.asked <+: (i.lap p m).asked := by
  unfold lap
  cases m.todo with
  | nil => cases i.isRepeat <;> exact List.prefix_refl _
  | cons n rest => exact m.asked_next

theorem iterate_lap (i : QueueItem σ) (p : StepPlan σ) (m : Inline σ) (k : Nat) :
    ∃ j, (i.lap p)^[j] m = (Inline.next p)^[k] m := by
  induction k with
  | zero => exact ⟨0, rfl⟩
  | succ k ih =>
    obtain ⟨j, hj⟩ := ih
    rw [Function.iterate_succ_apply']
    cases htodo : ((Inline.next p)^[k] m).todo with
    | nil => exact ⟨j, by rw [hj, Inline.next_of_todo_eq_nil htodo]⟩
    | cons n rest =>
      refine ⟨j + 1, ?_⟩
      rw [Function.iterate_succ_apply', hj, lap, htodo]

end QueueItem

namespace StepPlan

variable {σ : Type}

/-- A queue and its site after ticks at the times of a clock, with all that was done. -/
def ticks (p : StepPlan σ) (clock : Nat → Nat) (q : Queue (Site σ)) (s : Site σ) :
    Nat → Done (Site σ) (Queue (Site σ))
  | 0 => ⟨q, s, []⟩
  | n + 1 =>
    let d := p.ticks clock q s n
    let d' := d.value.tick (p.hostAt (clock n)) d.world
    ⟨d'.value.2, d'.world, d.acts ++ d'.acts⟩

variable {p : StepPlan σ} {item : QueueItem σ} {q : Queue (Site σ)} {s : Site σ}

/-- The interpreter has asked what the queue has asked, and has the same still to run. -/
inductive Follows (p : StepPlan σ) (item : QueueItem σ) (q : Queue (Site σ)) (s : Site σ) :
    Inline σ → Prop where
  | queued : Queued p item q s → Follows p item q s (item.opened s.world s.asked)
  | working {todo : List Nat} {rank : Nat} : Working p item q s todo rank →
    Follows p item q s (s.inline todo)
  | finished {m : Inline σ} : item.isRepeat = false → q.active = none → q.pending = [] →
    m.todo = [] → m.asked = s.asked → Follows p item q s m

namespace Follows

variable {m : Inline σ}

theorem asked (h : Follows p item q s m) : s.asked = m.asked := by
  cases h with
  | queued => rfl
  | working => rfl
  | finished _ _ _ _ hasked => exact hasked.symm

theorem world (h : Follows p item q s m) (hactive : q.active ≠ none) : s.world = m.world := by
  cases h with
  | queued hq => exact absurd hq.active hactive
  | working => rfl
  | finished _ hq => exact absurd hq hactive

theorem tick (hforest : p.IsForest item.nodes) (hready : item.AlwaysReady) (hne : item.nodes ≠ [])
    (h : Follows p item q s m) (time : Nat) :
    let d := q.tick (p.hostAt time) s
    ∃ k, Follows p item d.value.2 d.world ((item.lap p)^[k] m) := by
  intro d
  cases h with
  | queued hq =>
    rcases hq.tick hforest hready hne time with ⟨-, hq', hs⟩ | ⟨todo', rank', hw, hproceeds⟩
    · have hopened : item.opened s.world s.asked = item.opened d.world.world d.world.asked := by
        rw [show d.world = s from hs]
      refine ⟨0, ?_⟩
      rw [hopened]
      exact .queued hq'
    · obtain ⟨k, hk⟩ := hproceeds.iterate
      obtain ⟨j, hj⟩ := item.iterate_lap p (item.opened s.world s.asked) k
      exact ⟨j, by rw [hj, hk]; exact .working hw⟩
  | working hw =>
    rcases hw.tick hforest time with ⟨todo', rank', hw', hproceeds⟩ | ⟨rfl, hended⟩
    · obtain ⟨k, hk⟩ := hproceeds.iterate
      obtain ⟨j, hj⟩ := item.iterate_lap p _ k
      exact ⟨j, by rw [hj, hk]; exact .working hw'⟩
    · cases hrepeat : item.isRepeat with
      | false =>
        refine ⟨0, .finished hrepeat hended.active ?_ rfl hended.asked.symm⟩
        simpa [hrepeat] using hended.pending
      | true =>
        have hlap : item.lap p (s.inline []) = item.opened d.world.world d.world.asked := by
          rw [hended.world, hended.asked]
          simp [QueueItem.lap, Site.inline, hrepeat]
        have hpending : d.value.2.pending = [item.onSite] := by
          simpa [hrepeat] using hended.pending
        refine ⟨1, ?_⟩
        rw [Function.iterate_one, hlap]
        exact .queued ⟨hended.active, hended.shelf, hpending, hended.fresh hrepeat⟩
  | finished hrepeat hactive hpending htodo hasked =>
    obtain ⟨hactive', -, hpending', hworld⟩ := refresh_nil (s := s) time hpending
    have hnone : Queue.takeReady (q.refresh time s).value.pending = none := by
      rw [hpending']
      rfl
    obtain ⟨hq, hs⟩ := (Queue.tick_ticked (p.hostAt time) q s).eq_of_idle
      (hactive'.trans hactive) hnone
    refine ⟨0, .finished hrepeat ?_ ?_ htodo ?_⟩
    · rw [show d.value.2 = _ from hq]
      exact hactive'.trans hactive
    · rw [show d.value.2 = _ from hq]
      exact hpending'
    · have hworld' : d.world = s := hs.trans hworld
      rw [hworld']
      exact hasked

end Follows

/-- After any number of ticks the interpreter has come to a place where it has asked the same. -/
theorem follows_ticks {m : Inline σ} (hforest : p.IsForest item.nodes) (hready : item.AlwaysReady)
    (hne : item.nodes ≠ []) (h : Follows p item q s m) (clock : Nat → Nat) (n : Nat) :
    let d := p.ticks clock q s n
    ∃ k, Follows p item d.value d.world ((item.lap p)^[k] m) := by
  induction n with
  | zero => exact ⟨0, h⟩
  | succ n ih =>
    obtain ⟨k, hk⟩ := ih
    obtain ⟨j, hj⟩ := hk.tick hforest hready hne (clock n)
    refine ⟨j + k, ?_⟩
    rw [Function.iterate_add_apply]
    exact hj

/-- If the interpreter comes to its end, so does the item. -/
theorem Working.ends {clock : Nat → Nat} {f : Inline σ} {todo : List Nat} {n k rank : Nat}
    (hforest : p.IsForest item.nodes) (hf : f.todo = [])
    (hw : Working p item (p.ticks clock q s n).value (p.ticks clock q s n).world todo rank)
    (hk : (Inline.next p)^[k] ((p.ticks clock q s n).world.inline todo) = f) :
    ∃ n' s', Ended p item s' (p.ticks clock q s n').acts (p.ticks clock q s n').value
      (p.ticks clock q s n').world ∧ s'.inline [] = f := by
  induction k using Nat.strongRecOn generalizing n todo rank with
  | ind k ihk =>
    induction rank using Nat.strongRecOn generalizing n todo with
    | ind rank ihr =>
      rcases hw.tick hforest (clock n) with ⟨todo', rank', hw', hproceeds⟩ | ⟨rfl, hended⟩
      · obtain ⟨k', hk', hlt | ⟨rfl, hlt⟩⟩ := hproceeds.nearer hk hf
        · exact ihk k' hlt (n := n + 1) hw' hk'
        · exact ihr rank' hlt (n := n + 1) hw' hk'
      · refine ⟨n + 1, (p.ticks clock q s n).world, ?_, ?_⟩
        · exact { hended with told := List.mem_append_right _ hended.told }
        · rw [← hk, Inline.iterate_of_todo_eq_nil rfl]

/-- A queue with one item asks what the interpreter asks: after any number of ticks it has asked
what the interpreter has asked after some number of steps, and its world is the interpreter's. If
the interpreter comes to its end, then so does the item, with exactly what the interpreter has
asked. -/
theorem ticks_refine_inline (p : StepPlan σ) (item : QueueItem σ) (interval : Nat)
    (clock : Nat → Nat) (s : Site σ) (hne : item.nodes ≠ []) (hforest : p.IsForest item.nodes)
    (hfresh : ∀ n ∈ item.nodes, p.Fresh s n) (hready : item.AlwaysReady) :
    let d := p.ticks clock { interval, pending := [item.onSite] } s
    let m := item.opened s.world s.asked
    (∀ n, ∃ k, (d n).world.asked = ((item.lap p)^[k] m).asked ∧
      (∀ k', k ≤ k' → (d n).world.asked <+: ((item.lap p)^[k'] m).asked) ∧
      ((d n).value.active ≠ none → (d n).world.world = ((item.lap p)^[k] m).world)) ∧
    ∀ k, let f := (Inline.next p)^[k] m
      f.todo = [] →
        (item.isRepeat = false → ∀ n, (d n).world.asked <+: f.asked) ∧
        ∃ n, (d n).value.active = none ∧ (d n).value.shelf = [] ∧
          (d n).value.pending = (if item.isRepeat then [item.onSite] else []) ∧
          (d n).world.asked = f.asked ∧ (d n).world.world = item.closing f.world ∧
          .itemDone item.id ∈ (d n).acts := by
  intro d m
  have hqueued : Queued p item { interval, pending := [item.onSite] } s := ⟨rfl, rfl, rfl, hfresh⟩
  have hfollows := follows_ticks hforest hready hne (.queued hqueued) clock
  refine ⟨fun n => ?_, fun k => ?_⟩
  · obtain ⟨k, hk⟩ := hfollows n
    refine ⟨k, hk.asked, fun k' hle => ?_, hk.world⟩
    rw [hk.asked]
    exact Inline.asked_iterate (item.asked_lap p) m hle
  · intro f hf
    refine ⟨fun hrepeat n => ?_, ?_⟩
    · obtain ⟨j, hj⟩ := hfollows n
      rw [hj.asked, item.lap_of_not_repeat p hrepeat]
      exact Inline.asked_of_todo_eq_nil hf j
    · rcases hqueued.tick hforest hready hne (clock 0) with ⟨hdue, -⟩ | ⟨todo, rank, hw, hproceeds⟩
      · simp [Queue.isRoundDue] at hdue
      · obtain ⟨k', hk', -⟩ := hproceeds.nearer rfl hf
        obtain ⟨n, s', hended, hs'⟩ := Working.ends (n := 1) hforest hf hw hk'
        have hasked : s'.asked = f.asked := congrArg (·.asked) hs'
        have hworld : s'.world = f.world := congrArg (·.world) hs'
        exact ⟨n, hended.active, hended.shelf, hended.pending, hended.asked.trans hasked,
          hworld ▸ hended.world, hended.told⟩

/-- An action that counts up and says yes at every second time, and a loop around it up to four. -/
def counting : StepPlan Nat where
  now _ := 0
  name _ _ := "count"
  step
    | 1 => .loop (fun w => ⟨w < 4, w, []⟩) [0]
    | _ => .action fun w => ⟨w % 2 == 1, w + 1, []⟩

theorem counting_isForest : counting.IsForest [1] := by
  have hbelow : counting.belowAll [1] = [1, 0] := by
    simp [belowAll, below_eq, inside, counting, handles]
  refine ⟨by simp [hbelow], fun i hi => ?_⟩
  rw [hbelow, List.mem_pair] at hi
  rcases hi with rfl | rfl <;> trivial

theorem ticks_refine_inline_counting :
    let item : QueueItem Nat := { name := "count", nodes := [1] }
    let d := counting.ticks id { interval := 250, pending := [item.onSite] } { world := 0 }
    ∃ n, (d n).value.active = none ∧ (d n).world.world = 4 ∧ (d n).world.asked =
      [(1, true), (0, false), (0, true), (1, true), (0, false), (0, true), (1, false)] := by
  obtain ⟨-, hends⟩ := ticks_refine_inline counting { name := "count", nodes := [1] } 250 id
    { world := 0 } (List.cons_ne_nil 1 []) counting_isForest (fun n _ => counting.fresh_new 0 n)
    (fun g hg => by simp at hg)
  obtain ⟨-, n, hactive, -, -, hasked, hworld, -⟩ := hends 7 rfl
  exact ⟨n, hactive, hworld, hasked⟩

end StepPlan

end Criteria
