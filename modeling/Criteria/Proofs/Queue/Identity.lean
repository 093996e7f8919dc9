import Criteria.Proofs.Queue.Conservation
import Mathlib.Data.List.Chain

/-!
# Items of one identity

An item is refused if its identity is in the queue already, but the item for the steps inside a step
is never refused. It is named after the item below it and that step, so it differs from all others
in flight. Only a pending item may share its identity, one that got such a name from the host
before.
-/
namespace Criteria

namespace StepHost

variable {σ : Type} (h : StepHost σ)

/-- The name of the item that is reached from one of the given name through steps inside steps, each
of which is named as it is in some world. -/
def nameAlong (name : String) (path : List (Nat × σ)) : String :=
  path.foldl (fun name p => name ++ "/" ++ h.name p.1 p.2) name

theorem nameAlong_concat (name : String) (path : List (Nat × σ)) (n : Nat) (w : σ) :
    h.nameAlong name (path ++ [(n, w)]) = h.nameAlong name path ++ "/" ++ h.name n w :=
  List.foldl_concat ..

/-- A name is the beginning of all names that are reached from it. -/
theorem nameAlong_eq_append (name : String) (path : List (Nat × σ)) :
    ∃ rest, h.nameAlong name path = name ++ rest := by
  induction path using List.reverseRecOn with
  | nil => exact ⟨"", (String.append_empty ..).symm⟩
  | append_singleton path p ih =>
    obtain ⟨rest, hrest⟩ := ih
    exact ⟨rest ++ "/" ++ h.name p.1 p.2, by
      rw [nameAlong_concat, hrest, String.append_assoc, String.append_assoc, String.append_assoc]⟩

theorem nameAlong_of_ne_nil (name : String) {path : List (Nat × σ)} (hpath : path ≠ []) :
    ∃ rest, h.nameAlong name path = name ++ "/" ++ rest := by
  cases path with
  | nil => contradiction
  | cons p path =>
    obtain ⟨rest, hrest⟩ := h.nameAlong_eq_append (name ++ "/" ++ h.name p.1 p.2) path
    refine ⟨h.name p.1 p.2 ++ rest, ?_⟩
    calc h.nameAlong name (p :: path) = name ++ "/" ++ h.name p.1 p.2 ++ rest := hrest
      _ = name ++ "/" ++ (h.name p.1 p.2 ++ rest) := String.append_assoc

end StepHost

namespace Queue

variable {σ : Type} {h : StepHost σ} {q q' : Queue σ} {i j root : QueueItem σ}
  {items : List (QueueItem σ)}

/-- The item was made for the steps inside a step of the one below it, and is named after both. -/
def NamedAfter (h : StepHost σ) (i below : QueueItem σ) : Prop :=
  ∃ n ∈ below.nodes, ∃ w, i.name = below.name ++ "/" ++ h.name n w

theorem NamedAfter.length_lt (hn : NamedAfter h i j) : j.name.length < i.name.length := by
  obtain ⟨n, -, w, hname⟩ := hn
  rw [hname, String.length_append, String.length_append]
  have hslash : "/".length = 1 := rfl
  omega

/-- Names get longer from the lowest item to the top, so the identities differ. -/
theorem nodup_ids_of_isChain (hc : items.IsChain (NamedAfter h)) :
    (items.map QueueItem.id).Nodup := by
  have hlengths : (items.map (·.name.length)).IsChain (· > ·) :=
    (List.isChain_map _).mpr (hc.imp fun _ _ hn => hn.length_lt)
  refine List.pairwise_map.mpr ((List.pairwise_map.mp hlengths.pairwise).imp fun hlt hid => ?_)
  exact hlt.ne' (congrArg (fun id : ItemId => id.name.length) hid)

/-- An item that stands on others is reached from the lowest one. -/
theorem eq_or_exists_path (hn : Nested items) (hc : items.IsChain (NamedAfter h))
    (hroot : items.getLast? = some root) (hi : i ∈ items) :
    i = root ∨ i.parent ≠ none ∧ ∃ path ≠ [], i.name = h.nameAlong root.name path := by
  induction items generalizing i with
  | nil => simp at hi
  | cons top below ih =>
    cases below with
    | nil =>
      obtain rfl := List.mem_singleton.mp hi
      exact Or.inl (by simpa using hroot)
    | cons x below =>
      obtain ⟨⟨n, -, w, hname⟩, hchain⟩ := List.isChain_cons_cons.mp hc
      have hbelow := fun {y} (hy : y ∈ x :: below) => ih hn.2 hchain (by simpa using hroot) hy
      rcases List.mem_cons.mp hi with rfl | hi
      · refine Or.inr ⟨by simp [hn.1], ?_⟩
        rcases hbelow List.mem_cons_self with rfl | ⟨-, path, -, hpath⟩
        · exact ⟨[(n, w)], by simp, hname⟩
        · exact ⟨path ++ [(n, w)], by simp, by rw [h.nameAlong_concat, ← hpath, hname]⟩
      · exact hbelow hi

/-- The items in flight are named after one another. -/
def Descends (h : StepHost σ) (q : Queue σ) : Prop := q.inFlight.IsChain (NamedAfter h)

theorem Descends.of_idle (ha : q.active = none) (hs : q.shelf = []) : q.Descends h := by
  rw [Descends, inFlight, ha, hs]
  exact .nil

theorem Descends.of_inFlight (hq : q.Descends h) (hflight : q'.inFlight = q.inFlight) :
    q'.Descends h := by
  rwa [Descends, hflight]

/-- The item on top may be replaced by one with the same name. -/
theorem Descends.top (hq : (q.activate i).Descends h) (hname : j.name = i.name) :
    (q.activate j).Descends h := by
  rw [Descends, inFlight_activate, List.isChain_cons] at hq ⊢
  refine ⟨fun below hbelow => ?_, hq.2⟩
  rw [NamedAfter, hname]
  exact hq.1 below hbelow

/-- A move names an item only after the one on top. -/
theorem Descends.move {w w' : σ} {acts : List Act} (hq : (q.activate i).Descends h)
    (hm : Move h q i w acts q' w') : q'.Descends h := by
  cases hm with
  | start => exact hq.top rfl
  | run => exact hq
  | enter _ hn => exact List.isChain_cons_cons.mpr ⟨⟨_, List.mem_of_getElem? hn, _, rfl⟩, hq⟩
  | next => exact hq.top rfl
  | resume _ _ _ _ hs =>
    have hbelow := List.IsChain.tail hq
    rwa [inFlight_activate, List.tail_cons, hs] at hbelow
  | finish _ _ _ _ hs => exact .of_idle rfl hs
  | again _ _ _ _ hs => exact .of_idle (offer_active ..) ((offer_shelf ..).trans hs)

theorem Descends.ticked {w w' : σ} {acts : List Act} {status : TickStatus} (hsound : q.Sound)
    (hq : q.Descends h) (ht : Ticked h q w acts status q' w') : q'.Descends h := by
  cases ht with
  | active ha hm =>
    rw [← activate_of_active ha] at hq
    exact hq.move (hm (hsound.of_active ha).workable)
  | chosen ha hr hm =>
    obtain rfl := hsound.chosen ha hr hm
    rw [Descends, inFlight_activate, hsound.active ha]
    exact .singleton _
  | idle => exact hq

theorem inFlight_refresh (q : Queue σ) (now : Nat) (w : σ) :
    (q.refresh now w).value.inFlight = q.inFlight := by
  rw [inFlight, refresh_active, refresh_shelf, inFlight]

theorem inFlight_offer (q : Queue σ) (i : QueueItem σ) : (q.offer i).inFlight = q.inFlight := by
  rw [inFlight, offer_active, offer_shelf, inFlight]

namespace History

theorem perform_descends {s : History σ} (hs : s.queue.Sound) (hq : s.queue.Descends h)
    (request : Request σ) : (s.perform h request).queue.Descends h := by
  cases request with
  | submit i new =>
    rw [perform, submit_queue]
    exact hq.of_inFlight (inFlight_offer ..)
  | tick =>
    have hround := hq.of_inFlight (inFlight_refresh s.queue (h.now s.world) s.world)
    exact hround.ticked (hs.refresh ..) (tick_ticked h s.queue s.world)
  | reset => exact .of_idle rfl rfl
  | softReset =>
    rw [perform, softReset_value]
    exact .of_idle rfl rfl
  | elsewhere change => exact hq

theorem after_descends (h : StepHost σ) (interval : Nat) (w : σ) (requests : List (Request σ)) :
    (after h interval w requests).queue.Descends h :=
  after_induction (P := fun _ s => s.queue.Descends h) (.of_idle rfl rfl)
    (fun requests request hs => perform_descends (after_sound h interval w requests) hs request)
    requests

end History

/-- No two items of the queue have one identity. -/
def Unique (q : Queue σ) : Prop := (q.items.map QueueItem.id).Nodup

theorem unique_iff : q.Unique ↔ (q.inFlight.map QueueItem.id).Nodup ∧
    (q.pending.map QueueItem.id).Nodup ∧ ∀ i ∈ q.inFlight, ∀ j ∈ q.pending, i.id ≠ j.id := by
  have hitems : q.items = q.inFlight ++ q.pending := rfl
  rw [Unique, hitems, List.map_append, List.nodup_append]
  simp

/-- Of two items of one identity the one is in flight and made for a step, and the other is pending
and has been given the name that such an item gets. -/
theorem Descends.of_id_eq (hq : q.Descends h) (hs : q.Sound) (hd : q.Distinct) (hi : i ∈ q.inFlight)
    (hj : j ∈ q.pending) (hid : i.id = j.id) :
    i.parent ≠ none ∧ ∃ root, q.root? = some root ∧
      ∃ path ≠ [], j.name = h.nameAlong root.name path := by
  obtain ⟨root, hroot⟩ : ∃ root, q.inFlight.getLast? = some root :=
    ⟨_, List.getLast?_eq_some_getLast (List.ne_nil_of_mem hi)⟩
  rcases eq_or_exists_path hs.nested hq hroot hi with rfl | ⟨hparent, path, hpath, hname⟩
  · rw [Distinct, held_ids, root?_eq, hroot] at hd
    exact absurd (List.mem_map.mpr ⟨j, hj, hid.symm⟩) (List.nodup_cons.mp hd).1
  · exact ⟨hparent, root, by rw [root?_eq, hroot], path, hpath,
      (congrArg ItemId.name hid).symm.trans hname⟩

/-- Only a pending item may share the identity of another one, which is in flight. -/
theorem Descends.pairwise (hq : q.Descends h) (hs : q.Sound) (hd : q.Distinct) :
    q.items.Pairwise fun i j => i.id = j.id → i ∈ q.inFlight ∧ i.parent ≠ none ∧ j ∈ q.pending ∧
      ∃ root, q.root? = some root ∧ ∃ path ≠ [], j.name = h.nameAlong root.name path := by
  refine List.pairwise_append.mpr ⟨?_, ?_, fun i hi j hj hid => ?_⟩
  · exact (List.pairwise_map.mp (nodup_ids_of_isChain hq)).imp fun hne hid => absurd hid hne
  · exact (List.pairwise_map.mp hd.pending).imp fun hne hid => absurd hid hne
  · obtain ⟨hparent, hname⟩ := hq.of_id_eq hs hd hi hj hid
    exact ⟨hi, hparent, hj, hname⟩

/-- An identity in the queue is that of one item, or of one in flight and of a pending one. -/
theorem Descends.count_id (hq : q.Descends h) (hs : q.Sound) (hd : q.Distinct) {id : ItemId}
    (hid : q.contains id = true) :
    (q.items.map QueueItem.id).count id = 1 ∨ (q.items.map QueueItem.id).count id = 2 ∧
      ∃ i ∈ q.inFlight, i.id = id ∧ i.parent ≠ none ∧ ∃ j ∈ q.pending, j.id = id := by
  have hcount : (q.items.map QueueItem.id).count id =
      (q.inFlight.map QueueItem.id).count id + (q.pending.map QueueItem.id).count id := by
    rw [← List.count_append, ← List.map_append]
    rfl
  have hpos : 0 < (q.items.map QueueItem.id).count id := by
    obtain ⟨i, hi, heq⟩ := List.any_eq_true.mp hid
    exact List.count_pos_iff.mpr (List.mem_map.mpr ⟨i, hi, by simpa using heq⟩)
  have hflight := List.nodup_iff_count_le_one.mp (nodup_ids_of_isChain hq) id
  have hpending := List.nodup_iff_count_le_one.mp hd.pending id
  by_cases htwo : 0 < (q.inFlight.map QueueItem.id).count id ∧
      0 < (q.pending.map QueueItem.id).count id
  · obtain ⟨i, hi, rfl⟩ := List.mem_map.mp (List.count_pos_iff.mp htwo.1)
    obtain ⟨j, hj, hji⟩ := List.mem_map.mp (List.count_pos_iff.mp htwo.2)
    exact Or.inr ⟨by omega, i, hi, rfl, (hq.of_id_eq hs hd hi hj hji.symm).1, j, hj, hji⟩
  · exact Or.inl (by omega)

/-- Without an item in flight the pending ones are all. -/
theorem Distinct.unique (hd : q.Distinct) (ha : q.active = none) (hs : q.shelf = []) : q.Unique := by
  rw [Unique, items, ha, hs]
  exact hd.pending

theorem Unique.offer (hu : q.Unique) (i : QueueItem σ) : (q.offer i).Unique := by
  rw [Queue.offer]
  cases hr : q.refusal? i with
  | some refusal => exact hu
  | none =>
    have hitems : (q.enqueue i).items = q.items ++ [i] := (List.append_assoc ..).symm
    rw [Unique, hitems, List.map_append]
    refine List.Nodup.append hu (List.nodup_singleton _) ?_
    simpa using fresh_of_not_refused hr

theorem Unique.refresh (hu : q.Unique) (now : Nat) (w : σ) : (q.refresh now w).value.Unique := by
  have hrenewed := map_renewed_of_ready (refresh_spec q now w).2.1
  have hpending : (q.refresh now w).value.pending.map QueueItem.id = q.pending.map QueueItem.id := by
    simpa [Function.comp_def] using congrArg (List.map QueueItem.id) hrenewed
  rwa [Unique, items, refresh_active, refresh_shelf, List.map_append, hpending, ← List.map_append]

/-- After a move the identities still differ, unless an item is made for the steps inside a step
that has the identity of a pending one. -/
theorem Unique.move {w w' : σ} {acts : List Act} (hu : (q.activate i).Unique)
    (hq : q'.Descends h) (hm : Move h q i w acts q' w') :
    q'.Unique ∨ ∃ n ∈ i.nodes, ∃ w cs,
      q' = { q with shelf := i :: q.shelf, active := some (i.childOf (h.name n w) cs) } ∧
      ∃ j ∈ q.pending, j.id = i.id.inside (h.name n w) cs := by
  have hbelow : ({ q with active := none } : Queue σ).Unique := (List.nodup_cons.mp hu).2
  cases hm with
  | start => exact Or.inl hu
  | run => exact Or.inl hu
  | next => exact Or.inl hu
  | @enter k n cs _ hn =>
    let inner := i.childOf (h.name n (h.children n (h.isDone n w).world).world) cs
    by_cases hshared : ∃ j ∈ q.pending, j.id = inner.id
    · exact Or.inr ⟨n, List.mem_of_getElem? hn, _, cs, rfl, hshared⟩
    · -- The new item has a longer name than all below it, so only pending items are left.
      obtain ⟨-, hpending, hapart⟩ := unique_iff.mp hu
      refine Or.inl (unique_iff.mpr ⟨nodup_ids_of_isChain hq, hpending, fun x hx j hj hid => ?_⟩)
      rcases List.mem_cons.mp hx with rfl | hx
      · exact hshared ⟨j, hj, hid.symm⟩
      · exact hapart x hx j hj hid
  | resume _ _ _ _ hs =>
    rw [Unique, items, hs] at hbelow
    exact Or.inl hbelow
  | finish => exact Or.inl hbelow
  | again => exact Or.inl (hbelow.offer _)

/-- A tick works on the active item in this way; one that is chosen keeps its identity. -/
theorem Unique.ticked {w w' : σ} {acts : List Act} {status : TickStatus} (hu : q.Unique)
    (hs : q.Sound) (hq : q'.Descends h) (ht : Ticked h q w acts status q' w') :
    q'.Unique ∨ ∃ i, q.active = some i ∧ ∃ n ∈ i.nodes, ∃ w cs,
      q' = { q with shelf := i :: q.shelf, active := some (i.childOf (h.name n w) cs) } ∧
      ∃ j ∈ q.pending, j.id = i.id.inside (h.name n w) cs := by
  cases ht with
  | @active i _ _ _ ha hm =>
    have hi := (hs.of_active ha).workable
    rw [← activate_of_active ha] at hu
    exact (hu.move hq (hm hi)).imp_right fun hshelved => ⟨i, ha, hshelved⟩
  | @chosen i others _ _ _ ha hr hm =>
    obtain ⟨before, after, hsplit, rfl, -, -⟩ := takeReady_eq_some hr
    obtain rfl := hs.chosen ha hr hm
    have hperm : (i :: (before ++ after)).Perm q.pending := hsplit ▸ List.perm_middle.symm
    rw [Unique, items, ha, hs.active ha] at hu
    refine Or.inl ?_
    rw [Unique, items, shelf_activate, hs.active ha]
    exact (hperm.map QueueItem.id).nodup_iff.mpr hu
  | idle => exact Or.inl hu

/-- The active item of a queue has gone to the shelf, and the one that was made for the steps inside
a step of it has the identity of a pending item. -/
def Clashes (h : StepHost σ) (q q' : Queue σ) : Prop :=
  ∃ i, q.active = some i ∧ q'.shelf = i :: q.shelf ∧
    ∃ n ∈ i.nodes, ∃ w cs, q'.active = some (i.childOf (h.name n w) cs) ∧
      ∃ j ∈ q'.pending, j.id = i.id.inside (h.name n w) cs

theorem Clashes.not_unique (hc : Clashes h q q') : ¬ q'.Unique := by
  obtain ⟨i, -, -, n, -, w, cs, hactive, j, hj, hid⟩ := hc
  intro hu
  refine (unique_iff.mp hu).2.2 (i.childOf (h.name n w) cs) ?_ j hj hid.symm
  simp [inFlight, hactive]

theorem Unique.tick {w : σ} (hu : q.Unique) (hs : q.Sound) (hq : (q.tick h w).value.2.Descends h) :
    (q.tick h w).value.2.Unique ∨ Clashes h q (q.tick h w).value.2 := by
  rcases (hu.refresh (h.now w) w).ticked (hs.refresh (h.now w) w) hq (tick_ticked h q w) with
    hunique | ⟨i, ha, n, hn, w', cs, hshelved, j, hj, hid⟩
  · exact Or.inl hunique
  · rw [refresh_active] at ha
    rw [refresh_shelf] at hshelved
    rw [hshelved]
    exact Or.inr ⟨i, ha, rfl, n, hn, w', cs, rfl, j, hj, hid⟩

namespace History

variable {interval : Nat} {w : σ} {requests : List (Request σ)}

/-- Items that were taken in are items that were submitted. -/
theorem submitted_of_accepted (hi : i ∈ (after h interval w requests).accepted) :
    ∃ new, Request.submit i new ∈ requests := by
  induction requests using List.reverseRecOn with
  | nil => simp [after, start] at hi
  | append_singleton requests request ih =>
    have hbefore : i ∈ (after h interval w requests).accepted →
        ∃ new, Request.submit i new ∈ requests ++ [request] := fun hi =>
      (ih hi).imp fun _ hmem => List.mem_append_left _ hmem
    rw [after_append] at hi
    cases request with
    | submit j new =>
      rcases List.mem_append.mp hi with hi | hi
      · exact hbefore hi
      · split at hi
        · obtain rfl := List.mem_singleton.mp hi
          exact ⟨new, by simp⟩
        · simp at hi
    | tick => exact hbefore hi
    | reset => exact hbefore hi
    | softReset => exact hbefore hi
    | elsewhere change => exact hbefore hi

/-- An item that the host has queued has the name of one that it has submitted. -/
theorem exists_submitted (hi : i ∈ (after h interval w requests).queue.root?.toList ++
      (after h interval w requests).queue.pending) :
    ∃ j new, Request.submit j new ∈ requests ∧ j.name = i.name := by
  have hheld : i.renewed ∈ (after h interval w requests).queue.held := List.mem_map_of_mem hi
  have haccepted : i.renewed ∈ (after h interval w requests).accepted := by
    refine (after_conserves_distinct h interval w requests).2.mem_iff.mpr ?_
    simp [hheld]
  obtain ⟨new, hmem⟩ := submitted_of_accepted haccepted
  exact ⟨i.renewed, new, hmem, rfl⟩

/-- Only a tick can bring two items of one identity about. -/
theorem unique_append_iff (hu : (after h interval w requests).queue.Unique) (request : Request σ) :
    (after h interval w (requests ++ [request])).queue.Unique ↔
      ¬ (request = .tick ∧ Clashes h (after h interval w requests).queue
        (after h interval w (requests ++ [request])).queue) := by
  refine ⟨fun hunique hc => hc.2.not_unique hunique, fun hc => ?_⟩
  have hdistinct := (after_conserves_distinct h interval w (requests ++ [request])).1
  have hdescends := after_descends h interval w (requests ++ [request])
  rw [after_append] at hc hdistinct hdescends ⊢
  cases request with
  | submit i new =>
    rw [perform, submit_queue]
    exact hu.offer i
  | tick =>
    exact (hu.tick (after_sound h interval w requests) hdescends).resolve_right fun hclash =>
      hc ⟨rfl, hclash⟩
  | reset => exact hdistinct.unique rfl rfl
  | softReset =>
    rw [perform, softReset_value] at hdistinct ⊢
    exact hdistinct.unique rfl rfl
  | elsewhere change => exact hu

/-- If no name goes on from another one with the name of a step, all identities differ. -/
theorem unique_of_names (hnames : ∀ i new j new', .submit i new ∈ requests →
      .submit j new' ∈ requests → ∀ rest, j.name ≠ i.name ++ "/" ++ rest) :
    (after h interval w requests).queue.Unique := by
  have hq := after_descends h interval w requests
  have hd := (after_conserves_distinct h interval w requests).1
  refine unique_iff.mpr ⟨nodup_ids_of_isChain hq, hd.pending, fun i hi j hj hid => ?_⟩
  obtain ⟨-, root, hroot, path, hpath, hname⟩ :=
    hq.of_id_eq (after_sound h interval w requests) hd hi hj hid
  obtain ⟨rest, hrest⟩ := h.nameAlong_of_ne_nil root.name hpath
  obtain ⟨x, newx, hx, hxname⟩ :=
    exists_submitted (List.mem_append_left _ (Option.mem_toList.mpr hroot))
  obtain ⟨y, newy, hy, hyname⟩ := exists_submitted (List.mem_append_right _ hj)
  exact hnames x newx y newy hx hy rest (by rw [hyname, hname, hrest, hxname])

/-- However the host answers and whatever it asks for in whatever order: of two items of one
identity the one is in flight, made for the steps inside a step, and the other is pending and bears
the name of the lowest item in flight with the names of steps behind it. So a known identity is that
of one item, or of two such. Two such items come about only if a tick makes the one while the other
is pending, and never if no name of an item that is queued goes on from another one's in that
way. -/
theorem after_identities (h : StepHost σ) (interval : Nat) (w : σ) (requests : List (Request σ)) :
    let q := (after h interval w requests).queue
    q.items.Pairwise (fun i j => i.id = j.id → i ∈ q.inFlight ∧ i.parent ≠ none ∧ j ∈ q.pending ∧
      ∃ root, q.root? = some root ∧ ∃ path ≠ [], j.name = h.nameAlong root.name path) ∧
    (∀ id, q.contains id = true → (q.items.map QueueItem.id).count id = 1 ∨
      (q.items.map QueueItem.id).count id = 2 ∧
        ∃ i ∈ q.inFlight, i.id = id ∧ i.parent ≠ none ∧ ∃ j ∈ q.pending, j.id = id) ∧
    (q.Unique → ∀ request, (after h interval w (requests ++ [request])).queue.Unique ↔
      ¬ (request = .tick ∧ Clashes h q (after h interval w (requests ++ [request])).queue)) ∧
    ((∀ i new j new', .submit i new ∈ requests → .submit j new' ∈ requests →
      ∀ rest, j.name ≠ i.name ++ "/" ++ rest) → q.Unique) := by
  intro q
  have hs : q.Sound := after_sound h interval w requests
  have hd : q.Distinct := (after_conserves_distinct h interval w requests).1
  have hq : q.Descends h := after_descends h interval w requests
  exact ⟨hq.pairwise hs hd, fun _ hid => hq.count_id hs hd hid,
    fun hu request => unique_append_iff hu request, unique_of_names⟩

/-- A host with one step inside another one, neither of which is ever done. -/
def boxed : StepHost Unit where
  now _ := 0
  name n _ := if n = 0 then "inner" else "outer"
  isDone _ w := ⟨false, w, []⟩
  children n w := ⟨if n = 0 then [] else [0], w, []⟩
  run _ w := ⟨(), w, []⟩
  onStart _ w := ⟨(), w, []⟩
  onDone _ w := ⟨(), w, []⟩
  reset _ w := ⟨(), w, []⟩

/-- An item that was queued under the name that the item for the inner step gets. -/
theorem after_identities_boxed :
    let item : QueueItem Unit := { name := "item", nodes := [1] }
    let twin : QueueItem Unit := { name := "item/outer", nodes := [0] }
    let requests : List (Request Unit) :=
      [.submit item ⟨rfl, rfl, rfl, rfl⟩, .submit twin ⟨rfl, rfl, rfl, rfl⟩, .tick]
    let q := (after boxed 250 () requests).queue
    let q' := (after boxed 250 () (requests ++ [.tick])).queue
    q.Unique ∧ Clashes boxed q q' ∧ (q'.items.map QueueItem.id).count twin.id = 2 ∧
      (after boxed 250 () [.submit item ⟨rfl, rfl, rfl, rfl⟩, .tick, .tick]).queue.Unique := by
  intro item twin requests q q'
  obtain ⟨-, -, hloss, -⟩ := after_identities boxed 250 () requests
  obtain ⟨-, hcount, -, -⟩ := after_identities boxed 250 () (requests ++ [.tick])
  obtain ⟨-, -, -, hnames⟩ :=
    after_identities boxed 250 () [.submit item ⟨rfl, rfl, rfl, rfl⟩, .tick, .tick]
  have hunique : q.Unique := by
    unfold Unique
    decide +kernel
  have htwin : ¬ q'.Unique := by
    unfold Unique
    decide +kernel
  refine ⟨hunique, ?_, ?_, hnames fun i new j new' hi hj rest => ?_⟩
  · exact (not_not.mp (mt (hloss hunique .tick).mpr htwin)).2
  · refine ((hcount twin.id (by decide +kernel)).resolve_left ?_).1
    decide +kernel
  · simp only [List.mem_cons, Request.submit.injEq, reduceCtorEq, List.not_mem_nil, or_false] at hi hj
    obtain rfl := hi
    obtain rfl := hj
    intro hname
    have hlength := congrArg String.length hname
    have hslash : "/".length = 1 := rfl
    simp only [String.length_append] at hlength
    omega

/-- The item for the steps inside a step may have the identity of a pending item. -/
theorem not_after_identities :
    ¬ ∀ (h : StepHost Unit) (interval : Nat) (w : Unit) (requests : List (Request Unit)),
      (after h interval w requests).queue.Unique := by
  intro hunique
  have htwins := hunique boxed 250 () [.submit { name := "item", nodes := [1] } ⟨rfl, rfl, rfl, rfl⟩,
    .submit { name := "item/outer", nodes := [0] } ⟨rfl, rfl, rfl, rfl⟩, .tick, .tick]
  revert htwins
  unfold Unique
  decide +kernel

end History

end Queue

end Criteria
