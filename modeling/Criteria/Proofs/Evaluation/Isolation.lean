import Criteria.Proofs.Evaluation.Asking

/-!
# Failures stay with their clauses

A call fails if its predicate reports an error or fails itself, or if there is nobody to ask. It
makes its own clause false and does nothing else: the same clauses are asked about in the same
order, and the list has the same value, as if each failing call had answered false. This holds also
where each call changes the world for those behind it.
-/
namespace Criteria

namespace Outcome

/-- Whether there is no answer. -/
def isFailure : Outcome → Bool
  | answer _ => false
  | error _ | panic _ => true

/-- The outcome with the answer false in place of a failure. -/
def repaired : Outcome → Outcome
  | answer b => answer b
  | error _ | panic _ => answer false

@[simp] theorem isTrue_repaired (o : Outcome) : o.repaired.isTrue = o.isTrue := by cases o <;> rfl

@[simp] theorem isFailure_repaired (o : Outcome) : o.repaired.isFailure = false := by
  cases o <;> rfl

end Outcome

def Report.repaired (r : Report) : Report := { r with outcome := r.outcome.repaired }

@[simp] theorem Report.outcome_repaired (r : Report) :
    r.repaired.outcome = r.outcome.repaired := rfl

namespace Dispatch

/-- What is logged about a call: what the callee reports, and behind it a failure once, as an
error. -/
def LogsFailure (d : Dispatch) : Prop :=
  ∃ own, d.events = d.report.events ++ own ∧
    own.map Event.level = if d.report.outcome.isFailure then [.error] else []

theorem logsFailure (d : Dispatch) : d.LogsFailure := by
  refine ⟨_, rfl, ?_⟩
  cases d.report.outcome <;> rfl

end Dispatch

namespace Event

def isError (e : Event) : Bool := e.level == .error

end Event

/-- A verdict that comes out as another one does in which each failing call has answered false. -/
structure Verdict.Isolates (v v' : Verdict) : Prop where
  value : v'.value = v.value
  calls : v'.calls.map (fun d => (d.clause, d.report)) =
    v.calls.map fun d => (d.clause, d.report.repaired)
  answered : ∀ d ∈ v'.calls, d.report.outcome.isFailure = false
  logged : ∀ d ∈ v.calls, d.LogsFailure
  /-- The errors in the log are those of the callees and one for each failing call. -/
  errors : v.events.countP Event.isError =
    (v.calls.flatMap fun d => d.report.events).countP Event.isError +
      v.calls.countP fun d => d.report.outcome.isFailure

namespace Verdict

theorem countP_events (v : Verdict) :
    v.events.countP Event.isError =
      (v.calls.flatMap fun d => d.report.events).countP Event.isError +
        v.calls.countP fun d => d.report.outcome.isFailure := by
  rw [events]
  induction v.calls with
  | nil => rfl
  | cons d calls ih =>
    have hown : d.events.countP Event.isError =
        d.report.events.countP Event.isError + if d.report.outcome.isFailure then 1 else 0 := by
      rw [Dispatch.events, List.countP_append]
      cases d.report.outcome <;> rfl
    rw [List.flatMap_cons, List.flatMap_cons, List.countP_append, List.countP_append,
      List.countP_cons, ih, hown]
    omega

variable {v v' : Verdict}

/-- The value and the calls say it all: a repaired report is no failure. -/
theorem isolates (hvalue : v'.value = v.value)
    (hcalls : v'.calls.map (fun d => (d.clause, d.report)) =
      v.calls.map fun d => (d.clause, d.report.repaired)) : v.Isolates v' := by
  refine ⟨hvalue, hcalls, fun d hd => ?_, fun d _ => d.logsFailure, v.countP_events⟩
  have hmem : (d.clause, d.report) ∈ v.calls.map fun d => (d.clause, d.report.repaired) :=
    hcalls ▸ List.mem_map_of_mem hd
  obtain ⟨d', -, hpair⟩ := List.mem_map.mp hmem
  rw [← (Prod.mk.inj hpair).2, Report.outcome_repaired, Outcome.isFailure_repaired]

/-- The same clauses are asked about, in the same order. -/
theorem Isolates.clauses (h : v.Isolates v') :
    v'.calls.map Dispatch.clause = v.calls.map Dispatch.clause := by
  simpa [Function.comp_def] using congrArg (List.map Prod.fst) h.calls

end Verdict

namespace Evaluation

section Worlds

variable {ω : Type} (ask : ω → Clause → Dispatch) (leave : ω → Clause → ω)

mutual

/-- Evaluates what is left of a list as `foldFrom` does, where each call finds the world as the
call before it has left it. -/
def foldThrough (world : ω) (running first : Bool) : List Expr → Verdict × ω
  | [] => (⟨running, []⟩, world)
  | e :: rest =>
    if e.clause.join == .or && (running || first) then (⟨true, []⟩, world)
    else if e.clause.join != .or && !running && !first then foldThrough world running false rest
    else
      let (this, world) := evaluateThrough world e
      let (next, world) := foldThrough world (this.value != (e.clause.join == .not)) false rest
      (⟨next.value, this.calls ++ next.calls⟩, world)

/-- Evaluates one expression as `evaluateExpr` does. -/
def evaluateThrough (world : ω) : Expr → Verdict × ω
  | .node c es =>
    if c.isGroup then
      let (inner, world) := foldThrough world false true es
      (⟨inner.value != c.negated, inner.calls⟩, world)
    else
      let d := ask world c
      (⟨d.isTrue != c.negated, [d]⟩, leave world c)

end

/-- Calls that leave the world as it is are those of the evaluation in one world. -/
theorem foldThrough_still (world : ω) (running first : Bool) (es : List Expr) :
    foldThrough ask (fun w _ => w) world running first es =
      (foldFrom (ask world) running first es, world) := by
  induction es using Expr.list_induction generalizing running first with
  | nil => rw [foldThrough, foldFrom]
  | node c inner rest hinner hrest =>
    have hown : evaluateThrough ask (fun w _ => w) world (.node c inner) =
        (evaluateExpr (ask world) (.node c inner), world) := by
      rw [evaluateThrough, evaluateExpr]
      split
      · rw [hinner false true]
      · rfl
    rw [foldThrough, foldFrom]
    split
    · rfl
    · split
      · exact hrest running false
      · rw [hown]
        simp only
        rw [hrest _ false]

/-- A run that comes out as another one, and leaves the same world, although calls of that one
fail. -/
structure Matches (run run' : Verdict × ω) : Prop where
  value : run'.1.value = run.1.value
  calls : run'.1.calls.map (fun d => (d.clause, d.report)) =
    run.1.calls.map fun d => (d.clause, d.report.repaired)
  world : run'.2 = run.2

variable {ask} {ask' : ω → Clause → Dispatch}

/-- The answer to a clause, with false in place of a failure. -/
def Repairs (ask ask' : ω → Clause → Dispatch) (c : Clause) : Prop :=
  ∀ world, (ask' world c).clause = (ask world c).clause ∧
    (ask' world c).report = (ask world c).report.repaired

/-- Repaired answers change nothing about an expression if they change nothing inside it. -/
theorem evaluateThrough_matches {c : Clause} {inner : List Expr}
    (h : ∀ d ∈ (Expr.node c inner).leaves, Repairs ask ask' d)
    (hinner : (∀ d ∈ Expr.listLeaves inner, Repairs ask ask' d) → ∀ world,
      Matches (foldThrough ask leave world false true inner)
        (foldThrough ask' leave world false true inner)) (world : ω) :
    Matches (evaluateThrough ask leave world (.node c inner))
      (evaluateThrough ask' leave world (.node c inner)) := by
  rw [Expr.leaves] at h
  rw [evaluateThrough, evaluateThrough]
  split
  · next hc =>
    rw [if_pos hc] at h
    obtain ⟨hvalue, hcalls, hworld⟩ := hinner h world
    simp only
    exact ⟨by rw [hvalue], hcalls, hworld⟩
  · next hc =>
    rw [if_neg hc] at h
    obtain ⟨hclause, hreport⟩ := h c (List.mem_singleton_self c) world
    refine ⟨?_, ?_, rfl⟩
    · simp [Dispatch.isTrue, hreport]
    · simp [hclause, hreport]

/-- Repaired answers change nothing: not the value so far, on which it depends which siblings are
evaluated next, and so not the world that these find. -/
theorem foldThrough_matches (es : List Expr) (h : ∀ c ∈ Expr.listLeaves es, Repairs ask ask' c)
    (world : ω) (running first : Bool) :
    Matches (foldThrough ask leave world running first es)
      (foldThrough ask' leave world running first es) := by
  induction es using Expr.list_induction generalizing world running first with
  | nil => exact ⟨by simp [foldThrough], by simp [foldThrough], by simp [foldThrough]⟩
  | node c inner rest hinner hrest =>
    rw [Expr.listLeaves, List.forall_mem_append] at h
    obtain ⟨hleaves, hlater⟩ := h
    rw [foldThrough, foldThrough]
    split
    · exact ⟨rfl, rfl, rfl⟩
    · split
      · exact hrest hlater world running false
      · obtain ⟨hvalue, hcalls, hworld⟩ :=
          evaluateThrough_matches leave hleaves (fun h world => hinner h world false true) world
        simp only [Expr.clause_node]
        rw [hvalue, hworld]
        have hnext := hrest hlater (evaluateThrough ask leave world (.node c inner)).2
          ((evaluateThrough ask leave world (.node c inner)).1.value != (c.join == .not)) false
        refine ⟨hnext.value, ?_, hnext.world⟩
        rw [List.map_append, List.map_append, hcalls, hnext.calls]

theorem Matches.isolates {run run' : Verdict × ω} (h : Matches run run') :
    run.1.Isolates run'.1 := Verdict.isolates h.value h.calls

end Worlds

end Evaluation

def Entry.repaired {ω : Type} (e : Entry ω) : Entry ω :=
  { e with predicate := fun world c => (e.predicate world c).repaired }

def Bridge.repaired {ω : Type} (b : Bridge ω) : Bridge ω :=
  { b with evaluate := fun name world c => (b.evaluate name world c).repaired }

namespace Registry

variable {ω : Type}

/-- The predicate under a name that no entry had. A clause of the same name that belongs to the
bridge is still left to it, and any other one is false. -/
def stopgap (r : Registry ω) : Predicate ω := fun world c =>
  match r.bridgeFor? c with
  | some b => (b.evaluate c.method world c).repaired
  | none => .answer false

/-- The clauses of a list with nobody to ask. -/
def unanswered (r : Registry ω) (es : List Expr) : List Clause :=
  (Expr.listLeaves es).filter fun c => (r.entry? c.method).isNone && (r.bridgeFor? c).isNone

/-- Entries for the clauses of the list that had nobody to ask. -/
def stopgaps (r : Registry ω) (es : List Expr) : List (Entry ω) :=
  (r.unanswered es).map fun c => ⟨c.method, .flag, .host, r.stopgap⟩

/-- The registry in which each call fails no more, but answers false, also one about a clause of the
list that finds nobody. All else is as it was. -/
def repaired (r : Registry ω) (es : List Expr) : Registry ω where
  entries := r.entries.map Entry.repaired ++ r.stopgaps es
  bridge? := r.bridge?.map Bridge.repaired

theorem entry?_repaired (r : Registry ω) (es : List Expr) (name : String) :
    Registry.entry? (r.repaired es) name = ((r.entry? name).map Entry.repaired).or
      ((r.stopgaps es).find? fun e => e.key == Text.lowercase name) := by
  rw [repaired, entry?, List.find?_append, List.find?_map]
  rfl

theorem bridgeFor?_repaired (r : Registry ω) (es : List Expr) (c : Clause) :
    (r.repaired es).bridgeFor? c = (r.bridgeFor? c).map Bridge.repaired := by
  rw [bridgeFor?, bridgeFor?, repaired]
  split
  · cases r.bridge? with
    | none => rfl
    | some b =>
      cases hb : b.contains c.method <;> simp [Option.filter, Bridge.repaired, hb]
  · rfl

/-- A name that no entry had is found if a clause with it had nobody to ask. -/
theorem find?_stopgap_isSome (r : Registry ω) {es : List Expr} {c : Clause}
    (hc : c ∈ r.unanswered es) :
    ((r.stopgaps es).find? fun e => e.key == Text.lowercase c.method).isSome := by
  rw [List.find?_isSome]
  exact ⟨_, List.mem_map_of_mem hc, beq_self_eq_true _⟩

/-- The repaired registry answers as the registry does, and false where the call fails. -/
theorem dispatch_repaired (r : Registry ω) {es : List Expr} {c : Clause}
    (hc : c ∈ Expr.listLeaves es) (world : ω) :
    ((r.repaired es).dispatch world c).report = (r.dispatch world c).report.repaired := by
  rw [dispatch, dispatch, entry?_repaired, bridgeFor?_repaired]
  cases he : r.entry? c.method with
  | some e => rfl
  | none =>
    rw [Option.map_none, Option.none_or]
    cases hs : (r.stopgaps es).find? fun e => e.key == Text.lowercase c.method with
    | some e =>
      obtain ⟨c', -, rfl⟩ := List.mem_map.mp (List.mem_of_find?_eq_some hs)
      simp only [stopgap]
      cases r.bridgeFor? c <;> rfl
    | none =>
      cases hb : r.bridgeFor? c with
      | some b => rfl
      | none =>
        have hmem : c ∈ r.unanswered es := List.mem_filter.mpr ⟨hc, by simp [he, hb]⟩
        simpa [hs] using r.find?_stopgap_isSome hmem

/-- Evaluation with each failing call answered by false: the value is the same, and the same clauses
are asked about in the same order. It makes no difference how each call leaves the world behind. -/
theorem evaluate_repaired (r : Registry ω) (es : List Expr) (world : ω) :
    (∀ w, ∀ c ∈ Expr.listLeaves es,
      ((r.repaired es).dispatch w c).report = (r.dispatch w c).report.repaired) ∧
    (r.evaluate world es).Isolates ((r.repaired es).evaluate world es) ∧
    ∀ leave : ω → Clause → ω,
      let run := Evaluation.foldThrough r.dispatch leave world false true es
      let run' := Evaluation.foldThrough (r.repaired es).dispatch leave world false true es
      run.1.Isolates run'.1 ∧ run'.2 = run.2 := by
  have hrepairs : ∀ c ∈ Expr.listLeaves es,
      Evaluation.Repairs r.dispatch (r.repaired es).dispatch c := by
    intro c hc w
    exact ⟨by rw [dispatch_clause, dispatch_clause], r.dispatch_repaired hc w⟩
  have hmatches := fun leave => Evaluation.foldThrough_matches leave es hrepairs world false true
  refine ⟨fun w c hc => r.dispatch_repaired hc w, ?_, fun leave => ?_⟩
  · have hstill := (hmatches fun w _ => w).isolates
    rwa [Evaluation.foldThrough_still, Evaluation.foldThrough_still] at hstill
  · exact ⟨(hmatches leave).isolates, (hmatches leave).world⟩

/-- An error, a name that nobody has and a panic, and between them a flag that is true only if it is
asked about after two other calls. -/
theorem evaluate_repaired_failing :
    let r : Registry Nat := [⟨"Broken", .flag, .host, fun _ c => .failed c "no answer"⟩,
      ⟨"Late", .flag, .host, fun n _ => .answer (decide (2 ≤ n))⟩,
      ⟨"Wild", .flag, .host, fun _ _ => { outcome := .panic "out of reach" }⟩].foldl
        register initial
    let flag (name : String) (negated : Bool) : Expr :=
      .leaf { keyword := name, kind := .call .flag, method := name, negated }
    let es := [flag "Broken" true, flag "Gone" true, flag "Late" false, flag "Wild" true]
    let run := Evaluation.foldThrough r.dispatch (fun n _ => n + 1) 0 false true es
    let run' := Evaluation.foldThrough (r.repaired es).dispatch (fun n _ => n + 1) 0 false true es
    run'.1.value = true ∧ run'.2 = 4 ∧
      run'.1.calls.map (fun d => d.clause.keyword) = ["Broken", "Gone", "Late", "Wild"] ∧
      run.1.events.countP Event.isError = 3 ∧
      ((r.repaired es).dispatch 0 (flag "Gone" true).clause).report.outcome = .answer false := by
  intro r flag es run run'
  obtain ⟨hreports, -, hworlds⟩ := evaluate_repaired r es 0
  obtain ⟨hisolates, hworld⟩ := hworlds fun n _ => n + 1
  have hvalue : run.1.value = true := by decide +kernel
  have hend : run.2 = 4 := by decide +kernel
  have hkeywords : (run.1.calls.map Dispatch.clause).map Clause.keyword =
      ["Broken", "Gone", "Late", "Wild"] := by decide +kernel
  have hfailures : run.1.calls.countP (fun d => d.report.outcome.isFailure) = 3 := by
    decide +kernel
  have hsilent : run.1.calls.flatMap (fun d => d.report.events) = [] := by decide +kernel
  have hgone : (r.dispatch 0 (flag "Gone" true).clause).report.repaired.outcome =
      .answer false := by decide +kernel
  refine ⟨hisolates.value.trans hvalue, hworld.trans hend, ?_, ?_, ?_⟩
  · rw [← hkeywords, ← hisolates.clauses, List.map_map]
    rfl
  · rw [hisolates.errors, hsilent, hfailures]
    rfl
  · rw [hreports 0 _ (by simp [es, flag, Expr.listLeaves, Expr.leaves, Expr.leaf, Clause.isGroup]),
      hgone]

end Registry

end Criteria
