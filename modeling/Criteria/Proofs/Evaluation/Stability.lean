import Criteria.Condition
import Criteria.Proofs.Evaluation.Isolation
import Criteria.Proofs.Evaluation.Callees
import Criteria.Proofs.Registry.Naming

/-!
# Conditions that were read earlier

A condition keeps the names of the predicates that it was read with, and each of them is looked up
when it is asked. Registering under other names changes nothing about that: the condition asks the
same predicates in the same order with the same result, also where its text would now be read in
another way.
-/
namespace Criteria

namespace Evaluation

section Worlds

variable {ω : Type} {ask ask' : ω → Clause → Dispatch} (leave : ω → Clause → ω)

/-- An evaluation depends on the answers to the clauses of its list only. -/
theorem foldThrough_congr (es : List Expr)
    (h : ∀ c ∈ Expr.listLeaves es, ∀ world, ask' world c = ask world c)
    (world : ω) (running first : Bool) :
    foldThrough ask' leave world running first es =
      foldThrough ask leave world running first es := by
  induction es using Expr.list_induction generalizing world running first with
  | nil => rw [foldThrough, foldThrough]
  | node c inner rest hinner hrest =>
    rw [Expr.listLeaves, List.forall_mem_append] at h
    obtain ⟨hleaves, hlater⟩ := h
    have hown : evaluateThrough ask' leave world (.node c inner) =
        evaluateThrough ask leave world (.node c inner) := by
      rw [Expr.leaves] at hleaves
      rw [evaluateThrough, evaluateThrough]
      split
      · next hc =>
        rw [if_pos hc] at hleaves
        rw [hinner hleaves world false true]
      · next hc =>
        rw [if_neg hc] at hleaves
        rw [hleaves c (List.mem_singleton_self c) world]
    rw [foldThrough, foldThrough, hown]
    simp only [hrest hlater]

end Worlds

end Evaluation

namespace Registry

variable {ω : Type} {r : Registry ω}

/-- Changes that register nothing under a name leave its entry as it is. -/
theorem entry?_foldl_apply {name : String} (later : List (Change ω))
    (h : ∀ e, Change.register e ∈ later → e.key ≠ Text.lowercase name) (r : Registry ω) :
    entry? (later.foldl apply r) name = r.entry? name := by
  induction later generalizing r with
  | nil => rfl
  | cons change later ih =>
    rw [List.foldl_cons, ih fun e he => h e (List.mem_cons_of_mem _ he)]
    cases change with
    | register e => exact entry?_register_of_ne r (h e List.mem_cons_self)
    | connect b => rfl

/-- A clause that is not left to the bridge calls an entry. -/
theorem Calls.exists_entry? (hr : r.Sound) {c : Clause} (hc : r.Calls c)
    (hbridged : ¬ r.IsBridged c.keyword) : ∃ e, r.entry? c.method = some e := by
  cases hc with
  | literal _ hmethod => exact hmethod ▸ Option.isSome_iff_exists.mp hr.literals
  | bridged _ _ h => exact absurd h hbridged
  | entry _ hkind =>
    obtain ⟨e, he, -⟩ := Option.map_eq_some_iff.mp hkind
    exact ⟨e, he⟩

/-- Each leaf of what was read calls an entry, if it is not left to the bridge. -/
theorem Sound.exists_entry? (hr : r.Sound) {ts : List String} {c : Clause}
    (hc : c ∈ Expr.listLeaves (parseTokens r.vocabulary ts)) (hbridged : ¬ r.IsBridged c.keyword) :
    ∃ e, r.entry? c.method = some e := by
  obtain ⟨n, hn, rfl, hgroup⟩ := Expr.exists_node_of_mem_listLeaves _ hc
  have hcalls := calls_of_wellFormed hr (Expr.wellFormed_of_mem hn) hgroup
  exact hcalls.exists_entry? hr hbridged

/-- However a registry came about, a condition that was compiled on it and leaves nothing to the
bridge is evaluated as before when predicates have been registered under other names than those that
it calls, and the bridge been set: with the same value, by the same calls in the same order. This
holds also where each call changes the world for those behind it. -/
theorem compile_stable [Number.Decimals] (changes later : List (Change ω)) (s : String)
    (hbridged : ∀ c ∈ Expr.listLeaves ((built changes).compile s).expressions,
      ¬ (built changes).IsBridged c.keyword)
    (hnames : ∀ e, Change.register e ∈ later →
      ∀ c ∈ Expr.listLeaves ((built changes).compile s).expressions,
        Text.lowercase e.name ≠ Text.lowercase c.method) :
    let r := built changes
    let r' := built (changes ++ later)
    let condition := r.compile s
    (∀ c ∈ Expr.listLeaves condition.expressions,
      ∃ e ∈ r.entries, r.entry? c.method = some e ∧ r'.entry? c.method = some e) ∧
    (∀ world, condition.evaluate r' world = condition.evaluate r world) ∧
    ∀ (leave : ω → Clause → ω) (world : ω),
      Evaluation.foldThrough r'.dispatch leave world false true condition.expressions =
        Evaluation.foldThrough r.dispatch leave world false true condition.expressions := by
  intro r r' condition
  have hr : r.Sound := sound_built changes
  have hbuilt : r' = later.foldl apply r := List.foldl_append ..
  have hentry : ∀ c ∈ Expr.listLeaves condition.expressions,
      ∃ e ∈ r.entries, r.entry? c.method = some e ∧ r'.entry? c.method = some e := by
    intro c hc
    obtain ⟨e, he⟩ := hr.exists_entry? hc (hbridged c hc)
    refine ⟨e, List.mem_of_find?_eq_some he, he, ?_⟩
    rw [hbuilt, entry?_foldl_apply later fun e he => hnames e he c hc, he]
  have hask : ∀ c ∈ Expr.listLeaves condition.expressions, ∀ world,
      r'.dispatch world c = r.dispatch world c := by
    intro c hc world
    obtain ⟨e, -, he, he'⟩ := hentry c hc
    rw [dispatch, dispatch, he, he']
  have hthrough := fun leave => Evaluation.foldThrough_congr leave condition.expressions hask
  refine ⟨hentry, fun world => ?_, fun leave world => hthrough leave world false true⟩
  have hstill := hthrough (fun w _ => w) world false true
  rw [Evaluation.foldThrough_still, Evaluation.foldThrough_still] at hstill
  exact (Prod.mk.inj hstill).1

/-- A flag that is found within a longer name, and then a flag of just that name. The condition
still asks the first one, while its text would now ask the second. -/
theorem compile_stable_renamed :
    let dead : Change Unit := .register ⟨"Dead", .flag, .host, fun _ _ => .answer true⟩
    let isDead : Change Unit := .register ⟨"IsDead", .flag, .host, fun _ _ => .answer false⟩
    let r := built [dead]
    let r' := built ([dead] ++ [isDead])
    let condition := r.compile "IsDead and (not false)"
    ((condition.evaluate r' ()).value = true ∧
      (condition.evaluate r' ()).calls.map Dispatch.callee =
        [.entry .host "Dead", .entry .builtin "GetBoolean"]) ∧
    ((r'.compile "IsDead and (not false)").evaluate r' ()).value = false := by
  intro dead isDead r r' condition
  have hmethods : (Expr.listLeaves condition.expressions).map Clause.method =
      ["Dead", "GetBoolean"] := by decide +kernel
  have hbridged : ∀ c ∈ Expr.listLeaves condition.expressions, ¬ r.IsBridged c.keyword := by
    rintro c - ⟨-, -, b, hb, -⟩
    cases hb
  have hnames : ∀ e, Change.register e ∈ [isDead] →
      ∀ c ∈ Expr.listLeaves condition.expressions, Text.lowercase e.name ≠ Text.lowercase c.method := by
    intro e he c hc
    have hmethod : c.method ∈ ["Dead", "GetBoolean"] := hmethods ▸ List.mem_map_of_mem hc
    have hname : ∀ m ∈ ["Dead", "GetBoolean"], Text.lowercase "IsDead" ≠ Text.lowercase m := by
      decide +kernel
    rw [Change.register.inj (List.mem_singleton.mp he)]
    exact hname c.method hmethod
  obtain ⟨-, hstable, -⟩ := compile_stable [dead] [isDead] "IsDead and (not false)" hbridged hnames
  have hsame : condition.evaluate r' () = condition.evaluate r () := hstable ()
  rw [hsame]
  constructor
  · decide +kernel
  · decide +kernel

end Registry

end Criteria
