import Criteria.Proofs.Evaluation.Callees
import Criteria.Proofs.Text.Casing

/-!
# Clauses that are left to the bridge

A name with a point that no scope claims is left to the bridge if the bridge knows it. The clause
keeps the name, and when it is asked about, the name is looked up among the predicates once more. So
the bridge is asked exactly if no predicate is registered under the whole name, which is always so
if the names of predicates have no points.
-/
namespace Criteria

namespace Registry

variable {ω : Type} {r : Registry ω}

/-- The bridge was asked about a clause, by the name that was written. -/
def AskedBridge (r : Registry ω) (world : ω) (d : Dispatch) : Prop :=
  ∃ b, r.bridge? = some b ∧
    d = ⟨d.clause, .bridge d.clause.keyword, b.evaluate d.clause.keyword world d.clause⟩

theorem classify_of_isBridged {name : String} (h : r.IsBridged name) :
    r.classify name = some (.scope, name) := by
  obtain ⟨hpoint, hscope, b, hb, hcontains⟩ := h
  have hany : r.bridge?.any (·.contains name) = true := by simp [hb, hcontains]
  rw [classify, if_pos hpoint, classifyDotted, hscope, hany]
  rfl

/-- The literals have no points in them. -/
theorem not_isBridged_literal {name : String}
    (h : Text.eqIgnoringAsciiCase name "true" = true ∨
      Text.eqIgnoringAsciiCase name "false" = true) : ¬ r.IsBridged name := by
  rintro ⟨hpoint, -, -⟩
  rw [Text.not_contains_point_truth h] at hpoint
  contradiction

/-- A clause whose name is left to the bridge is one of a scope and keeps the name. -/
theorem scope_of_isBridged {n : Expr} (hn : n.WellFormed r.vocabulary)
    (hgroup : n.clause.kind ≠ .group) (hbridged : r.IsBridged n.clause.keyword) :
    n.clause.kind = .call .scope ∧ n.clause.method = n.clause.keyword := by
  cases hkind : n.clause.kind with
  | unknown => exact absurd hkind hn.kind
  | group => exact absurd hkind hgroup
  | literal => exact absurd hbridged (not_isBridged_literal (hn.literal hkind).1)
  | call kind =>
    have hname : r.classify n.clause.keyword = some (kind, n.clause.method) := hn.name kind hkind
    rw [classify_of_isBridged hbridged, Option.some.injEq, Prod.mk.injEq] at hname
    exact ⟨congrArg ClauseKind.call hname.1.symm, hname.2.symm⟩

section Dispatch

variable {c : Clause} (hkind : c.kind = .call .scope) (hmethod : c.method = c.keyword)
  (hbridged : r.IsBridged c.keyword) (world : ω)

/-- A predicate that has been registered under the whole name comes before the bridge. -/
theorem dispatch_of_found {e : Entry ω} (he : r.entry? c.method = some e) :
    r.dispatch world c = ⟨c, .entry e.source e.name, e.predicate world c⟩ := by
  rw [dispatch, he]

include hkind hmethod hbridged

/-- If nobody has registered the name, the bridge is asked. -/
theorem askedBridge_of_unknown (hknown : r.isKnown c.keyword = false) :
    r.AskedBridge world (r.dispatch world c) := by
  obtain ⟨-, -, b, hb, hcontains⟩ := hbridged
  have hentry : r.entry? c.keyword = none := by simpa [isKnown] using hknown
  have hfor : r.bridgeFor? c = some b := by
    simp [bridgeFor?, hkind, hb, hmethod, Option.filter, hcontains]
  refine ⟨b, hb, ?_⟩
  rw [dispatch, hmethod, hentry, hfor]

/-- The bridge is asked if and only if nobody has registered the name. -/
theorem askedBridge_iff :
    r.AskedBridge world (r.dispatch world c) ↔ r.isKnown c.keyword = false := by
  refine ⟨?_, askedBridge_of_unknown hkind hmethod hbridged world⟩
  rintro ⟨b, -, hasked⟩
  cases he : r.entry? c.keyword with
  | none => simp [isKnown, he]
  | some e => simp [dispatch_of_found world (hmethod ▸ he)] at hasked

end Dispatch

/-- If no name of a predicate has a point, no name with a point is that of a predicate. -/
theorem isKnown_of_point {name : String} (hname : name.toList.contains '.' = true)
    (hr : ∀ e ∈ r.entries, e.name.toList.contains '.' = false) : r.isKnown name = false := by
  by_contra hknown
  obtain ⟨e, he, hkey⟩ := List.mem_map.mp (isKnown_iff.mp (by simpa using hknown))
  have hpoint := Text.contains_point_of_lowercase_eq hkey
  rw [hr e he, hname] at hpoint
  contradiction

/-- Of any tokens, a clause whose name no scope claims, but the bridge, is one of a scope and keeps
its name. When it is asked about, the bridge answers if and only if no predicate has been registered
under the whole name, in any case of its letters and of whatever kind; otherwise that predicate
answers. So the bridge always answers if no name of a predicate has a point. -/
theorem parse_bridged (r : Registry ω) (world : ω) (ts : List String) :
    let es := parseTokens r.vocabulary ts
    (∀ n ∈ Expr.listNodes es, n.clause.kind ≠ .group → r.IsBridged n.clause.keyword →
      n.clause.kind = .call .scope ∧ n.clause.method = n.clause.keyword) ∧
    ∀ d ∈ (r.evaluate world es).calls, r.IsBridged d.clause.keyword →
      (r.AskedBridge world d ↔ r.isKnown d.clause.keyword = false) ∧
      (∀ e, r.entry? d.clause.keyword = some e →
        d = ⟨d.clause, .entry e.source e.name, e.predicate world d.clause⟩) ∧
      ((∀ e ∈ r.entries, e.name.toList.contains '.' = false) → r.AskedBridge world d) := by
  intro es
  have hscope : ∀ n ∈ Expr.listNodes es, n.clause.kind ≠ .group → r.IsBridged n.clause.keyword →
      n.clause.kind = .call .scope ∧ n.clause.method = n.clause.keyword :=
    fun n hn hgroup hbridged => scope_of_isBridged (Expr.wellFormed_of_mem hn) hgroup hbridged
  refine ⟨hscope, fun d hd hbridged => ?_⟩
  obtain ⟨n, hn, hgroup, rfl⟩ := r.exists_node_of_mem_calls world hd
  rw [dispatch_clause] at hbridged ⊢
  obtain ⟨hkind, hmethod⟩ := hscope n hn hgroup hbridged
  have hiff := askedBridge_iff hkind hmethod hbridged world
  exact ⟨hiff, fun e he => dispatch_of_found world (hmethod ▸ he),
    fun hr => hiff.mpr (isKnown_of_point hbridged.1 hr)⟩

/-- A member of the bridge with the name of a flag behind its point, and one with the name of a
quantity. -/
theorem parse_bridged_member :
    let members : Bridge Unit :=
      ⟨fun name => name == "Client.IsDead" || name == "client.gold", fun _ _ _ => .answer true⟩
    let flag : Entry Unit := ⟨"IsDead", .flag, .host, fun _ _ => .answer false⟩
    let quantity : Entry Unit := ⟨"Client.Gold", .quantity, .host, fun _ _ => .answer true⟩
    let r : Registry Unit := ⟨initial.entries ++ [flag, quantity], some members⟩
    let dead := r.dispatch ()
      { keyword := "Client.IsDead", kind := .call .scope, method := "Client.IsDead",
        operator := some .equal, value := "0" }
    let gold := r.dispatch ()
      { keyword := "client.gold", kind := .call .scope, method := "client.gold" }
    (r.evaluate () (parseTokens r.vocabulary
        ["Client.IsDead", "==", "0", "and", "client.gold"])).calls = [dead, gold] ∧
      r.AskedBridge () dead ∧ gold.callee = .entry .host "Client.Gold" := by
  intro members flag quantity r dead gold
  have hcalls : (r.evaluate () (parseTokens r.vocabulary
      ["Client.IsDead", "==", "0", "and", "client.gold"])).calls = [dead, gold] := by
    decide +kernel
  obtain ⟨-, hasked⟩ := parse_bridged r () ["Client.IsDead", "==", "0", "and", "client.gold"]
  rw [hcalls] at hasked
  have hdead := hasked dead (by simp)
  have hgold := hasked gold (by simp)
  rw [dispatch_clause] at hdead hgold
  have hquantity : r.entry? "client.gold" = some quantity := by
    unfold entry?
    rw [List.find?_append, List.find?_cons_of_neg (by decide +kernel),
      List.find?_cons_of_pos (by decide +kernel)]
    rfl
  refine ⟨hcalls, (hdead ⟨by decide, by decide +kernel, members, rfl, by decide +kernel⟩).1.mpr
    (by decide +kernel), ?_⟩
  rw [(hgold ⟨by decide, by decide +kernel, members, rfl, by decide +kernel⟩).2.1 _ hquantity]

/-- A flag of the whole name answers in the place of the bridge. -/
theorem not_parse_bridged :
    ¬ ∀ (changes : List (Change Unit)) (world : Unit) (ts : List String),
      let r := built changes
      ∀ d ∈ (r.evaluate world (parseTokens r.vocabulary ts)).calls, d.clause.kind = .call .scope →
        d.clause.method = d.clause.keyword → r.IsBridged d.clause.keyword → r.AskedBridge world d := by
  intro h
  let changes : List (Change Unit) :=
    [.register ⟨"Client.Gold", .flag, .host, fun _ _ => .answer false⟩,
      .connect ⟨fun name => name == "Client.Gold", fun _ _ _ => .answer true⟩]
  let gold : Clause := { keyword := "Client.Gold", kind := .call .scope, method := "Client.Gold" }
  have hcalls : ((built changes).evaluate () (parseTokens (built changes).vocabulary
      ["Client.Gold"])).calls = [(built changes).dispatch () gold] := by
    decide +kernel
  have hbridged : (built changes).IsBridged "Client.Gold" :=
    ⟨by decide, by decide +kernel, _, rfl, by decide +kernel⟩
  have hasked := h changes () ["Client.Gold"] ((built changes).dispatch () gold)
    (by rw [hcalls]; exact List.mem_singleton_self _)
  rw [dispatch_clause] at hasked
  obtain ⟨b, -, hbridge⟩ := hasked rfl rfl hbridged
  have hcallee : ((built changes).dispatch () gold).callee = .entry .host "Client.Gold" := by
    decide +kernel
  rw [hbridge] at hcallee
  cases hcallee

end Registry

end Criteria
