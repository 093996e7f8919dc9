import Criteria.Proofs.Evaluation.Asking
import Criteria.Proofs.Reading.WellFormed

/-!
# Who is asked about a clause

A clause is read by the names of a registry and asked about by the name that it was given. However
the registry was put together, each entry is found under its own name, so for every clause that was
read there is somebody to ask: the entry whose kind gave the clause its shape, or else the bridge.
-/
namespace Criteria

namespace Registry

variable {ω : Type}

/-- What a host does to a registry: it registers a predicate, or sets the bridge. -/
inductive Change (ω : Type) where
  | register (e : Entry ω)
  | connect (b : Bridge ω)

def apply (r : Registry ω) : Change ω → Registry ω
  | .register e => r.register e
  | .connect b => { r with bridge? := some b }

/-- The registry that changes lead to, one after another. -/
def built [Number.Decimals] (changes : List (Change ω)) : Registry ω := changes.foldl apply initial

/-- Names are told apart by their keys, and the literals have their predicate. -/
structure Sound (r : Registry ω) : Prop where
  keys : (r.entries.map Entry.key).Nodup
  literals : r.isKnown Piece.literalMethod = true

theorem isKnown_iff {r : Registry ω} {name : String} :
    r.isKnown name = true ↔ Text.lowercase name ∈ r.entries.map Entry.key := by
  simp [isKnown, entry?, List.find?_isSome]

/-- An entry that takes the place of another one has its key. -/
theorem keys_register (r : Registry ω) (e : Entry ω) :
    (r.register e).entries.map Entry.key =
      if r.isKnown e.name then r.entries.map Entry.key else r.entries.map Entry.key ++ [e.key] := by
  rw [register]
  split
  · rw [List.map_map]
    refine List.map_congr_left fun old _ => ?_
    by_cases hkey : old.key = e.key <;> simp [hkey]
  · rw [List.map_append, List.map_singleton]

theorem Sound.register {r : Registry ω} (hr : r.Sound) (e : Entry ω) : (r.register e).Sound := by
  have hliterals := isKnown_iff.mp hr.literals
  cases hknown : r.isKnown e.name with
  | true =>
    constructor
    · rw [keys_register, hknown, if_pos rfl]
      exact hr.keys
    · rw [isKnown_iff, keys_register, hknown, if_pos rfl]
      exact hliterals
  | false =>
    have hnew : e.key ∉ r.entries.map Entry.key := fun hmem => by
      simp [isKnown_iff.mpr hmem] at hknown
    constructor
    · rw [keys_register, hknown, if_neg (by simp)]
      exact hr.keys.append (List.nodup_singleton _) (by simpa using hnew)
    · rw [isKnown_iff, keys_register, hknown, if_neg (by simp)]
      exact List.mem_append_left _ hliterals

theorem sound_built [Number.Decimals] (changes : List (Change ω)) : (built changes).Sound := by
  have hfold : ∀ r : Registry ω, r.Sound → (changes.foldl apply r).Sound := by
    induction changes with
    | nil => exact fun r hr => hr
    | cons change changes ih =>
      intro r hr
      refine ih _ ?_
      cases change with
      | register e => exact hr.register e
      | connect b => exact ⟨hr.keys, hr.literals⟩
  refine hfold _ ⟨List.nodup_singleton _, ?_⟩
  simp [isKnown_iff, initial, Entry.key]

/-- An entry is found under its own name. -/
theorem Sound.entry?_name {r : Registry ω} (hr : r.Sound) {e : Entry ω} (he : e ∈ r.entries) :
    r.entry? e.name = some e := by
  have hkeys := hr.keys
  unfold entry?
  generalize r.entries = es at he hkeys
  induction es with
  | nil => simp at he
  | cons x es ih =>
    obtain ⟨hx, hes⟩ := List.nodup_cons.mp hkeys
    rcases List.mem_cons.mp he with rfl | he
    · exact List.find?_cons_of_pos (beq_self_eq_true _)
    · have hne : x.key ≠ e.key := fun hkey => hx (hkey ▸ List.mem_map_of_mem he)
      rw [List.find?_cons_of_neg (by simpa [Entry.key] using hne)]
      exact ih he hes

theorem Sound.kindOf?_name {r : Registry ω} (hr : r.Sound) {e : Entry ω} (he : e ∈ r.entries) :
    r.kindOf? e.name = some e.kind := by
  rw [kindOf?, hr.entry?_name he, Option.map_some]

theorem named?_eq_some {r : Registry ω} {kind : PredicateKind} {token : String} {e : Entry ω}
    (h : r.named? kind token = some e) : e ∈ r.entries ∧ e.kind = kind := by
  obtain ⟨hfound, hkind⟩ := Option.filter_eq_some_iff.mp h
  exact ⟨List.mem_of_find?_eq_some hfound, by simpa using hkind⟩

/-- The longest name is one of the names. -/
theorem mem_of_foldl_longer {es : List (Entry ω)} {best : Option (Entry ω)} {e : Entry ω}
    (h : es.foldl longer best = some e) : best = some e ∨ e ∈ es := by
  induction es generalizing best with
  | nil => exact Or.inl h
  | cons x es ih =>
    rcases ih h with hlonger | he
    · have hcases : longer best x = best ∨ longer best x = some x := by
        cases best with
        | none => exact Or.inr rfl
        | some b =>
          rw [longer]
          split
          · exact Or.inl rfl
          · exact Or.inr rfl
      rcases hcases with hbest | hx
      · exact Or.inl (hbest ▸ hlonger)
      · rw [hx, Option.some.injEq] at hlonger
        exact Or.inr (List.mem_cons.mpr (Or.inl hlonger.symm))
    · exact Or.inr (List.mem_cons_of_mem x he)

theorem contained?_eq_some {r : Registry ω} {kind : PredicateKind} {token : String} {e : Entry ω}
    (h : r.contained? kind token = some e) : e ∈ r.entries ∧ e.kind = kind := by
  have hmem := (mem_of_foldl_longer h).resolve_left (by simp)
  obtain ⟨he, hkind⟩ := List.mem_filter.mp hmem
  exact ⟨he, by simpa using (Bool.and_eq_true_iff.mp hkind).1⟩

/-- What a token stands for is an entry of the kind that is looked for. -/
theorem find?_eq_some {r : Registry ω} {kind : PredicateKind} {token : String} {e : Entry ω}
    (h : r.find? kind token = some e) : e ∈ r.entries ∧ e.kind = kind := by
  have hpartial : ∀ kind, (r.named? kind token).or (r.contained? kind token) = some e →
      e ∈ r.entries ∧ e.kind = kind := by
    intro kind h
    rcases Option.or_eq_some_iff.mp h with h | ⟨-, h⟩
    · exact named?_eq_some h
    · exact contained?_eq_some h
  cases kind with
  | quantity => exact named?_eq_some h
  | flag => exact hpartial .flag h
  | method => exact named?_eq_some h
  | query => exact hpartial .query h
  | scope =>
    obtain ⟨⟨scope, rest⟩, -, hnamed⟩ := Option.bind_eq_some_iff.mp h
    exact named?_eq_some hnamed

theorem resolve_eq_some {r : Registry ω} {kind : PredicateKind} {token name : String}
    (h : r.resolve kind token = some name) : ∃ e ∈ r.entries, e.kind = kind ∧ e.name = name := by
  obtain ⟨e, hfound, hname⟩ := Option.map_eq_some_iff.mp h
  obtain ⟨he, hkind⟩ := find?_eq_some hfound
  exact ⟨e, he, hkind, hname⟩

/-- A name with a point that no scope of the registry claims, but the bridge. -/
def IsBridged (r : Registry ω) (name : String) : Prop :=
  name.toList.contains '.' = true ∧ r.resolve .scope name = none ∧
    ∃ b, r.bridge? = some b ∧ b.contains name = true

theorem classifyPlain_eq_some {r : Registry ω} {token method : String} {kind : PredicateKind}
    (h : r.classifyPlain token = some (kind, method)) :
    ∃ e ∈ r.entries, e.kind = kind ∧ e.name = method := by
  obtain ⟨before, k, after, -, hk, -⟩ := List.findSome?_eq_some_iff.mp h
  obtain ⟨name, hname, hpair⟩ := Option.map_eq_some_iff.mp hk
  obtain ⟨rfl, rfl⟩ := Prod.mk.inj hpair
  exact resolve_eq_some hname

/-- A token gets the kind and the name of an entry, or is left as it is to the bridge. -/
theorem classify_eq_some {r : Registry ω} {token method : String} {kind : PredicateKind}
    (h : r.classify token = some (kind, method)) :
    (∃ e ∈ r.entries, e.kind = kind ∧ e.name = method) ∨
      (r.IsBridged token ∧ kind = .scope ∧ method = token) := by
  rw [classify] at h
  split at h
  · next hpoint =>
    rcases Option.or_eq_some_iff.mp h with hdotted | ⟨-, hplain⟩
    · rw [classifyDotted] at hdotted
      split at hdotted
      · next name hname =>
        obtain ⟨rfl, rfl⟩ := Prod.mk.inj (Option.some.inj hdotted)
        exact Or.inl (resolve_eq_some hname)
      · next hnone =>
        split at hdotted
        · next hbridge =>
          obtain ⟨rfl, rfl⟩ := Prod.mk.inj (Option.some.inj hdotted)
          cases hb : r.bridge? with
          | none => simp [hb] at hbridge
          | some b => exact Or.inr ⟨⟨hpoint, hnone, b, hb, by simpa [hb] using hbridge⟩, rfl, rfl⟩
        · contradiction
    · exact Or.inl (classifyPlain_eq_some hplain)
  · exact Or.inl (classifyPlain_eq_some h)

/-- A predicate of the registry, or else the bridge, answers for a clause in every world. -/
def Answers (r : Registry ω) (c : Clause) : Prop :=
  (∃ e ∈ r.entries, ∀ world,
    r.dispatch world c = ⟨c, .entry e.source e.name, e.predicate world c⟩) ∨
  ∃ b, r.bridge? = some b ∧ ∀ world,
    r.dispatch world c = ⟨c, .bridge c.method, b.evaluate c.method world c⟩

theorem answers_of_entry? {r : Registry ω} {c : Clause} {e : Entry ω}
    (h : r.entry? c.method = some e) : r.Answers c := by
  refine Or.inl ⟨e, List.mem_of_find?_eq_some h, fun world => ?_⟩
  rw [dispatch, h]

/-- A clause that is left to the bridge may still name an entry, which is asked then. -/
theorem answers_of_isBridged {r : Registry ω} {c : Clause} (hkind : c.kind = .call .scope)
    (hmethod : r.IsBridged c.method) : r.Answers c := by
  cases he : r.entry? c.method with
  | some e => exact answers_of_entry? he
  | none =>
    obtain ⟨-, -, b, hb, hcontains⟩ := hmethod
    refine Or.inr ⟨b, hb, fun world => ?_⟩
    have hfor : r.bridgeFor? c = some b := by
      simp [bridgeFor?, hkind, hb, Option.filter, hcontains]
    rw [dispatch, he, hfor]

theorem Answers.callee_ne_nobody {r : Registry ω} {c : Clause} (h : r.Answers c) (world : ω) :
    (r.dispatch world c).callee ≠ .nobody := by
  rcases h with ⟨e, -, hasked⟩ | ⟨b, -, hasked⟩ <;> simp [hasked world]

/-- A clause calls by what its registry knows: the literals' predicate, a name of the bridge, or an
entry whose kind is the shape of the clause. -/
inductive Calls (r : Registry ω) (c : Clause) : Prop where
  | literal : c.kind = .literal → c.method = Piece.literalMethod → Calls r c
  | bridged : c.kind = .call .scope → c.method = c.keyword → r.IsBridged c.keyword → Calls r c
  | entry {kind : PredicateKind} : c.kind = .call kind → r.kindOf? c.method = some kind → Calls r c

theorem Calls.answers {r : Registry ω} (hr : r.Sound) {c : Clause} (hc : r.Calls c) :
    r.Answers c := by
  cases hc with
  | literal _ hmethod =>
    obtain ⟨e, he⟩ := Option.isSome_iff_exists.mp hr.literals
    exact answers_of_entry? (hmethod ▸ he)
  | bridged hkind hmethod hbridged => exact answers_of_isBridged hkind (hmethod ▸ hbridged)
  | entry _ hkind =>
    obtain ⟨e, he, -⟩ := Option.map_eq_some_iff.mp hkind
    exact answers_of_entry? he

/-- A clause of the right shape calls by what the registry knows. -/
theorem calls_of_wellFormed {r : Registry ω} (hr : r.Sound) {n : Expr}
    (hn : n.WellFormed r.vocabulary) (hgroup : n.clause.kind ≠ .group) : r.Calls n.clause := by
  cases hkind : n.clause.kind with
  | unknown => exact absurd hkind hn.kind
  | group => exact absurd hkind hgroup
  | literal => exact .literal hkind (hn.literal hkind).2.2.1
  | call kind =>
    have hname : r.classify n.clause.keyword = some (kind, n.clause.method) := hn.name kind hkind
    rcases classify_eq_some hname with ⟨e, he, rfl, hmethod⟩ | ⟨hbridged, rfl, hmethod⟩
    · exact .entry hkind (hmethod ▸ hr.kindOf?_name he)
    · exact .bridged hkind hmethod hbridged

end Registry

namespace Expr

/-- Each leaf is a node. -/
theorem exists_node_of_mem_listLeaves (es : List Expr) {c : Clause} (hc : c ∈ listLeaves es) :
    ∃ n ∈ listNodes es, n.clause = c ∧ c.kind ≠ .group := by
  induction es using list_induction with
  | nil => simp [listLeaves] at hc
  | node c' inner rest hinner hrest =>
    rw [listLeaves] at hc
    rw [listNodes]
    rcases List.mem_append.mp hc with hc | hc
    · rw [leaves] at hc
      split at hc
      · obtain ⟨n, hn, hclause⟩ := hinner hc
        exact ⟨n, List.mem_append_left _ (List.mem_cons_of_mem _ hn), hclause⟩
      · next hgroup =>
        obtain rfl := List.mem_singleton.mp hc
        exact ⟨_, List.mem_append_left _ (mem_nodes_self _), rfl,
          by simpa [Clause.isGroup] using hgroup⟩
    · obtain ⟨n, hn, hclause⟩ := hrest hc
      exact ⟨n, List.mem_append_right _ hn, hclause⟩

end Expr

namespace Registry

variable {ω : Type}

/-- An evaluation asks about clauses of its list only. -/
theorem exists_node_of_mem_calls (r : Registry ω) (world : ω) {es : List Expr} {d : Dispatch}
    (hd : d ∈ (r.evaluate world es).calls) :
    ∃ n ∈ Expr.listNodes es, n.clause.kind ≠ .group ∧ d = r.dispatch world n.clause := by
  rw [evaluate, Evaluation.evaluate, Evaluation.calls_foldFrom] at hd
  obtain ⟨p, hp, rfl⟩ := List.mem_map.mp hd
  have hleaf : p.2 ∈ Expr.listLeaves es := by
    rw [← Expr.map_snd_listPlaces]
    exact List.mem_map_of_mem (List.mem_filter.mp hp).1
  obtain ⟨n, hn, hclause, hgroup⟩ := Expr.exists_node_of_mem_listLeaves es hleaf
  exact ⟨n, hn, hclause ▸ hgroup, by rw [hclause]⟩

/-- Whatever a host has registered, and in whatever order: every clause of any tokens that is no
group finds somebody to ask, so no evaluation of them ends with nobody. A clause that is neither a
literal nor left to the bridge calls an entry whose kind is still the one that shaped it. -/
theorem parse_answers [Number.Decimals] (changes : List (Change ω)) (ts : List String) :
    let r := built changes
    let es := parseTokens r.vocabulary ts
    (∀ n ∈ Expr.listNodes es, n.clause.kind ≠ .group → r.Answers n.clause ∧
      (∀ world, (r.dispatch world n.clause).callee ≠ .nobody) ∧ r.Calls n.clause) ∧
    ∀ world, ∀ d ∈ (r.evaluate world es).calls, d.callee ≠ .nobody := by
  intro r es
  have hr : r.Sound := sound_built changes
  have hcalls : ∀ n ∈ Expr.listNodes es, n.clause.kind ≠ .group → r.Calls n.clause :=
    fun n hn hgroup => calls_of_wellFormed hr (Expr.wellFormed_of_mem hn) hgroup
  refine ⟨fun n hn hgroup => ?_, fun world d hd => ?_⟩
  · have hanswers := (hcalls n hn hgroup).answers hr
    exact ⟨hanswers, hanswers.callee_ne_nobody, hcalls n hn hgroup⟩
  · obtain ⟨n, hn, hgroup, rfl⟩ := r.exists_node_of_mem_calls world hd
    exact ((hcalls n hn hgroup).answers hr).callee_ne_nobody world

/-- A quantity that was replaced by a flag, the literals' predicate replaced by a query, and a
bridge. -/
theorem parse_answers_replaced :
    let r : Registry Unit := built [.register ⟨"Health", .quantity, .host, fun _ _ => .answer false⟩,
      .register ⟨"GETBOOLEAN", .query, .host, fun _ _ => .answer true⟩,
      .register ⟨"health", .flag, .host, fun _ _ => .answer true⟩,
      .connect ⟨fun name => name == "Quest.Done", fun _ _ _ => .answer true⟩]
    let es := parseTokens r.vocabulary ["Health", "or", "true", "or", "Quest.Done"]
    (Expr.listNodes es).map (fun n => (n.clause.kind, n.clause.method)) =
        [(.call .flag, "health"), (.literal, "GetBoolean"), (.call .scope, "Quest.Done")] ∧
      ∀ n ∈ Expr.listNodes es, (r.dispatch () n.clause).callee ≠ .nobody := by
  intro r es
  have hkinds : (Expr.listNodes es).map (fun n => (n.clause.kind, n.clause.method)) =
      [(.call .flag, "health"), (.literal, "GetBoolean"), (.call .scope, "Quest.Done")] := by
    decide +kernel
  obtain ⟨hanswers, -⟩ := parse_answers
    [.register ⟨"Health", .quantity, .host, fun (_ : Unit) _ => .answer false⟩,
      .register ⟨"GETBOOLEAN", .query, .host, fun _ _ => .answer true⟩,
      .register ⟨"health", .flag, .host, fun _ _ => .answer true⟩,
      .connect ⟨fun name => name == "Quest.Done", fun _ _ _ => .answer true⟩]
    ["Health", "or", "true", "or", "Quest.Done"]
  refine ⟨hkinds, fun n hn => (hanswers n hn ?_).2.1 ()⟩
  intro hgroup
  have hmem : (n.clause.kind, n.clause.method) ∈
      (Expr.listNodes es).map (fun n => (n.clause.kind, n.clause.method)) :=
    List.mem_map_of_mem hn
  simp [hkinds, hgroup] at hmem

end Registry

end Criteria
