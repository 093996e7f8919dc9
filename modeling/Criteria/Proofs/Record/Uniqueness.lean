import Criteria.Proofs.Reading.WellFormed
import Criteria.Proofs.Record.Fields
import Criteria.Record

/-!
# Records and what they are of

The record of an expression leaves out what its kind settles: all but the list of a group, and what
a clause without arguments or without a comparator has in their place. So expressions that were
read, by whatever registries, are the same if their records are, apart from the numbers.
-/
namespace Criteria

theorem ClauseKind.text_injective : Function.Injective ClauseKind.text := by
  have hall : ∀ kind, kind ∈ all := by
    rintro (_ | kind | _ | _)
    · decide
    · cases kind <;> decide
    · decide
    · decide
  have hdistinct : ∀ a ∈ all, ∀ b ∈ all, a.text = b.text → a = b := by decide
  exact fun a b => hdistinct a (hall a) b (hall b)

theorem Join.text_injective : Function.Injective Join.text := by
  intro a b
  cases a <;> cases b <;> decide

theorem Comparator.text_injective : Function.Injective Comparator.text := by
  have hdistinct : ∀ a ∈ all, ∀ b ∈ all, a.text = b.text → a = b := by decide
  exact fun a b => hdistinct a a.mem_all b b.mem_all

/-- The field of a name, if the value is an object that has it. -/
def Json.field? (name : String) : Json → Option Json
  | object fields => Table.find? name fields
  | _ => none

theorem Json.field?_ofFields (fields : List (String × Json)) (name : String) :
    (ofFields fields).field? name =
      (fields.reverse.find? fun field => field.1 == name).map Prod.snd :=
  Table.find?_ofList fields name

/-- What the record of an expression leaves out follows from what it holds. -/
structure Expr.Settled (e : Expr) : Prop where
  group : e.clause.isGroup = true → e.clause = .group e.clause.join e.clause.negated
  leaf : e.clause.isGroup = false → e.children = []
  value : e.clause.operator = none →
    e.clause.value = if e.clause.kind = .literal then e.clause.keyword else ""

namespace Expr

variable {v : Vocabulary}

/-- A group is written with the parenthesis that opens it. -/
theorem keyword_of_group {ts : List String} {e : Expr} (he : e ∈ listNodes (parseTokens v ts))
    (hkind : e.clause.kind = .group) : e.clause.keyword = "(" := by
  have hbuilds : Reading.Builds (Makes v) (fun j _ => j = .and ∨ j = .or)
      (fun e => e.clause.kind = .group → e.clause.keyword = "(") :=
    { idle := .inl rfl
      join := fun hj _ _ _ => hj
      negation := fun _ _ _ hj => hj
      -- A clause has no list, so it cannot be of the kind of groups.
      leaf := fun hc j negated hj hgroup =>
        absurd rfl ((hc j hj negated).group hgroup).1
      group := fun _ _ _ _ => rfl }
  exact hbuilds.forall_nodes makes_scan e he hkind

theorem WellFormed.settled {e : Expr} (h : e.WellFormed v)
    (hkeyword : e.clause.kind = .group → e.clause.keyword = "(") : e.Settled where
  group hc := by
    have hkind : e.clause.kind = .group := by simpa [Clause.isGroup] using hc
    obtain ⟨-, hmethod, hparams, hvalue, hoperator⟩ := h.group hkind
    rcases e with ⟨⟨keyword, kind, join, negated, method, operator, value, params⟩, es⟩
    simp_all [Clause.group]
  leaf hc := h.leaf (by simpa [Clause.isGroup] using hc)
  value hoperator := by
    cases hkind : e.clause.kind with
    | unknown => exact absurd hkind h.kind
    | group => exact (h.group hkind).2.2.2.1
    | literal => exact (h.literal hkind).2.1
    | call kind =>
      cases kind with
      | quantity => exact absurd hoperator (h.compared (.inl hkind)).1
      | flag => exact (h.uncompared (.inl hkind)).2
      | method => exact absurd hoperator (h.compared (.inr hkind)).1
      | query => exact (h.uncompared (.inr hkind)).2
      | scope => exact h.scope hkind hoperator

/-- All that is read is settled by its record. -/
theorem settled_of_mem {ts : List String} {e : Expr} (he : e ∈ listNodes (parseTokens v ts)) :
    e.Settled :=
  (wellFormed_of_mem he).settled (keyword_of_group he)

end Expr

namespace Record

/-- Fields that are no numbers, and have none inside. -/
def Numberless (fields : List (String × Json)) : Prop :=
  (fields.filter fun field => field.1 != "id").map (Prod.map id (Json.without "id")) = fields

theorem numberless_common (c : Clause) : Numberless (common c) := rfl

theorem takeNumber_filter (numbers : List Nat) :
    (takeNumber numbers).1.filter (fun field => field.1 != "id") = [] := by
  cases numbers with
  | nil => rfl
  | cons n rest => rfl

/-- A record without its number, and without those inside it. -/
theorem without_ofFields_number (numbers : List Nat) (c : Clause) (fields : List (String × Json)) :
    (Json.ofFields ((takeNumber numbers).1 ++ common c ++ fields)).without "id" =
      .ofFields (common c ++
        (fields.filter fun field => field.1 != "id").map (Prod.map id (Json.without "id"))) := by
  have hcommon := numberless_common c
  rw [Numberless] at hcommon
  rw [Json.without_ofFields, List.filter_append, List.filter_append, takeNumber_filter,
    List.nil_append, List.map_append, hcommon]

theorem ofStrings_injective : Function.Injective Json.ofStrings := by
  intro items items' h
  have htexts : Function.Injective Json.text := fun s s' h => Json.text.inj h
  exact htexts.list_map (Json.array.inj h)

/-- Arguments that are left out are none. -/
theorem params_of_field {params params' : List String}
    (h : (if params.isEmpty then none else some (Json.ofStrings params)) =
      if params'.isEmpty then none else some (Json.ofStrings params')) : params = params' := by
  cases params with
  | nil => cases params' <;> simp_all
  | cons p params =>
    cases params' with
    | nil => simp at h
    | cons p' params' => exact ofStrings_injective (by simpa using h)

/-- The operator and the literal can be read off the record of a clause, the literal also where it
is left out. -/
theorem comparison_of_fields {c c' : Clause} {es es' : List Expr}
    (hs : (Expr.node c es).Settled) (hs' : (Expr.node c' es').Settled)
    (hkind : c.kind = c'.kind) (hkeyword : c.keyword = c'.keyword)
    (hoperator : c.operator.map (fun op => Json.text op.text) =
      c'.operator.map fun op => Json.text op.text)
    (hvalue : c.operator.map (fun _ => Json.text c.value) =
      c'.operator.map fun _ => Json.text c'.value) :
    c.operator = c'.operator ∧ c.value = c'.value := by
  have hinjective : Function.Injective fun op : Comparator => Json.text op.text :=
    fun op op' h => Comparator.text_injective (Json.text.inj h)
  have hsame : c.operator = c'.operator := Option.map_injective hinjective hoperator
  refine ⟨hsame, ?_⟩
  cases hop : c.operator with
  | none =>
    have hleft : c.value = if c.kind = .literal then c.keyword else "" := hs.value hop
    have hleft' : c'.value = if c'.kind = .literal then c'.keyword else "" :=
      hs'.value (hsame.symm.trans hop)
    rw [hleft, hleft', hkind, hkeyword]
  | some op =>
    rw [← hsame, hop] at hvalue
    simpa using hvalue

section Decimals

variable [Number.Decimals]

theorem numberless_own (c : Clause) : Numberless (own c) := by
  rw [Numberless, own]
  cases c.params.isEmpty <;> cases c.operator <;> simp

/-- Without the numbers they are the records of the expressions alone. -/
theorem without_numberedList (numbers : List Nat) (es : List Expr) :
    (numberedList numbers es).1.map (Json.without "id") = ofList es := by
  induction es using Expr.list_induction generalizing numbers with
  | nil => rfl
  | node c inner rest hinner hrest =>
    have hown : (numberedExpr numbers (.node c inner)).1.without "id" = ofExpr (.node c inner) := by
      rw [numberedExpr, ofExpr]
      by_cases hc : c.isGroup
      · simp only [if_pos hc, without_ofFields_number]
        simp [hinner (takeNumber numbers).2]
      · simp only [if_neg hc, without_ofFields_number]
        rw [numberless_own]
    rw [numberedList, ofList]
    simp only [List.map_cons]
    rw [hown, hrest (numberedExpr numbers (.node c inner)).2]

section

variable (c : Clause) (es : List Expr)

/-- What every record says. -/
theorem field?_common :
    (ofExpr (.node c es)).field? "kind" = some (.text c.kind.text) ∧
      (ofExpr (.node c es)).field? "join" = some (.text c.join.text) ∧
      (ofExpr (.node c es)).field? "negated" = some (.bool c.negated) := by
  rw [ofExpr]
  simp only [Json.field?_ofFields, common, own]
  cases c.isGroup <;> cases c.params.isEmpty <;> cases c.operator <;> simp

theorem field?_children (hc : c.isGroup = true) :
    (ofExpr (.node c es)).field? "children" = some (.array (ofList es)) := by
  rw [ofExpr, if_pos hc, Json.field?_ofFields]
  rfl

/-- What the record of a clause says. -/
theorem field?_own (hc : c.isGroup = false) :
    (ofExpr (.node c es)).field? "keyword" = some (.text c.keyword) ∧
      (ofExpr (.node c es)).field? "method" = some (.text c.method) ∧
      (ofExpr (.node c es)).field? "params" =
        (if c.params.isEmpty then none else some (.ofStrings c.params)) ∧
      (ofExpr (.node c es)).field? "operator" = c.operator.map (fun op => .text op.text) ∧
      (ofExpr (.node c es)).field? "value" = c.operator.map (fun _ => .text c.value) := by
  rw [ofExpr, if_neg (by simp [hc])]
  simp only [Json.field?_ofFields, common, own]
  cases c.params.isEmpty <;> cases c.operator <;> simp

end

theorem without_numberedTree (numbers : List Nat) (es : List Expr) :
    (numberedTree numbers es).without "id" = tree es := by
  rw [numberedTree, Json.without_array, without_numberedList, tree]

section Injective

variable {c c' : Clause} {es es' : List Expr}

/-- The kind, the join and the negation can be read off a record. -/
theorem common_of_ofExpr (h : ofExpr (.node c es) = ofExpr (.node c' es')) :
    c.kind = c'.kind ∧ c.join = c'.join ∧ c.negated = c'.negated := by
  obtain ⟨hkind, hjoin, hnegated⟩ := field?_common c es
  obtain ⟨hkind', hjoin', hnegated'⟩ := field?_common c' es'
  rw [h] at hkind hjoin hnegated
  refine ⟨ClauseKind.text_injective ?_, Join.text_injective ?_, ?_⟩
  · simpa using hkind.symm.trans hkind'
  · simpa using hjoin.symm.trans hjoin'
  · simpa using hnegated.symm.trans hnegated'

/-- A clause can be read off its record. -/
theorem clause_of_ofExpr (hs : (Expr.node c es).Settled) (hs' : (Expr.node c' es').Settled)
    (hc : c.isGroup = false) (h : ofExpr (.node c es) = ofExpr (.node c' es')) : c = c' := by
  obtain ⟨hkind, hjoin, hnegated⟩ := common_of_ofExpr h
  have hc' : c'.isGroup = false := by rw [← hc, Clause.isGroup, Clause.isGroup, hkind]
  obtain ⟨hkeyword, hmethod, hparams, hoperator, hvalue⟩ := field?_own c es hc
  obtain ⟨hkeyword', hmethod', hparams', hoperator', hvalue'⟩ := field?_own c' es' hc'
  rw [h] at hkeyword hmethod hparams hoperator hvalue
  have hword : c.keyword = c'.keyword := by simpa using hkeyword.symm.trans hkeyword'
  have hname : c.method = c'.method := by simpa using hmethod.symm.trans hmethod'
  have hargs : c.params = c'.params := params_of_field (hparams.symm.trans hparams')
  obtain ⟨hop, hliteral⟩ := comparison_of_fields hs hs' hkind hword
    (hoperator.symm.trans hoperator') (hvalue.symm.trans hvalue')
  cases c
  cases c'
  simp_all

end Injective

mutual

/-- Settled expressions with the same record are the same. The induction is on the tree: what is
inside a group is in its record. -/
theorem eq_of_ofExpr (e e' : Expr) (he : ∀ n ∈ e.nodes, n.Settled) (he' : ∀ n ∈ e'.nodes, n.Settled)
    (h : ofExpr e = ofExpr e') : e = e' := by
  match e, e' with
  | .node c es, .node c' es' =>
    obtain ⟨hs, hes⟩ := Expr.forall_mem_nodes.mp he
    obtain ⟨hs', hes'⟩ := Expr.forall_mem_nodes.mp he'
    obtain ⟨hkind, hjoin, hnegated⟩ := common_of_ofExpr h
    have hgroup : c'.isGroup = c.isGroup := by rw [Clause.isGroup, Clause.isGroup, hkind]
    cases hc : c.isGroup with
    | true =>
      rw [hc] at hgroup
      have hchildren := field?_children c es hc
      rw [h, field?_children c' es' hgroup, Option.some.injEq, Json.array.injEq] at hchildren
      have hclause : c = .group c.join c.negated := hs.group hc
      have hclause' : c' = .group c'.join c'.negated := hs'.group hgroup
      rw [hclause, hclause', hjoin, hnegated, eq_of_ofList es es' hes hes' hchildren.symm]
    | false =>
      have hclause := clause_of_ofExpr hs hs' hc h
      have hempty : es = [] := hs.leaf hc
      have hempty' : es' = [] := hs'.leaf (hgroup.trans hc)
      rw [hclause, hempty, hempty']

theorem eq_of_ofList (es es' : List Expr) (hes : ∀ e ∈ es, ∀ n ∈ e.nodes, n.Settled)
    (hes' : ∀ e ∈ es', ∀ n ∈ e.nodes, n.Settled) (h : ofList es = ofList es') : es = es' := by
  match es, es' with
  | [], [] => rfl
  | [], _ :: _ => simp [ofList] at h
  | _ :: _, [] => simp [ofList] at h
  | e :: es, e' :: es' =>
    obtain ⟨he, hes⟩ := List.forall_mem_cons.mp hes
    obtain ⟨he', hes'⟩ := List.forall_mem_cons.mp hes'
    rw [ofList, ofList, List.cons.injEq] at h
    rw [eq_of_ofExpr e e' he he' h.1, eq_of_ofList es es' hes hes' h.2]

end

/-- Whatever registries the tokens are read by, and whatever numbers the expressions have: what is
read of them is the same just if the records are without their numbers. -/
theorem tree_unique {ω ω' : Type} (r : Registry ω) (r' : Registry ω') (ts ts' : List String)
    (numbers numbers' : List Nat) :
    let es := parseTokens r.vocabulary ts
    let es' := parseTokens r'.vocabulary ts'
    (numberedTree numbers es).without "id" = (numberedTree numbers' es').without "id" ↔
      es = es' := by
  intro es es'
  rw [without_numberedTree, without_numberedTree]
  refine ⟨fun h => ?_, fun h => h ▸ rfl⟩
  have hsettled : ∀ {v : Vocabulary} {ts : List String}, ∀ e ∈ parseTokens v ts,
      ∀ n ∈ e.nodes, n.Settled :=
    Expr.forall_mem_listNodes.mp fun _ => Expr.settled_of_mem
  exact eq_of_ofList es es' hsettled hsettled (Json.array.inj h)

end Decimals

end Record

end Criteria
