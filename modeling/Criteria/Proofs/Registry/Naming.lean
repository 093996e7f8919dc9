import Criteria.Proofs.Evaluation.Callees
import Criteria.Proofs.Text.Lowering
import Mathlib.Data.List.MinMax

/-!
# What a registered name stands for

Kinds are tried in an order, and a flag is also found within a longer name. So a quantity and a flag
are always found under their own names, but methods and queries only if no name of a flag occurs in
theirs: such a flag is tried first, and of several the longest is taken.
-/
namespace Criteria.Registry

variable {ω : Type} {r : Registry ω} {e : Entry ω} {token : String}

theorem entry?_congr {name : String} (h : Text.lowercase token = Text.lowercase name) :
    r.entry? token = r.entry? name := by
  unfold entry?
  rw [h]

/-- A new entry is found among the entries, whether or not it takes the place of another one. -/
theorem mem_register (r : Registry ω) (e : Entry ω) : e ∈ (r.register e).entries := by
  rw [register]
  split
  · next hknown =>
    obtain ⟨old, hold, hkey⟩ := List.mem_map.mp (isKnown_iff.mp hknown)
    refine List.mem_map.mpr ⟨old, hold, if_pos ?_⟩
    simpa [Entry.key] using hkey
  · exact List.mem_append_right _ (List.mem_singleton_self e)

theorem mem_built [Number.Decimals] (changes : List (Change ω)) (e : Entry ω) :
    e ∈ (built (changes ++ [.register e])).entries := by
  rw [built, List.foldl_concat]
  exact mem_register _ e

/-- A new entry is not found under other names than its own. -/
theorem entry?_register_of_ne (r : Registry ω) {name : String}
    (h : e.key ≠ Text.lowercase name) : entry? (r.register e) name = r.entry? name := by
  have hnew : (e.key == Text.lowercase name) = false := beq_eq_false_iff_ne.mpr h
  rw [register, entry?, entry?]
  split
  · have hsame : ((fun x : Entry ω => x.key == Text.lowercase name) ∘
        fun old => if old.key == e.key then e else old) =
          fun x : Entry ω => x.key == Text.lowercase name := by
      funext old
      by_cases hold : old.key = e.key <;> simp [hold, hnew]
    rw [List.find?_map, hsame]
    cases hfound : r.entries.find? fun x => x.key == Text.lowercase name with
    | none => rfl
    | some old =>
      have hkey : old.key = Text.lowercase name := by simpa using List.find?_some hfound
      simp [hkey, Ne.symm h]
  · rw [List.find?_append, List.find?_singleton, hnew]
    simp

/-- An entry is found under its own name in any case, among those of its kind. -/
theorem Sound.named?_name (hr : r.Sound) (he : e ∈ r.entries)
    (htoken : Text.lowercase token = Text.lowercase e.name) (kind : PredicateKind) :
    r.named? kind token = if e.kind = kind then some e else none := by
  rw [named?, entry?_congr htoken, hr.entry?_name he]
  by_cases hkind : e.kind = kind <;> simp [Option.filter, hkind]

/-- The entries of a kind whose names occur in a token. -/
def within (r : Registry ω) (kind : PredicateKind) (token : String) : List (Entry ω) :=
  r.entries.filter fun e => e.kind == kind && Text.containsText e.key (Text.lowercase token)

theorem within_eq_nil {kind : PredicateKind} :
    r.within kind token = [] ↔ ∀ f ∈ r.entries, f.kind = kind →
      Text.containsText f.key (Text.lowercase token) = false := by
  simp [within, List.filter_eq_nil_iff]

/-- Of the names that occur in a token the longest counts, and the earliest of the longest. -/
theorem contained?_eq_argmax (r : Registry ω) (kind : PredicateKind) (token : String) :
    r.contained? kind token = (r.within kind token).argmax fun e => e.name.utf8ByteSize := by
  have hlonger : (longer : Option (Entry ω) → Entry ω → Option (Entry ω)) =
      List.argAux fun e b => b.name.utf8ByteSize < e.name.utf8ByteSize := by
    funext best e
    cases best with
    | none => rfl
    | some b =>
      by_cases hsize : b.name.utf8ByteSize < e.name.utf8ByteSize
      · simp [longer, List.argAux, hsize]
      · simp [longer, List.argAux, hsize, Nat.le_of_not_lt hsize]
  rw [contained?, hlonger]
  rfl

theorem classify_of_no_point (h : token.toList.contains '.' = false) :
    r.classify token = r.classifyPlain token := by
  rw [classify, h, if_neg (by simp)]

/-- The kinds in which a name without a point is looked up, one after another. -/
theorem classifyPlain_eq (r : Registry ω) (token : String) :
    r.classifyPlain token =
      ((r.named? .quantity token).map fun e => (.quantity, e.name)).or
        ((((r.named? .flag token).or (r.contained? .flag token)).map fun e => (.flag, e.name)).or
          (((r.named? .method token).map fun e => (.method, e.name)).or
            (((r.named? .query token).or (r.contained? .query token)).map
              fun e => (.query, e.name)))) := by
  simp only [classifyPlain, kindOrder, List.findSome?, resolve, find?, Option.map_map]
  cases r.named? .quantity token with
  | some e => rfl
  | none =>
    cases (r.named? .flag token).or (r.contained? .flag token) with
    | some e => rfl
    | none =>
      cases r.named? .method token with
      | some e => rfl
      | none => cases (r.named? .query token).or (r.contained? .query token) <;> rfl

/-- Some flag's name occurs in a name. -/
def Shadowed (r : Registry ω) (name : String) : Prop :=
  ∃ f ∈ r.entries, f.kind = .flag ∧ Text.containsText f.key (Text.lowercase name) = true

theorem shadowed_iff {name : String} : r.Shadowed name ↔ r.within .flag name ≠ [] := by
  rw [Ne, within_eq_nil]
  simp [Shadowed]

/-- A predicate with arguments is found by its own name if no flag's name occurs in that. -/
theorem Sound.classify_of_within_eq_nil (hr : r.Sound) (he : e ∈ r.entries)
    (hkind : e.kind = .method ∨ e.kind = .query) (hpoint : e.name.toList.contains '.' = false)
    (hwithin : r.within .flag e.name = []) : r.classify e.name = some (e.kind, e.name) := by
  have hnamed := hr.named?_name he rfl
  rw [classify_of_no_point hpoint, classifyPlain_eq, hnamed, hnamed, hnamed, hnamed,
    contained?_eq_argmax, hwithin]
  obtain hkind | hkind := hkind <;> simp [hkind]

/-- A name without a point stands for its own entry, in any case of its letters, if it is that of a
quantity or a flag, and otherwise if no flag's name occurs in it. If one does, the name stands for
the longest such flag. -/
theorem classify_name [Number.Decimals] (changes : List (Change ω)) (e : Entry ω)
    (he : e ∈ (built changes).entries) (hscope : e.kind ≠ .scope)
    (hpoint : e.name.toList.contains '.' = false) (token : String)
    (htoken : Text.lowercase token = Text.lowercase e.name) :
    let r := built changes
    (r.classify token = some (e.kind, e.name) ↔
      e.kind = .quantity ∨ e.kind = .flag ∨ ¬ r.Shadowed e.name) ∧
    (e.kind = .method ∨ e.kind = .query → r.Shadowed e.name →
      ∃ f ∈ (r.within .flag e.name).argmax fun f => f.name.utf8ByteSize,
        r.classify token = some (.flag, f.name)) := by
  intro r
  have hr : r.Sound := sound_built changes
  have hnamed := hr.named?_name he htoken
  have hwithin : r.within .flag token = r.within .flag e.name := by rw [within, within, htoken]
  have hclassify : r.classify token = r.classifyPlain token :=
    classify_of_no_point ((Text.contains_point_of_lowercase_eq htoken).trans hpoint)
  have hshadowed : r.Shadowed e.name ↔
      (r.within .flag e.name).argmax (fun f => f.name.utf8ByteSize) ≠ none := by
    rw [shadowed_iff, Ne, Ne, List.argmax_eq_none]
  rw [hclassify, classifyPlain_eq, hnamed, hnamed, hnamed, hnamed, contained?_eq_argmax, hwithin,
    hshadowed]
  -- Of the flags only the longest within the name matters, and whether there is one.
  generalize (r.within .flag e.name).argmax (fun f => f.name.utf8ByteSize) = longest
  cases hkind : e.kind with
  | quantity => simp
  | flag => simp
  | scope => exact absurd hkind hscope
  | method => cases longest <;> simp
  | query => cases longest <;> simp

/-- With two flags, one query in whose name they occur and one in whose name they do not. -/
theorem classify_name_longest :
    let flags : List (Change Unit) := [.register ⟨"Town", .flag, .host, fun _ _ => .answer true⟩,
      .register ⟨"InTown", .flag, .host, fun _ _ => .answer true⟩]
    let town : Entry Unit := ⟨"WasInTown", .query, .host, fun _ _ => .answer true⟩
    let quest : Entry Unit := ⟨"HasQuest", .query, .host, fun _ _ => .answer true⟩
    (built (flags ++ [.register town])).classify "wasInTown" = some (.flag, "InTown") ∧
      (built (flags ++ [.register quest])).classify "HASQUEST" = some (.query, "HasQuest") := by
  intro flags town quest
  have hshadowed : (built (flags ++ [.register town])).within .flag town.name ≠ [] := by
    intro hnil
    have hlength : ((built (flags ++ [.register town])).within .flag town.name).length = 2 := by
      decide +kernel
    simp [hnil] at hlength
  have hlongest : (((built (flags ++ [.register town])).within .flag town.name).argmax
      fun f => f.name.utf8ByteSize).map Entry.name = some "InTown" := by decide +kernel
  have hfree : (built (flags ++ [.register quest])).within .flag quest.name = [] := by
    rw [← List.length_eq_zero_iff]
    decide +kernel
  constructor
  · obtain ⟨f, hf, hclassify⟩ := (classify_name _ town (mem_built flags town) (by decide)
      (by decide +kernel) "wasInTown" (by decide +kernel)).2 (Or.inr rfl)
      (shadowed_iff.mpr hshadowed)
    rw [Option.mem_def.mp hf, Option.map_some, Option.some.injEq] at hlongest
    rw [hclassify, hlongest]
  · exact (classify_name _ quest (mem_built flags quest) (by decide) (by decide +kernel) "HASQUEST"
      (by decide +kernel)).1.mpr (Or.inr (Or.inr fun h => shadowed_iff.mp h hfree))

/-- A query under whose name a flag is found. -/
theorem not_classify_name :
    ¬ ∀ (changes : List (Change Unit)) (e : Entry Unit), e ∈ (built changes).entries →
      e.kind ≠ .scope → e.name.toList.contains '.' = false →
      ∀ token, Text.lowercase token = Text.lowercase e.name →
        (built changes).classify token = some (e.kind, e.name) := by
  intro h
  have hdead := h [.register ⟨"Dead", .flag, .host, fun _ _ => .answer true⟩,
    .register ⟨"IsDead", .query, .host, fun _ _ => .answer true⟩]
    ⟨"IsDead", .query, .host, fun _ _ => .answer true⟩
    (mem_built [.register ⟨"Dead", .flag, .host, fun _ _ => .answer true⟩] _) (by decide)
    (by decide +kernel) "IsDead" rfl
  revert hdead
  decide +kernel

end Criteria.Registry
