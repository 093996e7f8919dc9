import Criteria.Proofs.Registry.Naming

/-!
# Names within longer tokens

A token stands for a flag or a query if the name of one occurs in it. The one that the whole token
names comes first. Otherwise the longest of the names that occur counts, and of equally long ones
the one that was registered first, wherever in the token they stand.
-/
namespace Criteria

variable {ω : Type}

/-- An entry of a kind whose name occurs in a token, both in small letters. -/
structure Entry.Within (e : Entry ω) (kind : PredicateKind) (token : String) : Prop where
  kind : e.kind = kind
  occurs : (Text.lowercase e.name).toList <:+: (Text.lowercase token).toList

namespace Registry

section Longest

/-- Of all entries with a property the one with the longest name, and its place. Among equally long
names the first one counts. -/
structure FirstLongest (P : Entry ω → Prop) (es : List (Entry ω)) (place : Nat) (e : Entry ω) :
    Prop where
  standing : es[place]? = some e
  holds : P e
  longest : ∀ i f, es[i]? = some f → P f →
    f.name.utf8ByteSize < e.name.utf8ByteSize ∨
      f.name.utf8ByteSize = e.name.utf8ByteSize ∧ place ≤ i

variable {P : Entry ω → Prop} {es : List (Entry ω)} {place : Nat} {e x : Entry ω}

theorem FirstLongest.unique {other : Nat} (he : FirstLongest P es place e)
    (hx : FirstLongest P es other x) : e = x := by
  have hle := hx.longest place e he.standing he.holds
  have hge := he.longest other x hx.standing hx.holds
  obtain rfl : place = other := by omega
  exact Option.some.inj (he.standing.symm.trans hx.standing)

theorem FirstLongest.le (h : FirstLongest P es place e) {f : Entry ω} (hf : f ∈ es) (hP : P f) :
    f.name.utf8ByteSize ≤ e.name.utf8ByteSize := by
  obtain ⟨i, hi⟩ := List.mem_iff_getElem?.mp hf
  have hlongest := h.longest i f hi hP
  omega

theorem getElem?_concat_cases {i : Nat} {f : Entry ω} (h : (es ++ [x])[i]? = some f) :
    es[i]? = some f ∨ i = es.length ∧ f = x := by
  rw [List.getElem?_append] at h
  split at h
  · exact .inl h
  · rw [List.getElem?_singleton] at h
    split at h
    · exact .inr ⟨by omega, (Option.some.inj h).symm⟩
    · exact nomatch h

/-- Another entry at the end changes nothing unless its name is longer. -/
theorem FirstLongest.keep (h : FirstLongest P es place e)
    (hx : P x → x.name.utf8ByteSize ≤ e.name.utf8ByteSize) :
    FirstLongest P (es ++ [x]) place e := by
  have hlt : place < es.length := (List.getElem?_eq_some_iff.mp h.standing).1
  refine ⟨by rw [List.getElem?_append_left hlt, h.standing], h.holds, fun i f hf hP => ?_⟩
  obtain hf | ⟨rfl, rfl⟩ := getElem?_concat_cases hf
  · exact h.longest i f hf hP
  · have hle := hx hP
    omega

/-- An entry at the end whose name is longer than all others takes over. -/
theorem firstLongest_concat (hP : P x)
    (hx : ∀ f ∈ es, P f → f.name.utf8ByteSize < x.name.utf8ByteSize) :
    FirstLongest P (es ++ [x]) es.length x := by
  refine ⟨List.getElem?_concat_length, hP, fun i f hf hPf => ?_⟩
  obtain hf | ⟨rfl, rfl⟩ := getElem?_concat_cases hf
  · exact .inl (hx f (List.mem_of_getElem? hf) hPf)
  · exact .inr ⟨rfl, Nat.le_refl _⟩

/-- The greatest entry by the length of names is the first of the longest, as the search for it goes
on to another entry only if that one's name is longer. -/
theorem exists_firstLongest {p : Entry ω → Bool}
    (h : (es.filter p).argmax (fun e => e.name.utf8ByteSize) = some e) :
    ∃ place, FirstLongest (p · = true) es place e := by
  induction es using List.reverseRecOn generalizing e with
  | nil => exact nomatch h
  | append_singleton es x ih =>
    rw [List.filter_append] at h
    by_cases hx : p x = true
    · rw [List.filter_cons_of_pos hx, List.filter_nil, List.argmax_concat] at h
      cases hbest : (es.filter p).argmax (fun e => e.name.utf8ByteSize) with
      | none =>
        rw [hbest] at h
        obtain rfl := Option.some.inj h
        refine ⟨es.length, firstLongest_concat hx fun f hf hPf => ?_⟩
        rw [List.argmax_eq_none, List.filter_eq_nil_iff] at hbest
        exact absurd hPf (hbest f hf)
      | some b =>
        obtain ⟨place, hb⟩ := ih hbest
        rw [hbest] at h
        by_cases hlt : b.name.utf8ByteSize < x.name.utf8ByteSize
        · obtain rfl : x = e := by simpa [hlt] using h
          exact ⟨es.length, firstLongest_concat hx fun f hf hPf => (hb.le hf hPf).trans_lt hlt⟩
        · obtain rfl : b = e := by simpa [hlt] using h
          exact ⟨place, hb.keep fun _ => Nat.le_of_not_lt hlt⟩
    · rw [List.filter_cons_of_neg hx, List.filter_nil, List.append_nil] at h
      obtain ⟨place, he⟩ := ih h
      exact ⟨place, he.keep fun h => absurd h hx⟩

end Longest

variable {r : Registry ω} {kind : PredicateKind} {token : String} {e : Entry ω}

theorem within_iff : (e.kind == kind && Text.containsText e.key (Text.lowercase token)) = true ↔
    e.Within kind token := by
  rw [Bool.and_eq_true, beq_iff_eq, Text.containsText, Text.containsRun_iff]
  exact ⟨fun h => ⟨h.1, h.2⟩, fun h => ⟨h.kind, h.occurs⟩⟩

theorem contained?_isSome :
    (r.contained? kind token).isSome ↔ ∃ e ∈ r.entries, e.Within kind token := by
  rw [contained?_eq_argmax, Option.isSome_iff_ne_none, Ne, List.argmax_eq_none, within,
    List.filter_eq_nil_iff]
  simp only [within_iff, not_forall, not_not, exists_prop]

/-- The entry that is found within a token is the first of the longest. -/
theorem contained?_eq_some_iff : r.contained? kind token = some e ↔
    ∃ place, FirstLongest (·.Within kind token) r.entries place e := by
  have hfirst {e : Entry ω} (h : r.contained? kind token = some e) :
      ∃ place, FirstLongest (·.Within kind token) r.entries place e := by
    rw [contained?_eq_argmax] at h
    simpa only [within_iff] using exists_firstLongest h
  refine ⟨hfirst, fun ⟨place, he⟩ => ?_⟩
  obtain ⟨b, hb⟩ := Option.isSome_iff_exists.mp
    (contained?_isSome.mpr ⟨e, List.mem_of_getElem? he.standing, he.holds⟩)
  obtain ⟨other, hother⟩ := hfirst hb
  rw [hb, hother.unique he]

/-- The entry that a token names is the one of the kind with that name, in any case. -/
theorem Sound.named?_eq_some_iff (hr : r.Sound) : r.named? kind token = some e ↔
    e ∈ r.entries ∧ e.kind = kind ∧ Text.lowercase e.name = Text.lowercase token := by
  constructor
  · intro h
    obtain ⟨he, hkind⟩ := named?_eq_some h
    obtain ⟨hfound, -⟩ := Option.filter_eq_some_iff.mp h
    exact ⟨he, hkind, by simpa [Entry.key] using List.find?_some hfound⟩
  · rintro ⟨he, hkind, hname⟩
    rw [hr.named?_name he hname.symm, if_pos hkind]

/-- Flags and queries are looked for by name first, and then within the token. -/
theorem resolve_eq_or (hkind : kind = .flag ∨ kind = .query) : r.resolve kind token =
    ((r.named? kind token).or (r.contained? kind token)).map Entry.name := by
  obtain rfl | rfl := hkind <;> rfl

/-- However a registry came about, a token stands for a flag or a query if and only if the name of
one occurs in it. The one with the token's own name is taken if there is one, and otherwise the one
whose name has the most bytes, of several with as many the one that was registered first. -/
theorem resolve_within [Number.Decimals] (changes : List (Change ω)) {kind : PredicateKind}
    (hkind : kind = .flag ∨ kind = .query) (token : String) :
    let r := built changes
    ((r.resolve kind token).isSome ↔ ∃ e ∈ r.entries, e.Within kind token) ∧
    (∀ e ∈ r.entries, e.kind = kind → Text.lowercase e.name = Text.lowercase token →
      r.resolve kind token = some e.name) ∧
    ((∀ e ∈ r.entries, e.kind = kind → Text.lowercase e.name ≠ Text.lowercase token) →
      ∀ name, r.resolve kind token = some name ↔
        ∃ place e, FirstLongest (·.Within kind token) r.entries place e ∧ e.name = name) := by
  intro r
  have hr : r.Sound := sound_built changes
  rw [resolve_eq_or hkind, Option.isSome_map]
  refine ⟨⟨fun h => ?_, fun h => ?_⟩, fun e he hsame hname => ?_, fun hother name => ?_⟩
  · cases hnamed : r.named? kind token with
    | some e =>
      obtain ⟨he, hsame, hname⟩ := hr.named?_eq_some_iff.mp hnamed
      exact ⟨e, he, hsame, hname ▸ List.infix_rfl⟩
    | none =>
      rw [hnamed, Option.none_or] at h
      exact contained?_isSome.mp h
  · rw [Option.isSome_or, contained?_isSome.mpr h, Bool.or_true]
  · rw [hr.named?_eq_some_iff.mpr ⟨he, hsame, hname⟩, Option.some_or, Option.map_some]
  · have hnamed : r.named? kind token = none := by
      by_contra hne
      obtain ⟨e, he⟩ := Option.ne_none_iff_exists'.mp hne
      obtain ⟨hmem, hsame, hname⟩ := hr.named?_eq_some_iff.mp he
      exact hother e hmem hsame hname
    rw [hnamed, Option.none_or, Option.map_eq_some_iff]
    simp only [contained?_eq_some_iff]
    exact ⟨fun ⟨e, ⟨place, he⟩, hname⟩ => ⟨place, e, he, hname⟩,
      fun ⟨place, e, he, hname⟩ => ⟨e, ⟨place, he⟩, hname⟩⟩

/-- With a short name and two of seven letters that overlap in the token. -/
theorem resolve_within_overlap :
    let changes : List (Change Unit) := [.register ⟨"Buff", .flag, .host, fun _ _ => .answer true⟩,
      .register ⟨"BuffOne", .flag, .host, fun _ _ => .answer true⟩,
      .register ⟨"HasBuff", .flag, .host, fun _ _ => .answer true⟩]
    (PredicateKind.flag = .flag ∨ PredicateKind.flag = .query) ∧
      (built changes).resolve .flag "hasBuffOne" = some "BuffOne" := by
  intro changes
  have hnames : (built changes).entries.map Entry.name =
      ["GetBoolean", "Buff", "BuffOne", "HasBuff"] := by decide +kernel
  have hother : ∀ e ∈ (built changes).entries, e.kind = .flag →
      Text.lowercase e.name ≠ Text.lowercase "hasBuffOne" := by decide +kernel
  refine ⟨.inl rfl, ((resolve_within changes (.inl rfl) "hasBuffOne").2.2 hother _).mpr
    ⟨2, ⟨"BuffOne", .flag, .host, fun _ _ => .answer true⟩, ⟨rfl, ⟨rfl, by decide +kernel⟩, ?_⟩,
      rfl⟩⟩
  intro i f hf hwithin
  have hname : ["GetBoolean", "Buff", "BuffOne", "HasBuff"][i]? = some f.name := by
    rw [← hnames, List.getElem?_map, hf, Option.map_some]
  match i with
  | 0 => exact absurd (Option.some.inj hname ▸ hwithin.occurs) (by decide +kernel)
  | 1 => exact .inl (Option.some.inj hname ▸ by decide +kernel)
  | 2 => exact .inr ⟨Option.some.inj hname ▸ rfl, Nat.le_refl 2⟩
  | 3 => exact .inr ⟨Option.some.inj hname ▸ rfl, Nat.le_succ 2⟩

end Registry

end Criteria
