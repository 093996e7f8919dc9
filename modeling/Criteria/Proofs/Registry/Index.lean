import Criteria.Table
import Criteria.Proofs.Registry.Naming

/-!
# A registry with an index

The entries of a registry can be found through an index, a table that gives for each key the place
of its entry. Whatever is registered, and however often the same name is, index and entries fit
together, and so the look-up through the index finds what a search of all entries finds: the latest
entry that was registered under the name. The registry itself lists each name once, where it came
first and as it was written last.
-/
namespace Criteria

/-- The entries of a registry, and for each key the place of its entry among them. -/
structure Catalog (ω : Type) where
  entries : List (Entry ω) := []
  index : Table Nat := []
  bridge? : Option (Bridge ω) := none

namespace Catalog

variable {ω : Type}

/-- Puts an entry in the place that its key has, or gives the key the place at the end. -/
def register (c : Catalog ω) (e : Entry ω) : Catalog ω :=
  match c.index.find? e.key with
  | some place => { c with entries := c.entries.set place e }
  | none =>
    { c with entries := c.entries ++ [e], index := c.index.insert e.key c.entries.length }

def apply (c : Catalog ω) : Registry.Change ω → Catalog ω
  | .register e => c.register e
  | .connect b => { c with bridge? := some b }

/-- The catalog that knows the literals and nothing else. -/
def initial [Number.Decimals] : Catalog ω :=
  register {} ⟨Piece.literalMethod, .flag, .builtin, literalPredicate ω⟩

def built [Number.Decimals] (changes : List (Registry.Change ω)) : Catalog ω :=
  changes.foldl apply initial

/-- The entry at the place that the index gives for a name, in any case. -/
def entry? (c : Catalog ω) (name : String) : Option (Entry ω) :=
  (c.index.find? (Text.lowercase name)).bind (c.entries[·]?)

def isKnown (c : Catalog ω) (name : String) : Bool :=
  (c.index.find? (Text.lowercase name)).isSome

/-- The index gives the place of a key exactly where its entry stands. -/
def Indexed (c : Catalog ω) : Prop :=
  ∀ key place, c.index.find? key = some place ↔ ∃ e, c.entries[place]? = some e ∧ e.key = key

/-- The entries and the bridge of a registry, with an index that fits them. -/
structure Represents (c : Catalog ω) (r : Registry ω) : Prop where
  entries : c.entries = r.entries
  bridge : c.bridge? = r.bridge?
  indexed : c.Indexed

variable {c : Catalog ω} {r : Registry ω} {e : Entry ω} {place : Nat}

/-- A key that the index does not have is that of no entry. -/
theorem Indexed.key_ne (h : c.Indexed) {key : String} (hnone : c.index.find? key = none)
    {old : Entry ω} (hold : c.entries[place]? = some old) : old.key ≠ key := by
  intro hkey
  have hfound := (h key place).mpr ⟨old, hold, hkey⟩
  simp [hnone] at hfound

/-- A key has one place. -/
theorem Indexed.place_eq (h : c.Indexed) {key : String} (hplace : c.index.find? key = some place)
    {i : Nat} {old : Entry ω} (hold : c.entries[i]? = some old) (hkey : old.key = key) :
    i = place := by
  have hfound := (h key i).mpr ⟨old, hold, hkey⟩
  rw [hplace, Option.some.injEq] at hfound
  exact hfound.symm

/-- An entry takes the place of the one with its key, and the index stays as it is. -/
theorem Indexed.set (h : c.Indexed) (hplace : c.index.find? e.key = some place) :
    { c with entries := c.entries.set place e }.Indexed := by
  obtain ⟨old, hold, hkey⟩ := (h _ _).mp hplace
  have hlt : place < c.entries.length := (List.getElem?_eq_some_iff.mp hold).1
  intro key i
  rw [show Table.find? key _ = c.index.find? key from rfl, h key i, List.getElem?_set]
  by_cases hi : place = i
  · subst hi
    rw [hold]
    simp [hlt, hkey]
  · simp [hi]

/-- An entry with a new key goes to the end, and so does its place in the index. -/
theorem Indexed.push (h : c.Indexed) (hnone : c.index.find? e.key = none) :
    { c with
      entries := c.entries ++ [e]
      index := c.index.insert e.key c.entries.length }.Indexed := by
  intro key i
  rw [Table.find?_insert]
  rcases Nat.lt_trichotomy i c.entries.length with hi | hi | hi
  · have hsame : (c.entries ++ [e])[i]? = c.entries[i]? := List.getElem?_append_left hi
    rw [hsame, ← h key i]
    by_cases hkey : e.key = key
    · -- The place of a new key is not one of the earlier places.
      rw [if_pos hkey, ← hkey, hnone]
      simp [Nat.ne_of_gt hi]
    · rw [if_neg hkey]
  · subst hi
    by_cases hkey : e.key = key
    · simp [hkey]
    · have hout : c.index.find? key ≠ some c.entries.length := by
        rw [Ne, h key]
        simp
      simp [hkey, hout]
  · have hout : c.index.find? key ≠ some i := by
      rw [Ne, h key, List.getElem?_eq_none (Nat.le_of_lt hi)]
      simp
    have hend : (c.entries ++ [e])[i]? = none := List.getElem?_eq_none (by simp; omega)
    rw [hend]
    by_cases hkey : e.key = key <;> simp [hkey, hout, Nat.ne_of_lt hi]

/-- The index finds what a search of all entries finds. -/
theorem Represents.entry? (h : c.Represents r) (name : String) :
    c.entry? name = r.entry? name := by
  rw [Catalog.entry?, Registry.entry?, ← h.entries]
  cases hfind : c.index.find? (Text.lowercase name) with
  | none =>
    rw [eq_comm, Option.bind_none, List.find?_eq_none]
    intro old hold
    obtain ⟨place, hplace⟩ := List.mem_iff_getElem?.mp hold
    simpa using h.indexed.key_ne hfind hplace
  | some place =>
    obtain ⟨e, he, hkey⟩ := (h.indexed _ _).mp hfind
    obtain ⟨hlt, hget⟩ := List.getElem?_eq_some_iff.mp he
    rw [Option.bind_some, he, eq_comm, List.find?_eq_some_iff_getElem]
    refine ⟨by simp [hkey], place, hlt, hget, fun i hi => ?_⟩
    have hearlier := List.getElem?_eq_getElem (hi.trans hlt)
    simpa using fun hsame => Nat.ne_of_lt hi (h.indexed.place_eq hfind hearlier hsame)

theorem Represents.isKnown (h : c.Represents r) (name : String) :
    c.isKnown name = r.isKnown name := by
  rw [Registry.isKnown, ← h.entry?, Catalog.isKnown, Catalog.entry?]
  cases hfind : c.index.find? (Text.lowercase name) with
  | none => rfl
  | some place =>
    obtain ⟨e, he, -⟩ := (h.indexed _ _).mp hfind
    simp [he]

/-- As no other entry has its key, an entry that is put in its place is put there by its key. -/
theorem Indexed.set_eq_map (h : c.Indexed) (hplace : c.index.find? e.key = some place) :
    c.entries.set place e = c.entries.map fun old => if old.key == e.key then e else old := by
  obtain ⟨old, hold, hkey⟩ := (h _ _).mp hplace
  refine List.ext_getElem? fun i => ?_
  rw [List.getElem?_set, List.getElem?_map]
  by_cases hi : place = i
  · subst hi
    rw [hold]
    simp [hkey, (List.getElem?_eq_some_iff.mp hold).1]
  · rw [if_neg hi]
    cases hother : c.entries[i]? with
    | none => rfl
    | some other =>
      have hne : other.key ≠ e.key := fun hsame => hi (h.place_eq hplace hother hsame).symm
      simp [hne]

/-- Registering keeps the entries and the index of a catalog in step with a registry. -/
theorem Represents.register (h : c.Represents r) (e : Entry ω) :
    (c.register e).Represents (r.register e) := by
  have hknown : (c.index.find? e.key).isSome = r.isKnown e.name := h.isKnown e.name
  unfold Catalog.register
  rw [Registry.register, ← hknown]
  cases hfind : c.index.find? e.key with
  | some place =>
    rw [Option.isSome_some, if_pos rfl, ← h.entries]
    exact ⟨h.indexed.set_eq_map hfind, h.bridge, h.indexed.set hfind⟩
  | none =>
    rw [Option.isSome_none, if_neg Bool.false_ne_true, ← h.entries]
    exact ⟨rfl, h.bridge, h.indexed.push hfind⟩

theorem Represents.apply (h : c.Represents r) (change : Registry.Change ω) :
    (c.apply change).Represents (r.apply change) := by
  cases change with
  | register e => exact h.register e
  | connect b => exact ⟨h.entries, rfl, h.indexed⟩

theorem represents_initial [Number.Decimals] :
    (initial : Catalog ω).Represents Registry.initial := by
  have hempty : ({} : Catalog ω).Represents {} := by
    refine ⟨rfl, rfl, fun key place => ?_⟩
    simp
  exact hempty.register _

theorem represents_built [Number.Decimals] (changes : List (Registry.Change ω)) :
    (built changes).Represents (Registry.built changes) := by
  have hfold : ∀ (c : Catalog ω) (r : Registry ω), c.Represents r →
      (changes.foldl apply c).Represents (changes.foldl Registry.apply r) := by
    induction changes with
    | nil => exact fun c r h => h
    | cons change changes ih => exact fun c r h => ih _ _ (h.apply change)
  exact hfold _ _ represents_initial

end Catalog

namespace Registry

variable {ω : Type} {r : Registry ω} {e : Entry ω}

/-- The entry that a change registers. -/
def Change.entry? : Change ω → Option (Entry ω)
  | .register e => some e
  | .connect _ => none

/-- All that was ever registered, the predicate of the literals first. -/
def registered [Number.Decimals] (changes : List (Change ω)) : List (Entry ω) :=
  initial.entries ++ changes.filterMap Change.entry?

/-- The last entry of a key. -/
def latest? (es : List (Entry ω)) (key : String) : Option (Entry ω) :=
  es.reverse.find? fun e => e.key == key

theorem latest?_concat (es : List (Entry ω)) (e : Entry ω) (key : String) :
    latest? (es ++ [e]) key = if e.key = key then some e else latest? es key := by
  rw [latest?, List.reverse_concat, List.find?_cons, ← latest?]
  by_cases h : e.key = key
  · simp [h]
  · rw [beq_eq_false_iff_ne.mpr h, if_neg h]

/-- A new entry is what its key stands for from now on, and no other key stands for it. -/
theorem Sound.entry?_register (hr : r.Sound) (e : Entry ω) (name : String) :
    entry? (r.register e) name =
      if e.key = Text.lowercase name then some e else r.entry? name := by
  by_cases h : e.key = Text.lowercase name
  · rw [if_pos h, ← (hr.register e).entry?_name (mem_register r e)]
    exact entry?_congr h.symm
  · rw [if_neg h, entry?_register_of_ne r h]

theorem built_concat [Number.Decimals] (changes : List (Change ω)) (change : Change ω) :
    built (changes ++ [change]) = (built changes).apply change := List.foldl_concat ..

/-- What a list of changes has registered, after one more of them. -/
theorem registered_concat [Number.Decimals] (changes : List (Change ω)) (change : Change ω) :
    registered (changes ++ [change]) = registered changes ++ change.entry?.toList := by
  rw [registered, List.filterMap_append, ← List.append_assoc]
  cases change <;> rfl

/-- A name, in any case, stands for the latest entry that was registered under it. -/
theorem entry?_built [Number.Decimals] (changes : List (Change ω)) (name : String) :
    entry? (built changes) name = latest? (registered changes) (Text.lowercase name) := by
  induction changes using List.reverseRecOn with
  | nil => rfl
  | append_singleton changes change ih =>
    rw [built_concat, registered_concat]
    cases change with
    | connect b =>
      rw [Change.entry?, Option.toList_none, List.append_nil]
      exact ih
    | register e =>
      rw [Change.entry?, Option.toList_some, latest?_concat, ← ih]
      exact (sound_built changes).entry?_register e name

/-- A value that is not new is not added to the distinct values of a list. -/
theorem eraseDups_concat {α : Type} [DecidableEq α] (as : List α) (a : α) :
    (as ++ [a]).eraseDups = if a ∈ as then as.eraseDups else as.eraseDups ++ [a] := by
  rw [List.eraseDups_append]
  by_cases h : a ∈ as
  · simp [List.removeAll, h]
  · simp [List.removeAll, h, List.eraseDups_cons]

/-- The keys stand in the order in which each was registered first. -/
theorem keys_built [Number.Decimals] (changes : List (Change ω)) :
    (built changes).entries.map Entry.key = ((registered changes).map Entry.key).eraseDups := by
  induction changes using List.reverseRecOn with
  | nil => rfl
  | append_singleton changes change ih =>
    rw [built_concat, registered_concat]
    cases change with
    | connect b =>
      rw [Change.entry?, Option.toList_none, List.append_nil]
      exact ih
    | register e =>
      have hknown : (built changes).isKnown e.name = true ↔
          e.key ∈ (registered changes).map Entry.key := by
        rw [isKnown_iff, ih, List.mem_eraseDups]
        rfl
      rw [Change.entry?, Option.toList_some, List.map_append, List.map_singleton,
        eraseDups_concat, ← ih, ← ite_cond_congr (propext hknown)]
      exact keys_register _ e

/-- The entries are the latest of their keys. -/
theorem entries_built [Number.Decimals] (changes : List (Change ω)) :
    (built changes).entries =
      ((registered changes).map Entry.key).eraseDups.filterMap (latest? (registered changes)) := by
  have hself : ∀ e ∈ (built changes).entries,
      (latest? (registered changes) ∘ Entry.key) e = some e := fun e he =>
    (entry?_built changes e.name).symm.trans ((sound_built changes).entry?_name he)
  rw [← keys_built, List.filterMap_map, List.filterMap_congr hself, List.filterMap_some]

/-- However a registry came about, an index that is kept along with it gives each key the place of
its one entry, so the look-up by index finds what the registry finds. That is the entry registered
last under the name, in any case of its letters. Each name is listed once, in the order of the first
registrations and as the last one spelled it. -/
theorem built_indexed [Number.Decimals] (changes : List (Change ω)) :
    let r := built changes
    let c := Catalog.built changes
    let es := registered changes
    let keys := (es.map Entry.key).eraseDups
    (c.entries = r.entries ∧ c.bridge? = r.bridge? ∧
      ∀ name, c.entry? name = r.entry? name ∧ c.isKnown name = r.isKnown name) ∧
    (∀ key place, c.index.find? key = some place ↔
      ∃ e, c.entries[place]? = some e ∧ Text.lowercase e.name = key) ∧
    (c.entries.map fun e => Text.lowercase e.name).Nodup ∧
    (∀ name, r.entry? name = latest? es (Text.lowercase name) ∧
      r.kindOf? name = (latest? es (Text.lowercase name)).map Entry.kind ∧
      r.isKnown name = (latest? es (Text.lowercase name)).isSome) ∧
    r.names = keys.filterMap (fun key => (latest? es key).map Entry.name) ∧
    r.names.length = keys.length := by
  intro r c es keys
  have hr : r.Sound := sound_built changes
  have hc : c.Represents r := Catalog.represents_built changes
  have hentry : ∀ name, r.entry? name = latest? es (Text.lowercase name) := entry?_built changes
  have hentries : r.entries = keys.filterMap (latest? es) := entries_built changes
  have hkeys : r.entries.map Entry.key = keys := keys_built changes
  refine ⟨⟨hc.entries, hc.bridge, fun name => ⟨hc.entry? name, hc.isKnown name⟩⟩, hc.indexed,
    ?_, fun name => ⟨hentry name, ?_, ?_⟩, ?_, ?_⟩
  · rw [hc.entries]
    exact hr.keys
  · rw [kindOf?, hentry]
  · rw [isKnown, hentry]
  · rw [names, hentries, List.map_filterMap]
  · rw [names, List.length_map, ← hkeys, List.length_map]

/-- The first predicate keeps its place, with the spelling and the kind of the third. -/
example :
    let r : Registry Unit := built [.register ⟨"Health", .quantity, .host, fun _ _ => .answer true⟩,
      .register ⟨"Dead", .flag, .host, fun _ _ => .answer true⟩,
      .register ⟨"HEALTH", .flag, .host, fun _ _ => .answer false⟩]
    r.names = ["GetBoolean", "HEALTH", "Dead"] ∧ r.kindOf? "health" = some .flag := by
  decide

end Registry

end Criteria
