import Criteria.Json
import Criteria.Proofs.Comparison.Preorder

/-!
# Fields that are left out

Tables stand in the order of their names. So it makes no difference whether a name is left out of
the list that a table is made from, or is taken out of the table. JSON values without the fields of
some name are those that are made without them from the start.
-/
namespace Criteria

namespace Table

variable {α β : Type} {t : Table α} {name other : String} {value : α}

/-- Each name stands in front of all that come later. -/
def Sorted (t : Table α) : Prop := t.Pairwise fun a b => Text.order a.1 b.1 = .lt

theorem mem_insert {entry : String × α} (h : entry ∈ t.insert name value) :
    entry = (name, value) ∨ entry ∈ t := by
  induction t with
  | nil => exact .inl (List.mem_singleton.mp h)
  | cons head rest ih =>
    obtain ⟨key, old⟩ := head
    rw [insert] at h
    split at h
    · exact List.mem_cons.mp h
    · exact (List.mem_cons.mp h).imp_right (List.mem_cons_of_mem _)
    · rcases List.mem_cons.mp h with rfl | hrest
      · exact .inr (List.mem_cons_self ..)
      · exact (ih hrest).imp_right (List.mem_cons_of_mem _)

theorem Sorted.insert (h : t.Sorted) (name : String) (value : α) :
    (t.insert name value).Sorted := by
  induction t with
  | nil => exact List.pairwise_singleton _ _
  | cons head rest ih =>
    obtain ⟨key, old⟩ := head
    obtain ⟨hkey, hrest⟩ := List.pairwise_cons.mp h
    rw [Table.insert]
    split
    · next hlt =>
      refine List.pairwise_cons.mpr ⟨fun entry hentry => ?_, h⟩
      rcases List.mem_cons.mp hentry with rfl | hentry
      · exact hlt
      · exact Std.TransCmp.lt_trans hlt (hkey entry hentry)
    · next heq =>
      obtain rfl := Text.order_eq_iff.mp heq
      exact List.pairwise_cons.mpr ⟨hkey, hrest⟩
    · next hgt =>
      refine List.pairwise_cons.mpr ⟨fun entry hentry => ?_, ih hrest⟩
      rcases mem_insert hentry with rfl | hentry
      · exact Std.OrientedCmp.lt_of_gt hgt
      · exact hkey entry hentry

theorem ofList_concat (entries : List (String × α)) (entry : String × α) :
    ofList (entries ++ [entry]) = (ofList entries).insert entry.1 entry.2 := List.foldl_concat ..

theorem sorted_ofList (entries : List (String × α)) : (ofList entries).Sorted := by
  induction entries using List.reverseRecOn with
  | nil => exact List.Pairwise.nil
  | append_singleton entries entry ih =>
    rw [ofList_concat]
    exact ih.insert entry.1 entry.2

/-- What comes before all names of a table is put in front. -/
theorem insert_of_lt (h : ∀ entry ∈ t, Text.order name entry.1 = .lt) :
    t.insert name value = (name, value) :: t := by
  cases t with
  | nil => rfl
  | cons head rest => rw [insert, h head (List.mem_cons_self ..)]

theorem erase_cons (t : Table α) (entry : String × α) (name : String) :
    erase name (entry :: t) = if entry.1 = name then t.erase name else entry :: t.erase name := by
  by_cases h : entry.1 = name <;> simp [erase, h]

/-- A name that is taken out may as well not be put in. -/
theorem erase_insert_self (t : Table α) (name : String) (value : α) :
    (t.insert name value).erase name = t.erase name := by
  induction t with
  | nil => simp [erase]
  | cons head rest ih =>
    obtain ⟨key, old⟩ := head
    rw [insert]
    cases h : Text.order name key with
    | lt => exact (erase_cons _ _ _).trans (if_pos rfl)
    | eq =>
      obtain rfl := Text.order_eq_iff.mp h
      rw [erase_cons, erase_cons, if_pos rfl, if_pos rfl]
    | gt => simp only [erase_cons, ih]

/-- Taking a name out and giving another one a value may be done in either order. -/
theorem Sorted.erase_insert (h : t.Sorted) (hne : other ≠ name) :
    (t.insert other value).erase name = (t.erase name).insert other value := by
  induction t with
  | nil => simp [erase, hne]
  | cons head rest ih =>
    obtain ⟨key, old⟩ := head
    obtain ⟨hkey, hrest⟩ := List.pairwise_cons.mp h
    rw [Table.insert]
    cases ho : Text.order other key with
    | lt =>
      -- What is put in front stays there, also if the head of the table is taken out.
      have hfront : ∀ entry ∈ erase name ((key, old) :: rest), Text.order other entry.1 = .lt := by
        intro entry hentry
        rcases List.mem_cons.mp (List.mem_of_mem_filter hentry) with rfl | hentry
        · exact ho
        · exact Std.TransCmp.lt_trans ho (hkey entry hentry)
      rw [insert_of_lt hfront, erase_cons, if_neg hne]
    | eq =>
      obtain rfl := Text.order_eq_iff.mp ho
      simp [erase_cons, hne, Table.insert, ho]
    | gt =>
      simp only [erase_cons, ih hrest]
      by_cases hk : key = name
      · rw [if_pos hk, if_pos hk]
      · rw [if_neg hk, if_neg hk, Table.insert, ho]

/-- A name may be taken out of a table or be left out of the list that the table is made from. -/
theorem erase_ofList (name : String) (entries : List (String × α)) :
    (ofList entries).erase name = ofList (entries.filter fun entry => entry.1 != name) := by
  induction entries using List.reverseRecOn with
  | nil => rfl
  | append_singleton entries entry ih =>
    rw [ofList_concat, List.filter_append]
    by_cases h : entry.1 = name
    · rw [← h, erase_insert_self, h, ih, List.filter_cons_of_neg (by simp [h]), List.filter_nil,
        List.append_nil]
    · rw [(sorted_ofList entries).erase_insert h, ih, List.filter_cons_of_pos (by simpa using h),
        List.filter_nil, ofList_concat]

/-- A table has the value that stands last under a name. -/
theorem find?_ofList (entries : List (String × α)) (name : String) :
    (ofList entries).find? name =
      (entries.reverse.find? fun entry => entry.1 == name).map Prod.snd := by
  induction entries using List.reverseRecOn with
  | nil => rfl
  | append_singleton entries entry ih =>
    rw [ofList_concat, find?_insert, List.reverse_concat, List.find?_cons, ih]
    by_cases h : entry.1 = name
    · simp [h]
    · rw [if_neg h, beq_eq_false_iff_ne.mpr h]

theorem map_insert (f : α → β) (t : Table α) (name : String) (value : α) :
    (t.insert name value).map (Prod.map id f) =
      Table.insert name (f value) (t.map (Prod.map id f)) := by
  induction t with
  | nil => rfl
  | cons head rest ih =>
    obtain ⟨key, old⟩ := head
    simp only [List.map_cons, Prod.map_apply, id, Table.insert]
    cases Text.order name key with
    | lt => rfl
    | eq => rfl
    | gt => exact congrArg ((key, f old) :: ·) ih

/-- The values of a table may be changed in it or in the list that it is made from. -/
theorem map_ofList (f : α → β) (entries : List (String × α)) :
    (ofList entries).map (Prod.map id f) = ofList (entries.map (Prod.map id f)) := by
  induction entries using List.reverseRecOn with
  | nil => rfl
  | append_singleton entries entry ih =>
    rw [ofList_concat, map_insert, ih, List.map_append, List.map_singleton, ofList_concat]
    rfl

end Table

namespace Json

mutual

/-- The value without all fields of a name, at every depth. -/
def without (name : String) : Json → Json
  | array items => array (withoutItems name items)
  | object fields => object (withoutFields name fields)
  | j => j

def withoutItems (name : String) : List Json → List Json
  | [] => []
  | item :: rest => without name item :: withoutItems name rest

def withoutFields (name : String) : List (String × Json) → List (String × Json)
  | [] => []
  | (key, item) :: rest =>
    if key = name then withoutFields name rest
    else (key, without name item) :: withoutFields name rest

end

variable {name : String}

theorem withoutItems_eq (name : String) (items : List Json) :
    withoutItems name items = items.map (without name) := by
  induction items with
  | nil => rw [withoutItems, List.map_nil]
  | cons item rest ih => rw [withoutItems, ih, List.map_cons]

theorem withoutFields_eq (name : String) (fields : Table Json) :
    withoutFields name fields = (fields.erase name).map (Prod.map id (without name)) := by
  induction fields with
  | nil => rw [withoutFields, Table.erase_nil, List.map_nil]
  | cons field rest ih =>
    obtain ⟨key, item⟩ := field
    rw [withoutFields, Table.erase_cons, ih]
    by_cases h : key = name
    · rw [if_pos h, if_pos h]
    · rw [if_neg h, if_neg h, List.map_cons, Prod.map_apply, id]

@[simp] theorem without_text (name s : String) : (text s).without name = text s := rfl
@[simp] theorem without_bool (name : String) (b : Bool) : (bool b).without name = bool b := rfl

@[simp] theorem without_array (name : String) (items : List Json) :
    (array items).without name = array (items.map (without name)) := by
  rw [without, withoutItems_eq]

@[simp] theorem without_ofStrings (name : String) (items : List String) :
    (ofStrings items).without name = ofStrings items := by
  rw [ofStrings, without_array, List.map_map]
  rfl

/-- An object that is made of some fields is, without those of a name, made of the others. -/
theorem without_ofFields (name : String) (fields : List (String × Json)) :
    (ofFields fields).without name = ofFields
      ((fields.filter fun field => field.1 != name).map (Prod.map id (without name))) := by
  rw [ofFields, without, withoutFields_eq, Table.erase_ofList, Table.map_ofList, ofFields]

end Json

end Criteria
