import Criteria.Proofs.Comparison.Numbers

/-!
# The order of values

Where the order of decimals is a total preorder, the order of two values is reversed when they are
seen from the other side. Numbers that have decimals, integers or not, are then in a total preorder,
as their decimals are, and so are truth values and texts. Different numbers or texts may be level:
`3` and `3.0`, or two texts that differ in the case of a letter.
-/
namespace Criteria

open Number (Decimal Decimals Double)

instance : Std.TransCmp Text.order :=
  inferInstanceAs (Std.TransCmp
    (Ordering.byKey String.toList (List.compareLex (Ordering.byKey Char.toNat compare))))

theorem Number.Double.order?_swap (x y : Double) :
    y.order? x = (x.order? y).map Ordering.swap := by
  cases x with
  | nan => rw [order?_nan_left, order?_nan_right, Option.map_none]
  | signed s m hm =>
    cases y with
    | nan => rfl
    | signed t n hn => exact congrArg some Std.OrientedCmp.eq_swap

namespace Value

instance : Std.TransCmp textOrder :=
  inferInstanceAs (Std.TransCmp (Ordering.byKey Text.lowercase Text.order))

section Swap

variable (a b : Value)

theorem floatOrder_swap : (b.asFloat.bind fun y => a.asFloat.bind fun x => y.order? x) =
    (a.asFloat.bind fun x => b.asFloat.bind fun y => x.order? y).map Ordering.swap := by
  cases a.asFloat with
  | none => cases b.asFloat <;> rfl
  | some x =>
    cases b.asFloat with
    | none => rfl
    | some y => exact x.order?_swap y

theorem order?_text [Decimals] (s : String) :
    order? a (text s) = some (textOrder a.asText s) := by
  cases a <;> rfl

variable [Decimals] (h : Decimals.Total)

include h

theorem numberOrder?_swap : numberOrder? b a = (numberOrder? a b).map Ordering.swap := by
  have := h.transCmp
  rw [numberOrder?, numberOrder?]
  cases a.asDecimal with
  | none => cases b.asDecimal <;> exact floatOrder_swap a b
  | some x =>
    cases b.asDecimal with
    | none => exact floatOrder_swap a b
    | some y => exact congrArg some Std.OrientedCmp.eq_swap

/-- Values that have an order from one side have the reversed one from the other. -/
theorem order?_swap : order? b a = (order? a b).map Ordering.swap := by
  cases a with
  | text s =>
    rw [order?_text]
    exact congrArg some Std.OrientedCmp.eq_swap
  | bool p =>
    cases b with
    | text t => exact congrArg some Std.OrientedCmp.eq_swap
    | bool q => exact congrArg some Std.OrientedCmp.eq_swap
    | int n => rfl
    | float y => rfl
  | int m =>
    cases b with
    | text t => exact congrArg some Std.OrientedCmp.eq_swap
    | bool q => rfl
    | int n => exact congrArg some Std.OrientedCmp.eq_swap
    | float y => exact numberOrder?_swap (int m) (float y) h
  | float x =>
    cases b with
    | text t => exact congrArg some Std.OrientedCmp.eq_swap
    | bool q => rfl
    | int n => exact numberOrder?_swap (float x) (int n) h
    | float y => exact numberOrder?_swap (float x) (float y) h

end Swap

section Preorders

variable [Decimals]

/-- The first value comes before the second one or is level with it. -/
def AtMost (a b : Value) : Prop := ∃ o, order? a b = some o ∧ o.isLE

/-- Each of these values is level with itself, what is at most a second one is at most all that this
one is at most, and of any two one is at most the other. -/
structure PreorderOn (values : Set Value) : Prop where
  refl : ∀ a ∈ values, order? a a = some .eq
  trans : ∀ a ∈ values, ∀ b ∈ values, ∀ c ∈ values, AtMost a b → AtMost b c → AtMost a c
  total : ∀ a ∈ values, ∀ b ∈ values, AtMost a b ∨ AtMost b a

/-- Values are in a preorder if they are in the order of their keys. -/
theorem PreorderOn.of_key {α : Type} (cmp : α → α → Ordering) [Std.TransCmp cmp]
    {values : Set Value} (key : values → α)
    (h : ∀ a b : values, order? a b = some (cmp (key a) (key b))) : PreorderOn values := by
  have hatMost (a b : values) : AtMost a b ↔ (cmp (key a) (key b)).isLE := by
    rw [AtMost, h]
    simp
  constructor
  · intro a ha
    have hself : cmp (key ⟨a, ha⟩) (key ⟨a, ha⟩) = .eq := Std.ReflCmp.compare_self
    rw [h ⟨a, ha⟩ ⟨a, ha⟩, hself]
  · intro a ha b hb c hc hab hbc
    rw [hatMost ⟨a, ha⟩ ⟨b, hb⟩] at hab
    rw [hatMost ⟨b, hb⟩ ⟨c, hc⟩] at hbc
    exact (hatMost ⟨a, ha⟩ ⟨c, hc⟩).mpr (Std.TransCmp.isLE_trans hab hbc)
  · intro a ha b hb
    have hswap : cmp (key ⟨b, hb⟩) (key ⟨a, ha⟩) = (cmp (key ⟨a, ha⟩) (key ⟨b, hb⟩)).swap :=
      Std.OrientedCmp.eq_swap
    rw [hatMost ⟨a, ha⟩ ⟨b, hb⟩, hatMost ⟨b, hb⟩ ⟨a, ha⟩, hswap]
    cases cmp (key ⟨a, ha⟩) (key ⟨b, hb⟩) <;> decide

/-- All integers, and the floating-point numbers that have a decimal. -/
def decimals : Set Value := Set.range int ∪ float '' {x | (Decimals.ofDouble? x).isSome}

theorem isSome_of_mem_decimals {v : Value} (h : v ∈ decimals) : v.asDecimal.isSome := by
  obtain ⟨n, rfl⟩ | ⟨x, hx, rfl⟩ := h
  · rfl
  · exact hx

/-- Two such values are in the order of their decimals, also where both are integers. -/
theorem order?_of_mem_decimals (h : Decimals.Total) {a b : Value} (ha : a ∈ decimals)
    (hb : b ∈ decimals) {x y : Decimals.Carrier} (hx : a.asDecimal = some x)
    (hy : b.asDecimal = some y) : order? a b = some (Decimals.order x y) := by
  have hnumber : numberOrder? a b = some (Decimals.order x y) := by
    rw [numberOrder?, hx, hy]
  obtain ⟨m, rfl⟩ | ⟨r, -, rfl⟩ := ha <;> obtain ⟨n, rfl⟩ | ⟨r', -, rfl⟩ := hb
  · obtain rfl := Option.some.inj hx
    obtain rfl := Option.some.inj hy
    exact congrArg some (h.order_ofInt64 m n).symm
  all_goals exact hnumber

theorem preorderOn_decimals (h : Decimals.Total) : PreorderOn decimals := by
  have := h.transCmp
  refine .of_key Decimals.order
    (fun v => v.val.asDecimal.get (isSome_of_mem_decimals v.property)) fun a b => ?_
  obtain ⟨x, hx⟩ := Option.isSome_iff_exists.mp (isSome_of_mem_decimals a.property)
  obtain ⟨y, hy⟩ := Option.isSome_iff_exists.mp (isSome_of_mem_decimals b.property)
  rw [order?_of_mem_decimals h a.property b.property hx hy]
  simp only [hx, hy, Option.get_some]

theorem preorderOn_bool : PreorderOn (Set.range bool) := by
  refine .of_key compare (fun v => (v.val.asBool.getD false).toNat) ?_
  rintro ⟨_, p, rfl⟩ ⟨_, q, rfl⟩
  rfl

theorem preorderOn_text : PreorderOn (Set.range text) := by
  refine .of_key textOrder (fun v => v.val.asText) ?_
  rintro ⟨_, s, rfl⟩ ⟨_, t, rfl⟩
  rfl

/-- Any two values are in an order and the reversed one, or in none from either side. Integers
together with the floating-point numbers that have decimals are in a total preorder, and so are
truth values and texts. -/
theorem order?_preorder (h : Decimals.Total) :
    (∀ a b, order? b a = (order? a b).map Ordering.swap) ∧ PreorderOn decimals ∧
      PreorderOn (Set.range bool) ∧ PreorderOn (Set.range text) :=
  ⟨fun a b => order?_swap a b h, preorderOn_decimals h, preorderOn_bool, preorderOn_text⟩

end Preorders

/-- An integer is at most a number with a place, and this one at most the next integer. -/
theorem order?_preorder_two :
    let a : Value := .int 2
    let b : Value := .float (Double.nearest false (5 / 2))
    let c : Value := .int 3
    Decimals.Total ∧ (AtMost a b ∧ AtMost b c ∧ AtMost a c) ∧
      order? b a = (order? a b).map Ordering.swap := by
  intro a b c
  obtain ⟨hswap, hdecimals, -, -⟩ := order?_preorder Decimal.total
  have ha : a ∈ decimals := .inl ⟨2, rfl⟩
  have hb : b ∈ decimals := .inr ⟨_, by decide +kernel, rfl⟩
  have hc : c ∈ decimals := .inl ⟨3, rfl⟩
  have hab : AtMost a b := ⟨.lt, by decide +kernel, rfl⟩
  have hbc : AtMost b c := ⟨.lt, by decide +kernel, rfl⟩
  exact ⟨Decimal.total, ⟨hab, hbc, hdecimals.trans a ha b hb c hc hab hbc⟩, hswap a b⟩

end Value

end Criteria
