/-!
Looking for a character or a run of characters in a text, and the order of texts.
-/
namespace Criteria.Text

/-- Whether `part` occurs in the list as an unbroken run. -/
def containsRun (part : List Char) : List Char → Bool
  | [] => part.isEmpty
  | c :: rest => part.isPrefixOf (c :: rest) || containsRun part rest

theorem containsRun_iff {part cs : List Char} : containsRun part cs = true ↔ part <:+: cs := by
  induction cs with
  | nil => rw [containsRun, List.isEmpty_iff, List.infix_nil]
  | cons c rest ih =>
    rw [containsRun, Bool.or_eq_true, List.isPrefixOf_iff_prefix, ih, List.infix_cons_iff]

def containsText (part whole : String) : Bool := containsRun part.toList whole.toList

/-- The texts before and after the first `c`, if there is one. -/
def splitAt? (c : Char) (s : String) : Option (String × String) :=
  match s.toList.span (· != c) with
  | (_, []) => none
  | (before, _ :: after) => some (String.ofList before, String.ofList after)

/-- Order by code points, which is also the order of the encoded bytes. -/
def order (s t : String) : Ordering :=
  List.compareLex (fun a b => compare a.toNat b.toNat) s.toList t.toList

theorem compareLex_eq_iff {cs ds : List Char} :
    List.compareLex (fun a b => compare a.toNat b.toNat) cs ds = .eq ↔ cs = ds := by
  induction cs generalizing ds with
  | nil => cases ds <;> simp [List.compareLex]
  | cons c cs ih =>
    cases ds with
    | nil => simp [List.compareLex]
    | cons d ds =>
      rw [List.compareLex_cons_cons, Ordering.then_eq_eq, ih, Nat.compare_eq_eq, Char.toNat_inj,
        List.cons.injEq]

/-- Only a text itself comes neither before nor behind it. -/
theorem order_eq_iff {s t : String} : order s t = .eq ↔ s = t := by
  rw [order, compareLex_eq_iff, String.toList_inj]

/-- `s` with spaces after it up to the given width. -/
def padRight (width : Nat) (s : String) : String :=
  s ++ String.ofList (List.replicate (width - s.length) ' ')

/-- `s` with spaces before it up to the given width. -/
def padLeft (width : Nat) (s : String) : String :=
  String.ofList (List.replicate (width - s.length) ' ') ++ s

end Criteria.Text
