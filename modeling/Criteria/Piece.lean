import Criteria.Clause

/-!
Pieces of a condition: what its tokens say one after another, before groups are formed. A name that
a vocabulary knows begins a clause, and the clause takes the tokens that its shape asks for. A
clause that does not get them is malformed, and only the tokens that were good for something are
passed over.
-/
namespace Criteria

/-- The names that begin clauses, with the shape and the predicate of each, and those that are no
values. -/
structure Vocabulary where
  classify : String → Option (PredicateKind × String)
  isKnown : String → Bool

/-- Why a clause is dropped. -/
inductive Flaw where
  | noArguments
  | symbolArgument (s : Symbol)
  | openArguments
  | noComparator
  | noValue
  | symbolValue (token : String)
  | nameValue (token : String)
deriving DecidableEq

namespace Flaw

def message : Flaw → String
  | noArguments => "expected '(' after method name"
  | symbolArgument s => "operator '" ++ s.text ++ "' is not allowed as an argument"
  | openArguments => "unterminated argument list"
  | noComparator => "expected a comparison operator"
  | noValue => "expected a value after the operator"
  | symbolValue token => "operator '" ++ token ++ "' is not a value"
  | nameValue token => "predicate name '" ++ token ++ "' is not a value"

end Flaw

inductive Piece where
  | join (j : Join)
  | negation
  | opening
  | closing
  /-- A comparator with no clause in front of it. -/
  | stray (c : Comparator)
  | clause (c : Clause)
  | malformed (token : String) (kind : ClauseKind) (flaw : Flaw)
  | unrecognized (token : String)
deriving DecidableEq

namespace Piece

/-- The predicate behind the literals `true` and `false`. -/
def literalMethod : String := "GetBoolean"

/-- Arguments up to the parenthesis that closes them, with the number of tokens passed over. -/
def argumentList : List String → Except Flaw (List String × Nat)
  | [] => .error .openArguments
  | t :: rest =>
    match Symbol.ofToken? t with
    | some .closeParen => .ok ([], 1)
    | some s => .error (.symbolArgument s)
    | none => (argumentList rest).map fun (params, n) => (t :: params, n + 1)

/-- Arguments in parentheses. -/
def arguments : List String → Except Flaw (List String × Nat)
  | [] => .error .noArguments
  | t :: rest =>
    if Symbol.ofToken? t = some .openParen then
      (argumentList rest).map fun (params, n) => (params, n + 1)
    else .error .noArguments

/-- A comparator and the literal behind it. -/
def comparison (v : Vocabulary) : List String → Except Flaw (Comparator × String)
  | [] => .error .noComparator
  | t :: rest =>
    match (Symbol.ofToken? t).bind Symbol.comparator?, rest with
    | none, _ => .error .noComparator
    | some _, [] => .error .noValue
    | some c, value :: _ =>
      if (Symbol.ofToken? value).isSome then .error (.symbolValue value)
      else if v.isKnown value then .error (.nameValue value)
      else .ok (c, value)

/-- Whether arguments are read: they are needed, or begin behind a name of a scope. -/
def readsArguments (kind : PredicateKind) (rest : List String) : Bool :=
  (ClauseKind.call kind).needsArguments ||
    kind == .scope && rest.head?.bind Symbol.ofToken? == some .openParen

/-- Whether a comparison is read: it is needed, or begins behind a name of a scope. -/
def readsComparison (kind : PredicateKind) (rest : List String) : Bool :=
  (ClauseKind.call kind).needsComparison ||
    kind == .scope && ((rest.head?.bind Symbol.ofToken?).bind Symbol.comparator?).isSome

/-- The arguments of a clause of the given shape, if it reads any. -/
def argumentsFor (kind : PredicateKind) (rest : List String) : Except Flaw (List String × Nat) :=
  if readsArguments kind rest then arguments rest else .ok ([], 0)

/-- The comparison of a clause of the given shape, if it reads one, with the number of tokens passed
over. -/
def comparisonFor (v : Vocabulary) (kind : PredicateKind) (rest : List String) :
    Except Flaw (Operator × String × Nat) :=
  if readsComparison kind rest then
    (comparison v rest).map fun (c, value) => (some c, value, 2)
  else .ok (none, "", 0)

/-- The clause that a name begins, with the number of further tokens passed over. -/
def call (v : Vocabulary) (kind : PredicateKind) (method keyword : String) (rest : List String) :
    Piece × Nat :=
  match argumentsFor kind rest with
  | .error flaw => (malformed keyword (.call kind) flaw, 0)
  | .ok (params, n) =>
    match comparisonFor v kind (rest.drop n) with
    | .error flaw => (malformed keyword (.call kind) flaw, n)
    | .ok (operator, value, m) =>
      (clause { keyword, kind := .call kind, method, operator, value, params }, n + m)

/-- The clause of a literal. -/
def literal (token : String) : Clause :=
  { keyword := token, kind := .literal, method := literalMethod, value := token }

/-- A piece that begins with a token that is no symbol. -/
def word (v : Vocabulary) (token : String) (rest : List String) : Piece × Nat :=
  if (Value.bool? token).isSome then (clause (literal token), 0)
  else match v.classify token with
    | some (kind, method) => call v kind method token rest
    | none => (unrecognized token, 0)

/-- The piece that begins with a token, with the number of further tokens passed over. -/
def first (v : Vocabulary) (token : String) (rest : List String) : Piece × Nat :=
  match Symbol.ofToken? token with
  | some .and => (join .and, 0)
  | some .or => (join .or, 0)
  | some .not => (negation, 0)
  | some .openParen => (opening, 0)
  | some .closeParen => (closing, 0)
  | some (.compare c) => (stray c, 0)
  | none => word v token rest

/-- All pieces of a list of tokens, each with the number of tokens that it passes over. -/
def scan (v : Vocabulary) : List String → List (Piece × Nat)
  | [] => []
  | token :: rest =>
    let (piece, n) := first v token rest
    (piece, n + 1) :: scan v (rest.drop n)
termination_by tokens => tokens.length
decreasing_by simp only [List.length_drop, List.length_cons]; omega

@[simp] theorem scan_nil (v : Vocabulary) : scan v [] = [] := by rw [scan]

theorem scan_cons (v : Vocabulary) (token : String) (rest : List String) :
    scan v (token :: rest) =
      ((first v token rest).1, (first v token rest).2 + 1) ::
        scan v (rest.drop (first v token rest).2) := by
  rw [scan]

end Piece

end Criteria
