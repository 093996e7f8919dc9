/-!
Arguments of a command line: switches, options with a value, and words. A long name follows two
dashes and may have its value behind an equals sign; short names follow one dash, several of them
together if all but the last are switches. Two dashes alone make everything behind them a word.
-/
namespace Criteria.Command

/-- A name that a command line may use, long and perhaps short. -/
structure ArgName where
  long : String
  short : Option Char := none
  /-- Whether an empty text is no value for it. -/
  nonEmpty : Bool := false
deriving DecidableEq

/-- What a command accepts. -/
structure Signature where
  switches : List ArgName := []
  options : List ArgName := []
  /-- The greatest number of words. -/
  words : Nat := 0

/-- Why arguments are not taken as they are. -/
inductive ArgStop where
  | help
  | version
  | unknown (arg : String)
  | repeated (name : String)
  | noValue (name : String)
  | unwantedValue (name : String)
  | extraWord (word : String)
  | missing (what : String)
  | conflict (first second : String)
deriving DecidableEq

/-- What has been found among the arguments. -/
structure ArgValues where
  switches : List String := []
  options : List (String × String) := []
  words : List String := []

namespace ArgValues

def has (v : ArgValues) (name : String) : Bool := v.switches.contains name

def option? (v : ArgValues) (name : String) : Option String := v.options.lookup name

/-- Adds a switch, which may occur once. -/
def addSwitch (v : ArgValues) (name : String) : Except ArgStop ArgValues :=
  if name = "help" then .error .help
  else if name = "version" then .error .version
  else if v.has name then .error (.repeated name)
  else .ok { v with switches := name :: v.switches }

/-- Adds an option, which may occur once. -/
def addOption (v : ArgValues) (name : ArgName) (value : String) : Except ArgStop ArgValues :=
  if (v.option? name.long).isSome then .error (.repeated name.long)
  else if name.nonEmpty && value.isEmpty then .error (.noValue name.long)
  else .ok { v with options := (name.long, value) :: v.options }

/-- Adds a word, if there may be one more. -/
def addWord (v : ArgValues) (limit : Nat) (word : String) : Except ArgStop ArgValues :=
  if v.words.length < limit then .ok { v with words := v.words ++ [word] }
  else .error (.extraWord word)

end ArgValues

/-- Whether an argument begins like a name. A single dash is a word. -/
def looksLikeName (arg : String) : Bool :=
  match arg.toList with
  | '-' :: _ :: _ => true
  | _ => false

/-- A long name with or without a value. The result may be an option that still waits for its
value. -/
def readLong (g : Signature) (v : ArgValues) (cs : List Char) :
    Except ArgStop (ArgValues × Option ArgName) :=
  let name := String.ofList (cs.takeWhile (· != '='))
  let value := cs.dropWhile (· != '=')
  match g.switches.find? (·.long == name), g.options.find? (·.long == name) with
  | some s, _ =>
    if value.isEmpty then (v.addSwitch s.long).map (·, none) else .error (.unwantedValue name)
  | none, some o =>
    if value.isEmpty then .ok (v, some o)
    else (v.addOption o (String.ofList (value.drop 1))).map (·, none)
  | none, none => .error (.unknown name)

/-- Short names one after another. The rest behind an option is its value. -/
def readShort (g : Signature) (v : ArgValues) :
    List Char → Except ArgStop (ArgValues × Option ArgName)
  | [] => .ok (v, none)
  | c :: rest =>
    match g.switches.find? (·.short == some c), g.options.find? (·.short == some c) with
    | some s, _ =>
      match v.addSwitch s.long with
      | .ok v => readShort g v rest
      | .error e => .error e
    | none, some o =>
      match rest with
      | [] => .ok (v, some o)
      | '=' :: value => (v.addOption o (String.ofList value)).map (·, none)
      | value => (v.addOption o (String.ofList value)).map (·, none)
    | none, none => .error (.unknown (String.singleton c))

/-- Reads the rest of the arguments. `waiting` is the option whose value comes next. -/
def readArgs (g : Signature) (v : ArgValues) (waiting : Option ArgName) (onlyWords : Bool) :
    List String → Except ArgStop ArgValues
  | [] =>
    match waiting with
    | some name => .error (.noValue name.long)
    | none => .ok v
  | arg :: rest =>
    match waiting with
    | some name =>
      if looksLikeName arg then .error (.noValue name.long)
      else
        match v.addOption name arg with
        | .ok v => readArgs g v none onlyWords rest
        | .error e => .error e
    | none =>
      if onlyWords || !looksLikeName arg then
        match v.addWord g.words arg with
        | .ok v => readArgs g v none onlyWords rest
        | .error e => .error e
      else if arg = "--" then readArgs g v none true rest
      else
        let found := match arg.toList with
          | '-' :: '-' :: cs => readLong g v cs
          | cs => readShort g v (cs.drop 1)
        match found with
        | .ok (v, waiting) => readArgs g v waiting onlyWords rest
        | .error e => .error e

end Criteria.Command
