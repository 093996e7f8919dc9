import Criteria.Command.Arguments
import Criteria.Command.Check
import Criteria.Command.Inspect
import Criteria.Command.Topics

/-!
The program: what its arguments ask for, and what it answers. Facts come with the arguments, from a
file, or else from the standard input; whoever runs the program fetches them.
-/
namespace Criteria.Command

/-- Where facts come from. -/
inductive FactsFrom where
  | given (text : String)
  | file (path : String)
  | input
deriving DecidableEq

inductive Request where
  | check (condition : String) (facts : FactsFrom) (explain : Bool)
  | tokens (condition : String) (format : Format)
  | tree (condition : String) (format : Format)
  | docs (topic : Option String)
deriving DecidableEq

/-- What is asked for, and whether all events are to be shown. -/
structure Invocation where
  request : Request
  verbose : Bool := false
deriving DecidableEq

def helpName : ArgName := { long := "help", short := some 'h' }
def verboseName : ArgName := { long := "verbose", short := some 'v' }

/-- The names in front of a command. -/
def rootSignature : Signature :=
  { switches := [helpName, verboseName, { long := "version", short := some 'V' }] }

def checkSignature : Signature :=
  { switches := [helpName, verboseName, { long := "explain" }]
    options := [{ long := "facts", short := some 'f' }, { long := "facts-file", nonEmpty := true }]
    words := 1 }

def showSignature : Signature :=
  { switches := [helpName, verboseName, { long := "json" }], words := 1 }

def docsSignature : Signature := { switches := [helpName, verboseName], words := 1 }

/-- The condition among the arguments, which has to be there. -/
def conditionOf (v : ArgValues) : Except ArgStop String :=
  match v.words with
  | s :: _ => .ok s
  | [] => .error (.missing "<CONDITION>")

def formatOf (v : ArgValues) : Format := if v.has "json" then .json else .text

/-- The source of facts. Facts and a file of facts exclude each other. -/
def factsFrom (v : ArgValues) : Except ArgStop FactsFrom :=
  match v.option? "facts", v.option? "facts-file" with
  | some _, some _ => .error (.conflict "--facts" "--facts-file")
  | some s, none => .ok (.given s)
  | none, some path => .ok (.file path)
  | none, none => .ok .input

/-- What may be asked about behind `help`: the commands, and help itself. -/
def commandNames : List String := ["check", "tokens", "tree", "docs", "help"]

/-- What comes of a call for help, which is about all or about one command. -/
def helpStop : List String → ArgStop
  | [] => .help
  | [name] => if commandNames.contains name then .help else .unknown name
  | name :: next :: _ => .unknown (if commandNames.contains name then next else name)

/-- The request of a command and its arguments. -/
def readCommand (command : String) (args : List String) : Except ArgStop Invocation := do
  let read (g : Signature) := readArgs g {} none false args
  if command = "check" then
    let v ← read checkSignature
    let facts ← factsFrom v
    let condition ← conditionOf v
    return ⟨.check condition facts (v.has "explain"), v.has "verbose"⟩
  else if command = "tokens" then
    let v ← read showSignature
    let condition ← conditionOf v
    return ⟨.tokens condition (formatOf v), v.has "verbose"⟩
  else if command = "tree" then
    let v ← read showSignature
    let condition ← conditionOf v
    return ⟨.tree condition (formatOf v), v.has "verbose"⟩
  else if command = "docs" then
    let v ← read docsSignature
    return ⟨.docs v.words.head?, v.has "verbose"⟩
  else if command = "help" then .error (helpStop args)
  else .error (.unknown command)

/-- The request of all arguments. Names in front of the command are the program's own. -/
def readInvocation (args : List String) : Except ArgStop Invocation := do
  let own := args.takeWhile looksLikeName
  let v ← readArgs rootSignature {} none false own
  if own.contains "--" then .error (.missing "<COMMAND>")
  match args.dropWhile looksLikeName with
  | [] => .error (.missing "<COMMAND>")
  | command :: rest =>
    let i ← readCommand command rest
    return { i with verbose := i.verbose || v.has "verbose" }

/-- What the program leaves behind: its exit code, what it prints, and the events on the way. -/
structure Answer where
  code : Nat := 0
  out : String := ""
  err : String := ""
  events : List Event := []

variable [Number.Decimals] [PatternEngine] [JsonFormat]

def Answer.ofFault (f : Fault) : Answer := { code := 1, err := f.message ++ "\n" }

/-- The answer to a check, with the expressions in front of it if they are asked for. -/
def checkAnswer (condition : String) (facts : Option String) (explain : Bool) : Answer :=
  match check condition facts with
  | .error f => .ofFault f
  | .ok r =>
    let tree := JsonFormat.pretty (Record.numberedTree r.numbers r.expressions) ++ "\n"
    { out := (if explain then tree else "") ++ (if r.satisfied then "true" else "false") ++ "\n"
      events := r.events }

/-- The answer to a request, given the facts that it takes from elsewhere. -/
def answer (r : Request) (facts : Except Fault (Option String)) : Answer :=
  match r with
  | .check condition _ explain =>
    match facts with
    | .error f => .ofFault f
    | .ok facts => checkAnswer condition facts explain
  | .tokens condition format => { out := showTokens condition format }
  | .tree condition format =>
    { out := showTree FactSheet.registry condition format
      events := parseEvents FactSheet.registry.vocabulary (tokenize condition) }
  | .docs none => { out := overview }
  | .docs (some topic) =>
    match topicText topic with
    | .error f => .ofFault f
    | .ok s => { out := s }

/-- The facts of a source, where `file` and `input` read from elsewhere. -/
def fetch {m : Type → Type} [Monad m] (file : String → m (Except ReadFault String))
    (input : m (Except ReadFault (Option String))) : FactsFrom → m (Except Fault (Option String))
  | .given s => pure (.ok (some s))
  | .file path => do return ((← file path).mapError (.factsFile path)).map some
  | .input => do return (← input).mapError .input

def versionText : String := "clause 0.1.0\n"

def usageText : String :=
  "Usage: clause [OPTIONS] <COMMAND>\n\n" ++
  "Commands:\n" ++
  "  check   Evaluate a condition against a set of facts\n" ++
  "  tokens  Print the token stream of a condition\n" ++
  "  tree    Print the parsed expression tree of a condition\n" ++
  "  docs    List documentation topics, or show one\n"

/-- What is said about arguments that are not accepted. -/
def ArgStop.message : ArgStop → String
  | help => ""
  | version => ""
  | unknown arg => "unexpected argument '" ++ arg ++ "' found"
  | repeated name => "the argument '--" ++ name ++ "' cannot be used multiple times"
  | noValue name => "a value is required for '--" ++ name ++ "' but none was supplied"
  | unwantedValue name => "unexpected value for '--" ++ name ++ "' found; no more were expected"
  | extraWord word => "unexpected argument '" ++ word ++ "' found"
  | missing what => "the following required arguments were not provided: " ++ what
  | conflict first second =>
    "the argument '" ++ first ++ "' cannot be used with '" ++ second ++ "'"

/-- The answer to arguments that ask for nothing else. -/
def Answer.ofStop : ArgStop → Answer
  | .help => { out := usageText }
  | .version => { out := versionText }
  | stop => { code := 2, err := "error: " ++ stop.message ++ "\n\n" ++ usageText }

end Criteria.Command
