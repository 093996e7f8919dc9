import Criteria.Command.Request
import Criteria.Program

/-!
The program itself: it fetches facts, prints the answer and leaves with its code.
-/
namespace Criteria.Command

/-- The text of a file. -/
def readFile (path : String) : IO (Except ReadFault String) := do
  try
    let bytes ← IO.FS.readBinFile path
    match String.fromUTF8? bytes with
    | some s => return .ok s
    | none => return .error .notText
  catch e =>
    match e with
    | .noFileOrDirectory .. => return .error .missing
    | .inappropriateType _ 20 _ => return .error .notDirectory
    | .inappropriateType .. => return .error .isDirectory
    | .invalidArgument _ 36 _ => return .error .nameTooLong
    | e => return .error (.other e.toString)

/-- The bytes of the standard input up to its end. -/
partial def readAll (stream : IO.FS.Stream) (bytes : ByteArray) : IO ByteArray := do
  let chunk ← stream.read 65536
  if chunk.isEmpty then return bytes
  readAll stream (bytes ++ chunk)

/-- The text of the standard input, unless it is a terminal. -/
def readInput : IO (Except ReadFault (Option String)) := do
  let stream ← IO.getStdin
  if ← stream.isTty then return .ok none
  match String.fromUTF8? (← readAll stream .empty) with
  | some s => return .ok (some s)
  | none => return .error .notText

/-- One line about an event. -/
def eventLine (e : Event) : String :=
  e.level.text ++ " " ++ e.message ++ String.join (e.fields.map fun f => " " ++ f.1 ++ "=" ++ f.2)

/-- Prints an answer. Unless all events are asked for, only warnings and errors are shown. -/
def Answer.print (a : Answer) (verbose : Bool) : IO Unit := do
  for e in a.events do
    if verbose || e.level != .debug then IO.eprintln (eventLine e)
  IO.print a.out
  IO.eprint a.err

/-- Runs the program. -/
def run (args : List String) : IO UInt32 := do
  match readInvocation args with
  | .error stop =>
    let a := Answer.ofStop stop
    a.print false
    return UInt32.ofNat a.code
  | .ok i =>
    let facts ← match i.request with
      | .check _ source _ => fetch readFile readInput source
      | _ => pure (.ok none)
    let a := answer i.request facts
    a.print i.verbose
    return UInt32.ofNat a.code

end Criteria.Command

def main (args : List String) : IO UInt32 := Criteria.Command.run args
