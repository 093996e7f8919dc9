import Criteria.Facts

/-!
What may go wrong with a command, and what is said about it.
-/
namespace Criteria.Command

/-- Why a file or an input cannot be read. -/
inductive ReadFault where
  | missing
  | notText
  | isDirectory
  | notDirectory
  | nameTooLong
  | other (text : String)
deriving DecidableEq

def ReadFault.message : ReadFault → String
  | missing => "No such file or directory (os error 2)"
  | notText => "stream did not contain valid UTF-8"
  | isDirectory => "Is a directory (os error 21)"
  | notDirectory => "Not a directory (os error 20)"
  | nameTooLong => "File name too long (os error 36)"
  | other text => text

inductive Fault where
  | emptyCondition
  | facts (f : FactFault)
  | factsFile (path : String) (f : ReadFault)
  | input (f : ReadFault)
  | unknownTopic (name : String)
deriving DecidableEq

def Fault.message : Fault → String
  | emptyCondition => "Condition is empty"
  | facts f => "Invalid facts: " ++ f.message
  | factsFile path f => "Could not read facts file '" ++ path ++ "': " ++ f.message
  | input f => "IO error: " ++ f.message
  | unknownTopic name =>
    "Unknown topic: '" ++ name ++ "'\nRun 'clause docs' to see available topics."

end Criteria.Command
