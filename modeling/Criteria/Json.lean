import Criteria.Number.Double
import Criteria.Table

/-!
JSON values. Integers and other numbers are kept apart, and the fields of an object are a table. How
they are read from texts and written is a parameter.
-/
namespace Criteria

inductive Json where
  | null
  | bool (b : Bool)
  | integer (n : Int)
  | real (x : Number.Double)
  | text (s : String)
  | array (items : List Json)
  | object (fields : List (String × Json))

namespace Json

/-- What a value is called in messages. -/
def typeName : Json → String
  | null => "null"
  | bool _ => "boolean"
  | integer _ => "number"
  | real _ => "number"
  | text _ => "string"
  | array _ => "array"
  | object _ => "object"

/-- An object with the given fields. -/
def ofFields (fields : List (String × Json)) : Json := object (Table.ofList fields)

def ofStrings (items : List String) : Json := array (items.map text)

end Json

/-- How JSON values are read and written. -/
class JsonFormat where
  /-- Reads the value of a text, or says why it has none. -/
  read : String → Except String Json
  /-- The text of a value over several lines. -/
  pretty : Json → String

end Criteria
