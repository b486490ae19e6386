import FieldLogic.Number.Binary64

/-! JSON documents. An object keeps its members as they are written, names that come again included. -/

namespace FieldLogic.Json
open Number

inductive Document where
  | null
  | bool (value : Bool)
  /-- An integer numeral of at most 64 bits. -/
  | integer (value : Int)
  | number (value : Binary64)
  | string (value : String)
  | array (items : List Document)
  | object (members : List (String × Document))
deriving Inhabited

namespace Document

def kind : Document → String
  | null => "null"
  | bool _ => "bool"
  | integer _ | number _ => "number"
  | string _ => "string"
  | array _ => "array"
  | object _ => "object"

end Document

end FieldLogic.Json
