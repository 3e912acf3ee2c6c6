import OpenApi.Fields
/-! JSON values with ordered objects. Integers and floats are different values even where
they denote the same number. -/
namespace OpenApi

/-- An integer lies in the range `isInt`. A float is held by its binary64 bits. -/
inductive Json.Number where
  | int (value : Int)
  | float (bits : UInt64)
  deriving DecidableEq, Repr

def Json.Number.isInt (i : Int) : Bool := -0x8000000000000000 ≤ i && i ≤ 0xFFFFFFFFFFFFFFFF

inductive Json where
  | null
  | bool (value : Bool)
  | number (value : Json.Number)
  | string (value : String)
  | array (items : List Json)
  | object (fields : List (String × Json))
  deriving Repr, Inhabited

namespace Json

def fields? : Json → Option (Fields Json)
  | .object fields => some fields
  | _ => none

def items? : Json → Option (List Json)
  | .array items => some items
  | _ => none

def string? : Json → Option String
  | .string s => some s
  | _ => none

def bool? : Json → Option Bool
  | .bool b => some b
  | _ => none

def nat? : Json → Option Nat
  | .number (.int i) => if 0 ≤ i then some i.toNat else none
  | _ => none

def isNull : Json → Bool
  | .null => true
  | _ => false

def get? (key : String) : Json → Option Json
  | .object fields => Fields.get? key fields
  | _ => none

def getFields? (key : String) (value : Json) : Option (Fields Json) :=
  (value.get? key).bind fields?

def getItems? (key : String) (value : Json) : Option (List Json) :=
  (value.get? key).bind items?

def getText? (key : String) (value : Json) : Option String :=
  ((value.get? key).bind string?).filter (· ≠ "")

def getBool? (key : String) (value : Json) : Option Bool :=
  (value.get? key).bind bool?

end Json
end OpenApi
