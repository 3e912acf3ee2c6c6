import OpenApi.Json.Text
import OpenApi.Text.Quoted
/-! Reading typed values out of JSON. A record is an object that holds its members under their names, or
an array that holds them in the order in which the record declares them; in an array the last ones may
be left out, but not those that are needed, which are declared first. The first member that does not fit
decides; members that are missing are found last. -/
namespace OpenApi.Json

inductive Mismatch where
  | wrongType (found : Json) (expected : String)
  | wrongValue (found : Json) (expected : String)
  | missing (member : String)
  | wrongLength (length : Nat) (expected : String)
  | unknown (choice : String) (known : List String)
  deriving Repr

def shape : Json → String
  | .null => "null"
  | .bool b => "boolean `" ++ (if b then "true" else "false") ++ "`"
  | .number (.int i) => "integer `" ++ toString i ++ "`"
  | .number (.float bits) => "floating point `" ++ (Number.float bits).text ++ "`"
  | .string s => "string " ++ Text.quoted s
  | .array _ => "sequence"
  | .object _ => "map"

def Mismatch.message : Mismatch → String
  | .wrongType found expected => "invalid type: " ++ found.shape ++ ", expected " ++ expected
  | .wrongValue found expected => "invalid value: " ++ found.shape ++ ", expected " ++ expected
  | .missing member => "missing field `" ++ member ++ "`"
  | .wrongLength length expected => "invalid length " ++ toString length ++ ", expected " ++ expected
  | .unknown choice known =>
    "unknown variant `" ++ choice ++ "`, expected one of " ++
      ", ".intercalate (known.map fun k => "`" ++ k ++ "`")

abbrev Decoded (α : Type) := Except Mismatch α

namespace Decode

def text : Json → Decoded String
  | .string s => .ok s
  | value => .error (.wrongType value "a string")

def bool : Json → Decoded Bool
  | .bool b => .ok b
  | value => .error (.wrongType value "a boolean")

def nat : Json → Decoded Nat
  | .number (.int i) =>
    if 0 ≤ i then .ok i.toNat else .error (.wrongValue (.number (.int i)) "u64")
  | value => .error (.wrongType value "u64")

def number : Json → Decoded Number
  | .number n => .ok n
  | value => .error (.wrongType value "a JSON number")

def items : Json → Decoded (List Json)
  | .array items => .ok items
  | value => .error (.wrongType value "a sequence")

def texts (value : Json) : Decoded (List String) := do
  (← items value).mapM text

def textSet : Json → Decoded (List String)
  | .array items => do return (← items.mapM text).foldl addNew []
  | value => .error (.wrongType value "a set")

def fields : Json → Decoded (Fields Json)
  | .object fields => .ok fields
  | value => .error (.wrongType value "a map")

def fieldsOf {α : Type} (read : Json → Decoded α) (value : Json) : Decoded (Fields α) := do
  (← fields value).mapM fun field => return (field.1, ← read field.2)

def optional {α : Type} (read : Json → Decoded α) : Json → Decoded (Option α)
  | .null => .ok none
  | value => (read value).map some

def known {α : Type} (choices : List (String × α)) (word : String) : Decoded α :=
  match Fields.get? word choices with
  | some choice => .ok choice
  | none => .error (.unknown word (Fields.keys choices))

/-- One of several words; the word may also be the only member of an object and hold null. -/
def choice {α : Type} (choices : List (String × α)) : Json → Decoded α
  | .string word => known choices word
  | .object [(word, value)] => do
    let choice ← known choices word
    if value.isNull then .ok choice else .error (.wrongType value "unit")
  | .object fields => .error (.wrongValue (.object fields) "map with a single key")
  | value => .error (.wrongType value "string or map")

def required {α : Type} (member : String) : Option α → Decoded α
  | some value => .ok value
  | none => .error (.missing member)

def elements (count : Nat) : String :=
  toString count ++ if count = 1 then " element" else " elements"

def record {α δ : Type} (what : String) (needed others : List String)
    (put : δ → String × Json → Decoded δ) (blank : δ) (close : δ → Decoded α) : Json → Decoded α
  | .object fields => do close (← fields.foldlM put blank)
  | .array items => do
    let members := needed ++ others
    let d ← (members.zip items).foldlM put blank
    if items.length < needed.length then
      .error (.wrongLength items.length (what ++ " with " ++ elements members.length))
    else
      let made ← close d
      -- Too many items are an error only after all that have a place were read.
      if members.length < items.length then
        .error (.wrongLength items.length "fewer elements in array")
      else return made
  | value => .error (.wrongType value what)

end Decode
end OpenApi.Json
