import OpenApi.Decimal.Literal
import OpenApi.Json.Basic
/-! What the text of a scalar without quotes stands for: null, a flag, a number, or itself. -/
namespace OpenApi.Yaml.Scalar

def isNull (text : String) : Bool := ["null", "Null", "NULL", "~"].contains text

def bool? (text : String) : Option Bool :=
  if ["true", "True", "TRUE"].contains text then some true
  else if ["false", "False", "FALSE"].contains text then some false
  else none

def digitIn? (radix : Nat) (c : Char) : Option Nat :=
  let d :=
    if c.isDigit then c.toNat - '0'.toNat
    else if 'a' ≤ c ∧ c ≤ 'f' then c.toNat - 'a'.toNat + 10
    else if 'A' ≤ c ∧ c ≤ 'F' then c.toNat - 'A'.toNat + 10
    else radix
  if d < radix then some d else none

def digits? (radix : Nat) (text : List Char) : Option Nat :=
  if text.isEmpty then none
  else text.foldlM (fun n c => (digitIn? radix c).map (radix * n + ·)) 0

def isPadded (digits : List Char) : Bool :=
  1 < digits.length && digits.head? = some '0' && digits.all Char.isDigit

def magnitude? (text : List Char) : Option Nat :=
  let radical := match text with
    | '0' :: 'x' :: rest => digits? 16 rest
    | '0' :: 'o' :: rest => digits? 8 rest
    | '0' :: 'b' :: rest => digits? 2 rest
    | _ => none
  radical.or (if isPadded text then none else digits? 10 text)

def unsign : List Char → List Char
  | '-' :: rest => rest
  | '+' :: rest => rest
  | rest => rest

def int? (text : List Char) : Option Int :=
  match text with
  | '-' :: rest => (magnitude? rest).map fun n => -(n : Int)
  | '+' :: rest => (magnitude? rest).map fun n => (n : Int)
  | rest => (magnitude? rest).map fun n => (n : Int)

def isBoundless (text : String) : Bool :=
  [".inf", ".Inf", ".INF", "+.inf", "+.Inf", "+.INF", "-.inf", "-.Inf", "-.INF",
    ".nan", ".NaN", ".NAN"].contains text

def float? (text : String) : Option Json :=
  if isBoundless text then some .null
  else do
    let l ← Decimal.literal? text.toList
    if Decimal.isFinite l.bits then some (.number (.float l.bits)) else none

/-- The value of an integer. It has none where it does not fit into the range of integers but into
twice its bits; beyond them a text is no integer. -/
def intValue? (i : Int) : Option (Option Json) :=
  if Json.Number.isInt i then some (some (.number (.int i)))
  else if -0x80000000000000000000000000000000 ≤ i ∧ i ≤ 0xFFFFFFFFFFFFFFFFFFFFFFFFFFFFFFFF then
    some none
  else none

def value? (text : String) : Option Json :=
  if text.isEmpty || isNull text then some .null
  else match bool? text, (int? text.toList).bind intValue? with
    | some b, _ => some (.bool b)
    | none, some value => value
    | none, none =>
      if isPadded (unsign text.toList) then some (.string text)
      else some ((float? text).getD (.string text))

end OpenApi.Yaml.Scalar
