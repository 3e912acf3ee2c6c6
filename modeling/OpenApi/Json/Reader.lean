import OpenApi.Decimal.Literal
import OpenApi.Json.Basic
/-! Reading JSON text. Readers take the rest of the text and return what they leave of it. -/
namespace OpenApi.Json
namespace Reader

abbrev Text := List Char

def skipBlank : Text → Text
  | c :: rest => if c = ' ' ∨ c = '\n' ∨ c = '\r' ∨ c = '\t' then skipBlank rest else c :: rest
  | [] => []

def hexValue? (c : Char) : Option Nat :=
  if '0' ≤ c ∧ c ≤ '9' then some (c.toNat - '0'.toNat)
  else if 'a' ≤ c ∧ c ≤ 'f' then some (c.toNat - 'a'.toNat + 10)
  else if 'A' ≤ c ∧ c ≤ 'F' then some (c.toNat - 'A'.toNat + 10)
  else none

def hex4? (a b c d : Char) : Option Nat := do
  return (((← hexValue? a) * 16 + (← hexValue? b)) * 16 + (← hexValue? c)) * 16 + (← hexValue? d)

def letter? : Char → Option Char
  | '"' => some '"'
  | '\\' => some '\\'
  | '/' => some '/'
  | 'b' => some '\x08'
  | 'f' => some '\x0c'
  | 'n' => some '\n'
  | 'r' => some '\r'
  | 't' => some '\t'
  | _ => none

def pair? (unit : Nat) (next : Option Nat) : Option (Char × Bool) :=
  if unit < 0xD800 ∨ 0xE000 ≤ unit then some (Char.ofNat unit, false)
  else match next with
    | some low =>
      if unit < 0xDC00 ∧ 0xDC00 ≤ low ∧ low < 0xE000 then
        some (Char.ofNat (0x10000 + (unit - 0xD800) * 0x400 + (low - 0xDC00)), true)
      else none
    | none => none

def chars? : Text → Option (Text × Text)
  | '"' :: rest => some ([], rest)
  | '\\' :: 'u' :: a :: b :: c :: d :: '\\' :: 'u' :: e :: f :: g :: h :: rest => do
    let (ch, both) ← pair? (← hex4? a b c d) (hex4? e f g h)
    if both then
      let (tail, left) ← chars? rest
      some (ch :: tail, left)
    else
      let (tail, left) ← chars? ('\\' :: 'u' :: e :: f :: g :: h :: rest)
      some (ch :: tail, left)
  | '\\' :: 'u' :: a :: b :: c :: d :: rest => do
    let (ch, _) ← pair? (← hex4? a b c d) none
    let (tail, left) ← chars? rest
    some (ch :: tail, left)
  | '\\' :: l :: rest => do
    let ch ← letter? l
    let (tail, left) ← chars? rest
    some (ch :: tail, left)
  | c :: rest =>
    if c.toNat < 0x20 then none
    else do
      let (tail, left) ← chars? rest
      some (c :: tail, left)
  | [] => none
termination_by t => t.length

def isNumberChar (c : Char) : Bool :=
  c.isDigit || c = '-' || c = '+' || c = '.' || c = 'e' || c = 'E'

def number? (text : Text) : Option Number := do
  let l ← Decimal.literal? text
  if l.whole.isEmpty ∨ text.head? = some '+' ∨ (l.pointed ∧ l.fraction.isEmpty) ∨
      (1 < l.whole.length ∧ l.whole.head? = some '0') then none
  else
    let i : Int := if l.negative then -(l.mantissa : Int) else l.mantissa
    if l.pointed ∨ l.scientific ∨ (l.negative ∧ i = 0) ∨ !Number.isInt i then
      if Decimal.isFinite l.bits then some (.float l.bits) else none
    else some (.int i)

def word? (word : String) (value : Json) (text : Text) : Option (Json × Text) :=
  if word.toList.isPrefixOf text then some (value, text.drop word.length) else none

mutual
def value? : Nat → Text → Option (Json × Text)
  | 0, _ => none
  | depth + 1, text =>
    match skipBlank text with
    | '"' :: rest => (chars? rest).map fun (s, left) => (.string (String.ofList s), left)
    | '[' :: rest =>
      match skipBlank rest with
      | ']' :: left => some (.array [], left)
      | rest => (items? depth rest).map fun (items, left) => (.array items, left)
    | '\x7b' :: rest =>
      match skipBlank rest with
      | '\x7d' :: left => some (.object [], left)
      | rest => (members? depth rest).map fun (ms, left) => (.object (Fields.ofList ms), left)
    | 't' :: rest => word? "true" (.bool true) ('t' :: rest)
    | 'f' :: rest => word? "false" (.bool false) ('f' :: rest)
    | 'n' :: rest => word? "null" .null ('n' :: rest)
    | rest => do
      let n ← number? (rest.takeWhile isNumberChar)
      some (.number n, rest.dropWhile isNumberChar)
def items? : Nat → Text → Option (List Json × Text)
  | 0, _ => none
  | depth + 1, text => do
    let (item, rest) ← value? depth text
    match skipBlank rest with
    | ']' :: left => some ([item], left)
    | ',' :: rest =>
      let (items, left) ← items? depth rest
      some (item :: items, left)
    | _ => none
def members? : Nat → Text → Option (List (String × Json) × Text)
  | 0, _ => none
  | depth + 1, text =>
    match skipBlank text with
    | '"' :: rest => do
      let (key, rest) ← chars? rest
      match skipBlank rest with
      | ':' :: rest =>
        let (value, rest) ← value? depth rest
        match skipBlank rest with
        | '\x7d' :: left => some ([(String.ofList key, value)], left)
        | ',' :: rest =>
          let (members, left) ← members? depth rest
          some ((String.ofList key, value) :: members, left)
        | _ => none
      | _ => none
    | _ => none
end

end Reader

def read? (text : String) : Option Json := do
  let chars := text.toList
  let (value, rest) ← Reader.value? (2 * chars.length + 2) chars
  if (Reader.skipBlank rest).isEmpty then some value else none

end OpenApi.Json
