import OpenApi.Url.Domain.Basic
/-! Hosts of web addresses: names, the two kinds of number address, and the uninterpreted hosts of
schemes that are not of the web. -/
namespace OpenApi.Url

inductive Host where
  | name (text : List Char)
  | four (address : Nat)
  | six (pieces : List Nat)
  | raw (text : List Char)
  deriving DecidableEq, Repr

def inBase? (base : Nat) (digits : List Char) : Option Nat :=
  digits.foldlM (fun n c => do
    let d ← Text.Percent.hexValue? c
    if d < base then some (base * n + d) else none) 0

def part? : List Char → Option Nat
  | [] => none
  | '0' :: 'x' :: digits | '0' :: 'X' :: digits => inBase? 16 digits
  | '0' :: c :: digits => inBase? 8 (c :: digits)
  | digits => inBase? 10 digits

def dotted (text : List Char) : List (List Char) :=
  let parts := Text.splitAtEach '.' text
  if 1 < parts.length ∧ parts.getLast? = some [] then parts.dropLast else parts

def endsInNumber (text : List Char) : Bool :=
  match (dotted text).getLast? with
  | none => false
  | some [] => false
  | some part => part.all Char.isDigit || (part? part).isSome

def four? (text : List Char) : Option Nat := do
  let parts ← (dotted text).mapM part?
  let last ← parts.getLast?
  let front := parts.dropLast
  if 4 < parts.length ∨ front.any (255 < ·) ∨ 1 <<< (8 * (5 - parts.length)) ≤ last then none
  else some (front.foldl (256 * · + ·) 0 <<< (8 * (4 - front.length)) + last)

def octet? (text : List Char) : Option Nat :=
  if text.isEmpty ∨ !text.all Char.isDigit ∨ (1 < text.length ∧ text.head? = some '0') then none
  else (inBase? 10 text).filter (· < 256)

def pieces? : List (List Char) → Option (List Nat)
  | [] => some []
  | [last] =>
    if last.contains '.' then do
      let octets ← (Text.splitAtEach '.' last).mapM octet?
      match octets with
      | [a, b, c, d] => some [a * 256 + b, c * 256 + d]
      | _ => none
    else (piece? last).map fun n => [n]
  | first :: rest => do some ((← piece? first) :: (← pieces? rest))
where
  piece? (text : List Char) : Option Nat :=
    if text.isEmpty ∨ 4 < text.length then none else inBase? 16 text

def splitGap? : List Char → Option (List Char × List Char)
  | ':' :: ':' :: rest => some ([], rest)
  | c :: rest => (splitGap? rest).map fun (before, after) => (c :: before, after)
  | [] => none

def group? (text : List Char) : Option (List Nat) :=
  if text.isEmpty then some [] else pieces? (Text.splitAtEach ':' text)

def six? (text : List Char) : Option (List Nat) :=
  match splitGap? text with
  | none => (group? text).filter (·.length = 8)
  | some (before, after) => do
    let front ← group? before
    let back ← group? after
    if before.contains '.' ∨ 7 < front.length + back.length then none
    else some (front ++ List.replicate (8 - front.length - back.length) 0 ++ back)

def bracketed? (text : List Char) : Option Host :=
  if text.getLast? = some ']' then (six? (text.drop 1).dropLast).map .six else none

def Host.ofWeb? (text : List Char) : Option Host :=
  if text.head? = some '[' then bracketed? text
  else do
    let name ← Domain.ofText? (Text.Percent.decode text)
    if name.isEmpty then none
    else if endsInNumber name then (four? name).map .four
    else some (.name name)

def Host.raw? (text : List Char) : Option Host :=
  if text.head? = some '[' then bracketed? text
  else if text.any Domain.isForbiddenInHost then none
  else some (.raw (Text.Percent.encode (fun c => 0x20 ≤ c.toNat && c.toNat < 0x7F) text))

end OpenApi.Url
