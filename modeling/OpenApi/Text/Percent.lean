/-! Percent escapes and the octets they stand for. Octet runs that are not well-formed UTF-8 give
one replacement character for each longest ill-formed start. -/
namespace OpenApi.Text.Percent

def hexValue? (c : Char) : Option Nat :=
  if '0' ≤ c ∧ c ≤ '9' then some (c.toNat - '0'.toNat)
  else if 'a' ≤ c ∧ c ≤ 'f' then some (c.toNat - 'a'.toNat + 10)
  else if 'A' ≤ c ∧ c ≤ 'F' then some (c.toNat - 'A'.toNat + 10)
  else none

def octet? (high low : Char) : Option Nat := do
  return (← hexValue? high) * 16 + (← hexValue? low)

def replacement : Char := '\ufffd'

structure Open where
  value : Nat
  owed : Nat
  least : Nat
  greatest : Nat

inductive Start where
  | whole (c : Char)
  | lead (o : Open)
  | none

def start (b : Nat) : Start :=
  if b < 0x80 then .whole (Char.ofNat b)
  else if b < 0xC2 then .none
  else if b < 0xE0 then .lead ⟨b - 0xC0, 1, 0x80, 0xBF⟩
  else if b < 0xF0 then
    .lead ⟨b - 0xE0, 2, if b = 0xE0 then 0xA0 else 0x80, if b = 0xED then 0x9F else 0xBF⟩
  else if b < 0xF5 then
    .lead ⟨b - 0xF0, 3, if b = 0xF0 then 0x90 else 0x80, if b = 0xF4 then 0x8F else 0xBF⟩
  else .none

def decodeFrom : Option Open → List Nat → List Char
  | none, [] => []
  | some _, [] => [replacement]
  | none, b :: rest =>
    match start b with
    | .whole c => c :: decodeFrom none rest
    | .lead o => decodeFrom (some o) rest
    | .none => replacement :: decodeFrom none rest
  | some o, b :: rest =>
    if o.least ≤ b ∧ b ≤ o.greatest then
      let value := o.value * 64 + (b - 0x80)
      if o.owed ≤ 1 then Char.ofNat value :: decodeFrom none rest
      else decodeFrom (some ⟨value, o.owed - 1, 0x80, 0xBF⟩) rest
    else
      replacement :: match start b with
        | .whole c => c :: decodeFrom none rest
        | .lead o => decodeFrom (some o) rest
        | .none => replacement :: decodeFrom none rest

def decodeOctets (octets : List Nat) : List Char := decodeFrom none octets

def decodeRun (octets : List Nat) : List Char → List Char
  -- Reads text whose escapes give octets; `octets` holds those of the current run, last first.
  | '%' :: high :: low :: rest =>
    match octet? high low with
    | some b => decodeRun (b :: octets) rest
    | none => decodeOctets octets.reverse ++ '%' :: decodeRun [] (high :: low :: rest)
  | c :: rest => decodeOctets octets.reverse ++ c :: decodeRun [] rest
  | [] => decodeOctets octets.reverse

def decode (text : List Char) : List Char := decodeRun [] text

def octets (c : Char) : List Nat := (String.singleton c).toUTF8.toList.map UInt8.toNat

def upperHex (n : Nat) : Char := (Nat.digitChar n).toUpper

def encode (plain : Char → Bool) (text : List Char) : List Char :=
  text.flatMap fun c =>
    if plain c then [c] else (octets c).flatMap fun b => ['%', upperHex (b / 16), upperHex (b % 16)]

end OpenApi.Text.Percent
