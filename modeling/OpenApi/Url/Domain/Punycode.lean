import OpenApi.Text.Split
/-! Labels beyond ASCII in ASCII: the ASCII characters first, then, behind the last hyphen, where the
others go. Each of those is a number in digits of a base of 36 whose thresholds adapt. -/
namespace OpenApi.Url.Domain.Punycode

def digit? (c : Char) : Option Nat :=
  if 'a' ≤ c ∧ c ≤ 'z' then some (c.toNat - 'a'.toNat)
  else if 'A' ≤ c ∧ c ≤ 'Z' then some (c.toNat - 'A'.toNat)
  else if c.isDigit then some (c.toNat - '0'.toNat + 26)
  else none

def threshold (place bias : Nat) : Nat :=
  if place ≤ bias then 1 else if bias + 26 ≤ place then 26 else place - bias

def scaleDown : (fuel : Nat) → (delta place : Nat) → Nat
  | 0, _, place => place
  | fuel + 1, delta, place =>
    if 455 < delta then scaleDown fuel (delta / 35) (place + 36)
    else place + 36 * delta / (delta + 38)

def adapt (delta count : Nat) (first : Bool) : Nat :=
  let delta := if first then delta / 700 else delta / 2
  let delta := delta + delta / count
  scaleDown delta delta 0

/-- What was decoded so far, and the number under way: `index` is its value on top of where the last
one left off, at `start`. -/
structure Decoding where
  text : List Char
  point : Nat
  index : Nat
  start : Nat
  weight : Nat
  place : Nat
  bias : Nat

namespace Decoding

def begin (text : List Char) : Decoding := ⟨text, 128, 0, 0, 1, 36, 72⟩

def insert? (d : Decoding) : Option Decoding :=
  let count := d.text.length + 1
  let point := d.point + d.index / count
  let spot := d.index % count
  if point.isValidChar then
    some ⟨d.text.insertIdx spot (Char.ofNat point), point, spot + 1, spot + 1, 1, 36,
      adapt (d.index - d.start) count (d.start = 0)⟩
  else none

def take? (d : Decoding) (c : Char) : Option Decoding := do
  let digit ← digit? c
  let index := d.index + digit * d.weight
  let least := threshold d.place d.bias
  let weight := d.weight * (36 - least)
  if UInt32.size ≤ index then none
  else if digit < least then insert? { d with index := index }
  else if UInt32.size ≤ weight then none
  else some { d with index := index, weight := weight, place := d.place + 36 }

end Decoding

def decode? (code : List Char) : Option (List Char) := do
  let (front, digits) := match Text.splitAtFirst? '-' code.reverse with
    | some (back, front) => if front.isEmpty then ([], code) else (front.reverse, back.reverse)
    | none => ([], code)
  let d ← digits.foldlM Decoding.take? (.begin front)
  if d.weight = 1 then some d.text else none

end OpenApi.Url.Domain.Punycode
