/-! Decimal literals and the binary64 value nearest to them. -/
namespace OpenApi.Decimal

def digitValue (c : Char) : Nat := c.toNat - '0'.toNat

def valueOf (digits : List Char) : Nat :=
  digits.foldl (fun n c => 10 * n + digitValue c) 0

structure Literal where
  negative : Bool
  whole : List Char
  fraction : List Char
  exponent : Int
  pointed : Bool
  scientific : Bool

def Literal.mantissa (l : Literal) : Nat := valueOf (l.whole ++ l.fraction)

def Literal.power (l : Literal) : Int := l.exponent - l.fraction.length

def Literal.bits (l : Literal) : UInt64 :=
  let m := l.mantissa
  let lead := l.power + (Nat.toDigits 10 m).length
  let magnitude : UInt64 :=
    if m = 0 ∨ lead < -400 then 0
    else if 400 < lead then 0x7FF0000000000000
    else (Float.ofScientific m (l.power < 0) l.power.natAbs).toBits
  if l.negative then magnitude ||| 0x8000000000000000 else magnitude

def isFinite (bits : UInt64) : Bool := (bits >>> 52) &&& 0x7FF != 0x7FF

def exponent? (text : List Char) : Option Int :=
  let (negative, digits) := match text with
    | '-' :: rest => (true, rest)
    | '+' :: rest => (false, rest)
    | rest => (false, rest)
  if digits.isEmpty || !digits.all Char.isDigit then none
  else some (if negative then -(valueOf digits : Int) else valueOf digits)

def literal? (text : List Char) : Option Literal :=
  let (negative, text) := match text with
    | '-' :: rest => (true, rest)
    | '+' :: rest => (false, rest)
    | rest => (false, rest)
  let whole := text.takeWhile Char.isDigit
  let rest := text.dropWhile Char.isDigit
  let (pointed, fraction, rest) := match rest with
    | '.' :: rest => (true, rest.takeWhile Char.isDigit, rest.dropWhile Char.isDigit)
    | rest => (false, [], rest)
  if whole.isEmpty && fraction.isEmpty then none
  else match rest with
    | [] => some ⟨negative, whole, fraction, 0, pointed, false⟩
    | c :: rest =>
      if c = 'e' ∨ c = 'E' then
        (exponent? rest).map fun e => ⟨negative, whole, fraction, e, pointed, true⟩
      else none

end OpenApi.Decimal
