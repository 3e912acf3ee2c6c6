/-! The shortest decimal that reads back to a given binary64 value. All comparisons are exact,
over naturals. -/
namespace OpenApi.Decimal

structure Binary where
  mantissa : Nat
  exponent : Int
  narrowBelow : Bool

def signBit (bits : UInt64) : Bool := bits >>> 63 == 1

def Binary.ofBits (bits : UInt64) : Binary :=
  let e := ((bits >>> 52) &&& 0x7FF).toNat
  let f := (bits &&& 0xFFFFFFFFFFFFF).toNat
  if e = 0 then ⟨f, -1074, false⟩ else ⟨0x10000000000000 + f, (e : Int) - 1075, f = 0 && 1 < e⟩

structure Dec where
  digits : Nat
  exponent : Int
  deriving DecidableEq, Repr

inductive Tie where
  | even
  | up
  deriving DecidableEq, Repr

def order (a : Nat) (i : Int) (n : Nat) (j : Int) : Ordering :=
  compare ((a * Nat.pow 10 i.toNat) <<< (-j).toNat) ((n * Nat.pow 10 (-i).toNat) <<< j.toNat)

def Binary.readsBack (x : Binary) (d : Dec) : Bool :=
  let low := if x.narrowBelow then 4 * x.mantissa - 1 else 4 * x.mantissa - 2
  let closed := x.mantissa % 2 == 0
  let below := order d.digits d.exponent low (x.exponent - 2)
  let above := order d.digits d.exponent (4 * x.mantissa + 2) (x.exponent - 2)
  (below == .gt || (closed && below == .eq)) && (above == .lt || (closed && above == .eq))

def Binary.scale (x : Binary) : Int :=
  let shifted := ((x.mantissa * Nat.pow 10 400) <<< x.exponent.toNat) >>> (-x.exponent).toNat
  ((Nat.toDigits 10 shifted).length : Int) - 400

def Binary.onGrid? (tie : Tie) (x : Binary) (e : Int) : Option Dec :=
  let num := (x.mantissa * Nat.pow 10 (-e).toNat) <<< x.exponent.toNat
  let den := Nat.pow 10 e.toNat <<< (-x.exponent).toNat
  let low : Dec := ⟨num / den, e⟩
  let high : Dec := ⟨num / den + 1, e⟩
  match x.readsBack low, x.readsBack high with
  | false, false => none
  | true, false => some low
  | false, true => some high
  | true, true =>
    match compare (2 * (num % den)) den, tie with
    | .lt, _ => some low
    | .gt, _ => some high
    | .eq, .up => some high
    | .eq, .even => some (if low.digits % 2 = 0 then low else high)

def Dec.strip : Nat → Dec → Dec
  | 0, d => d
  | n + 1, d => if d.digits % 10 = 0 then strip n ⟨d.digits / 10, d.exponent + 1⟩ else d

def Binary.exact (x : Binary) : Dec :=
  ⟨(x.mantissa * Nat.pow 5 (-x.exponent).toNat) <<< x.exponent.toNat, min x.exponent 0⟩

/-- The first grid with a hit, from one digit to seventeen, fixes the digits of a positive `x`. -/
def Binary.shortest (tie : Tie) (x : Binary) : Dec :=
  let k := x.scale
  let hit := (List.range 17).findSome? fun n => x.onGrid? tie (k - (n + 1 : Nat))
  (hit.getD x.exact).strip 400

end OpenApi.Decimal
