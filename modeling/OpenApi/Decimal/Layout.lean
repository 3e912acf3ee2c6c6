import OpenApi.Decimal.Shortest
/-! How a selected decimal is laid out. A record holds the decisions in which output formats
differ. -/
namespace OpenApi.Decimal

structure Layout where
  plainFrom : Int
  plainBelow : Int
  plusSign : Bool
  tie : Tie

def zeros (n : Nat) : String := String.ofList (List.replicate n '0')

def positional (digits : String) (exponent : Int) : String :=
  if 0 ≤ exponent then digits ++ zeros exponent.toNat ++ ".0"
  else
    let places := (-exponent).toNat
    if places < digits.length then
      String.ofList (digits.toList.take (digits.length - places)) ++ "." ++
        String.ofList (digits.toList.drop (digits.length - places))
    else "0." ++ zeros (places - digits.length) ++ digits

def scientific (plusSign : Bool) (digits : String) (lead : Int) : String :=
  let head := String.ofList (digits.toList.take 1)
  let tail := if digits.length ≤ 1 then "" else "." ++ String.ofList (digits.toList.drop 1)
  let sign := if lead < 0 then "-" else if plusSign then "+" else ""
  head ++ tail ++ "e" ++ sign ++ toString lead.natAbs

def Layout.text (layout : Layout) (bits : UInt64) : String :=
  let x := Binary.ofBits bits
  let sign := if signBit bits then "-" else ""
  if x.mantissa = 0 then sign ++ "0.0"
  else
    let d := x.shortest layout.tie
    let digits := toString d.digits
    let lead := d.exponent + digits.length - 1
    sign ++ (if layout.plainFrom ≤ lead ∧ lead < layout.plainBelow then positional digits d.exponent
      else scientific layout.plusSign digits lead)

end OpenApi.Decimal
