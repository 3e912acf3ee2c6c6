import OpenApi.Yaml.Scalar.Gap
/-! Scalars between quotes. The readers start behind the opening quote. -/
namespace OpenApi.Yaml.Quoted

def single (spot : Spot) (gap : Gap) (text : List Char) : List Char → Option Scanned
  | [] => none
  | '\'' :: '\'' :: rest => single (spot.forward 2) .empty (gap.close text '\'') rest
  | c :: rest =>
    if atAnyDocumentMark spot (c :: rest) then none
    else if c = '\'' then some ⟨(gap.fold.reverse ++ text).reverse, ⟨spot.past c, rest⟩, false⟩
    else if isBlank c || isBreak c then single (spot.past c) (gap.add c) text rest
    else single (spot.past c) .empty (gap.close text c) rest

inductive Mode where
  | text
  | escaped
  | digits (value owed : Nat)

def letter? : Char → Option Char
  | '0' => some '\x00'
  | 'a' => some '\x07'
  | 'b' => some '\x08'
  | 't' => some '\t'
  | '\t' => some '\t'
  | 'n' => some '\n'
  | 'v' => some '\x0b'
  | 'f' => some '\x0c'
  | 'r' => some '\r'
  | 'e' => some '\x1b'
  | ' ' => some ' '
  | '"' => some '"'
  | '/' => some '/'
  | '\\' => some '\\'
  | 'N' => some '\u0085'
  | '_' => some '\u00a0'
  | 'L' => some '\u2028'
  | 'P' => some '\u2029'
  | _ => none

def digitCount? : Char → Option Nat
  | 'x' => some 2
  | 'u' => some 4
  | 'U' => some 8
  | _ => none

def hexDigit? (c : Char) : Option Nat :=
  if c.isDigit then some (c.toNat - '0'.toNat)
  else if 'a' ≤ c ∧ c ≤ 'f' then some (c.toNat - 'a'.toNat + 10)
  else if 'A' ≤ c ∧ c ≤ 'F' then some (c.toNat - 'A'.toNat + 10)
  else none

def charOf? (n : Nat) : Option Char := if n.isValidChar then some (Char.ofNat n) else none

def double (spot : Spot) (gap : Gap) (mode : Mode) (text : List Char) :
    List Char → Option Scanned
  | [] => none
  | c :: rest =>
    match mode with
    | .digits value owed =>
      match hexDigit? c, owed with
      | some d, owed + 2 => double (spot.past c) gap (.digits (16 * value + d) (owed + 1)) text rest
      | some d, _ =>
        match charOf? (16 * value + d) with
        | some e => double (spot.past c) gap .text (e :: text) rest
        | none => none
      | none, _ => none
    | .escaped =>
      if isBreak c then double (spot.past c) .joined .text text rest
      else match letter? c, digitCount? c with
        | some e, _ => double (spot.past c) gap .text (e :: text) rest
        | none, some n => double (spot.past c) gap (.digits 0 n) text rest
        | none, none => none
    | .text =>
      if atAnyDocumentMark spot (c :: rest) then none
      else if c = '"' then some ⟨(gap.fold.reverse ++ text).reverse, ⟨spot.past c, rest⟩, false⟩
      else if c = '\\' then
        double (spot.past c) .empty .escaped (gap.fold.reverse ++ text) rest
      else if isBlank c || isBreak c then double (spot.past c) (gap.add c) .text text rest
      else double (spot.past c) .empty .text (gap.close text c) rest

def scan (c : Cursor) : Option Scanned :=
  match c.rest with
  | '\'' :: rest => single (c.spot.forward 1) .empty [] rest
  | '"' :: rest => double (c.spot.forward 1) .empty .text [] rest
  | _ => none

end OpenApi.Yaml.Quoted
