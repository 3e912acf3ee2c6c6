/-! Places in a text and the characters that YAML tells apart. -/
namespace OpenApi.Yaml

def isBreak (c : Char) : Bool := c = '\n' || c = '\u2028' || c = '\u2029'

def isBlank (c : Char) : Bool := c = ' ' || c = '\t'

def wordEnds : List Char → Bool
  | [] => true
  | c :: _ => isBlank c || isBreak c

def isWordChar (c : Char) : Bool := c.isAlphanum || c = '_' || c = '-'

def byteOrderMark : Char := '\ufeff'

def isAllowed (c : Char) : Bool :=
  let n := c.toNat
  n = 0x09 || n = 0x0A || n = 0x0D || (0x20 ≤ n && n ≤ 0x7E) || n = 0x85 ||
    (0xA0 ≤ n && n ≤ 0xD7FF) || (0xE000 ≤ n && n ≤ 0xFFFD) || 0x10000 ≤ n

def normalizeBreaks : List Char → List Char
  | '\r' :: '\n' :: rest => '\n' :: normalizeBreaks rest
  | '\r' :: rest => '\n' :: normalizeBreaks rest
  | '\x85' :: rest => '\n' :: normalizeBreaks rest
  | c :: rest => c :: normalizeBreaks rest
  | [] => []

/-- A place in a text. Lines and columns count from zero, columns in characters; `index` counts the
octets from the start. -/
structure Spot where
  index : Nat
  line : Nat
  column : Nat
  deriving DecidableEq, Repr

namespace Spot

def start : Spot := ⟨0, 0, 0⟩

def past (s : Spot) (c : Char) : Spot :=
  if isBreak c then ⟨s.index + c.utf8Size, s.line + 1, 0⟩
  else ⟨s.index + c.utf8Size, s.line, s.column + 1⟩

def forward (s : Spot) (n : Nat) : Spot := ⟨s.index + n, s.line, s.column + n⟩

end Spot

structure Cursor where
  spot : Spot
  rest : List Char

namespace Cursor

def skip (c : Cursor) (n : Nat) : Cursor := ⟨c.spot.forward n, c.rest.drop n⟩

def span (c : Cursor) (p : Char → Bool) : List Char × Cursor :=
  let run := c.rest.takeWhile p
  (run, ⟨run.foldl Spot.past c.spot, c.rest.dropWhile p⟩)

def skipWhile (c : Cursor) (p : Char → Bool) : Cursor := (c.span p).2

def lineEnd? (c : Cursor) : Option Cursor :=
  let c := c.skipWhile isBlank
  let c := match c.rest with
    | '#' :: _ => c.skipWhile (!isBreak ·)
    | _ => c
  match c.rest with
  | [] => some c
  | d :: _ => if isBreak d then some c else none

def skipBreak (c : Cursor) : Cursor :=
  match c.rest with
  | d :: rest => if isBreak d then ⟨c.spot.past d, rest⟩ else c
  | [] => c

end Cursor

def atDocumentMark (mark : Char) (spot : Spot) : List Char → Bool
  | a :: b :: c :: rest =>
    spot.column = 0 && a = mark && b = mark && c = mark && wordEnds rest
  | _ => false

def atAnyDocumentMark (spot : Spot) (rest : List Char) : Bool :=
  atDocumentMark '-' spot rest || atDocumentMark '.' spot rest

end OpenApi.Yaml
