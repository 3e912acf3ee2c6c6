import OpenApi.Yaml.Scalar.Type
/-! How a text is written as a scalar: plain, between quotes, or as a block of lines. -/
namespace OpenApi.Yaml

inductive Style where
  | plain
  | single
  | double
  | literal
  deriving DecidableEq, Repr

namespace Style

def isLineBreak (c : Char) : Bool :=
  c = '\n' || c = '\r' || c = '\x85' || c = '\u2028' || c = '\u2029'

def isSpaceOrBreak (c : Char) : Bool := c = ' ' || c = '\t' || isLineBreak c

def breaksAfter : List Char → Bool
  | [] => true
  | c :: _ => isSpaceOrBreak c

def isPrintable (c : Char) : Bool :=
  let n := c.toNat
  n = 0x0A || (0x20 ≤ n && n ≤ 0x7E) || (0xA0 ≤ n && n ≠ 0xFEFF && n ≠ 0xFFFE && n ≠ 0xFFFF)

def anyPair (p q : Char → Bool) : List Char → Bool
  | a :: b :: rest => (p a && q b) || anyPair p q (b :: rest)
  | _ => false

def signStarts : List Char → Bool
  | c :: rest =>
    "#,[]\x7b\x7d&*!|>'\"%@`".contains c || ((c = '?' || c = ':' || c = '-') && breaksAfter rest)
  | [] => false

def signInside : List Char → Bool
  | a :: b :: rest =>
    (b = ':' && breaksAfter rest) || (b = '#' && isSpaceOrBreak a) || signInside (b :: rest)
  | _ => false

def startsAsMark (text : List Char) : Bool :=
  ['-', '-', '-'].isPrefixOf text || ['.', '.', '.'].isPrefixOf text

def isSpace (c : Char) : Bool := c = ' '

def isMultiline (text : List Char) : Bool := text.any isLineBreak

def needsEscapes (text : List Char) : Bool :=
  text.any (!isPrintable ·) || anyPair isSpace isLineBreak text

def plainAllowed (text : List Char) : Bool :=
  !(text.head?.any isSpace || text.getLast?.any isSpace || isMultiline text || signStarts text ||
    signInside text || startsAsMark text || needsEscapes text)

def singleAllowed (text : List Char) : Bool :=
  !(needsEscapes text || anyPair isLineBreak isSpace text)

def literalAllowed (text : List Char) : Bool :=
  !(needsEscapes text || text.getLast?.any isSpace)

def needsQuotes (text : String) : Bool :=
  match Scalar.value? text with
  | some (.string _) => Scalar.isPadded (Scalar.unsign text.toList)
  | _ => true

/-- Lines are kept as they are where that is possible. All else is plain, or between single quotes, or
between double ones. -/
def of (text : String) : Style :=
  let chars := text.toList
  if chars.contains '\n' then (if literalAllowed chars then .literal else .double)
  else if !needsQuotes text && plainAllowed chars then .plain
  else if singleAllowed chars then .single
  else .double

end Style
end OpenApi.Yaml
