import OpenApi.Yaml.Scalar.Block
import OpenApi.Yaml.Scalar.Plain
import OpenApi.Yaml.Scalar.Quoted
import OpenApi.Yaml.Tag
/-! From a text to its tokens. Indentation opens and closes blocks. A node that turns out to be a key,
by the colon behind it, gets its mark in front afterwards. -/
namespace OpenApi.Yaml

structure Candidate where
  required : Bool
  position : Nat
  spot : Spot

structure Lexer where
  cursor : Cursor
  tokens : Array Token
  -- Columns of the open blocks, innermost first.
  indents : List Nat
  keyAllowed : Bool
  -- One place for the blocks and one for each open flow collection, innermost first.
  candidates : List (Option Candidate)

namespace Lexer

def start (text : List Char) : Lexer := ⟨⟨.start, text⟩, #[], [], true, [none]⟩

def inFlow (l : Lexer) : Bool := 1 < l.candidates.length

def column (l : Lexer) : Nat := l.cursor.spot.column

def floor (l : Lexer) : Nat := l.indents.head?.elim 0 (· + 1)

def emit (l : Lexer) (token : Token) : Lexer := { l with tokens := l.tokens.push token }

def insert (l : Lexer) (position : Nat) (token : Token) : Lexer :=
  { l with tokens := l.tokens.insertIdxIfInBounds position token }

def allowKey (l : Lexer) (allowed : Bool) : Lexer := { l with keyAllowed := allowed }

def advance (l : Lexer) (n : Nat) : Lexer := { l with cursor := l.cursor.skip n }

def skipBlanks (flow keyAllowed comment : Bool) (spot : Spot) : List Char → Bool × Cursor
  | [] => (keyAllowed, ⟨spot, []⟩)
  | c :: rest =>
    if isBreak c then skipBlanks flow (keyAllowed || !flow) false (spot.past c) rest
    else if comment || c = '#' then skipBlanks flow keyAllowed true (spot.past c) rest
    else if (spot.column = 0 && c = byteOrderMark) || c = ' ' ||
        ((flow || !keyAllowed) && c = '\t') then
      skipBlanks flow keyAllowed false (spot.past c) rest
    else (keyAllowed, ⟨spot, c :: rest⟩)

def toToken (l : Lexer) : Lexer :=
  let (keyAllowed, cursor) := skipBlanks l.inFlow l.keyAllowed false l.cursor.spot l.cursor.rest
  { l with cursor := cursor, keyAllowed := keyAllowed }

/-- A candidate from an earlier line, or one more than 1024 octets ago, is no key any more; a required
one has to be one. -/
def retire (here : Spot) : Option Candidate → Option (Option Candidate)
  | none => some none
  | some c =>
    if c.spot.line < here.line ∨ c.spot.index + 1024 < here.index then
      if c.required then none else some none
    else some (some c)

def retireAll (l : Lexer) : Option Lexer := do
  return { l with candidates := ← l.candidates.mapM (retire l.cursor.spot) }

def dropCandidate (l : Lexer) : Option Lexer :=
  match l.candidates with
  | some c :: rest => if c.required then none else some { l with candidates := none :: rest }
  | _ => some l

def saveCandidate (l : Lexer) : Option Lexer := do
  if l.keyAllowed then
    let required := !l.inFlow && l.indents.head? = some l.column
    let l ← l.dropCandidate
    return { l with
      candidates := some ⟨required, l.tokens.size, l.cursor.spot⟩ :: l.candidates.tail }
  else return l

def openBlock (l : Lexer) (column position : Nat) (token : Token) : Lexer :=
  if !l.inFlow && l.floor ≤ column then
    { l.insert position token with indents := column :: l.indents }
  else l

def closeBlocks (l : Lexer) (stays : Nat → Bool) : Lexer :=
  if l.inFlow then l
  else
    let closed := (l.indents.takeWhile (!stays ·)).length
    { l with
      tokens := l.tokens ++ List.replicate closed Token.blockEnd
      indents := l.indents.drop closed }

def directive (l : Lexer) : Option Lexer := do
  let l ← (l.closeBlocks fun _ => false).dropCandidate
  let (token, cursor) ← Directive.scan l.cursor
  return { l.emit token with cursor := cursor, keyAllowed := false }

def documentMark (l : Lexer) (token : Token) : Option Lexer := do
  let l ← (l.closeBlocks fun _ => false).dropCandidate
  return ((l.emit token).advance 3).allowKey false

def flowStart (l : Lexer) (token : Token) : Option Lexer := do
  let l ← l.saveCandidate
  return (({ l with candidates := none :: l.candidates }.emit token).advance 1).allowKey true

def flowEnd (l : Lexer) (token : Token) : Option Lexer := do
  let l ← l.dropCandidate
  let outer := if l.inFlow then l.candidates.tail else l.candidates
  return (({ l with candidates := outer }.emit token).advance 1).allowKey false

def flowEntry (l : Lexer) : Option Lexer := do
  let l ← l.dropCandidate
  return ((l.emit .flowEntry).advance 1).allowKey true

def blockSign (l : Lexer) (token : Token) : Option Lexer :=
  if l.inFlow then some l
  else if l.keyAllowed then some (l.openBlock l.column l.tokens.size token)
  else none

def blockEntry (l : Lexer) : Option Lexer := do
  let l ← (← l.blockSign .blockSequenceStart).dropCandidate
  return ((l.emit .blockEntry).advance 1).allowKey true

def key (l : Lexer) : Option Lexer := do
  let l ← (← l.blockSign .blockMappingStart).dropCandidate
  return ((l.emit .key).advance 1).allowKey !l.inFlow

def value (l : Lexer) : Option Lexer := do
  match l.candidates with
  | some c :: rest =>
    let l := (l.insert c.position .key).openBlock c.spot.column c.position .blockMappingStart
    return (({ l with candidates := none :: rest }.emit .value).advance 1).allowKey false
  | _ =>
    let l ← l.blockSign .blockMappingStart
    return ((l.emit .value).advance 1).allowKey !l.inFlow

def anchor (l : Lexer) (token : List Char → Token) : Option Lexer := do
  let l ← l.saveCandidate
  let (name, cursor) ← anchorName? l.cursor
  return { l.emit (token name) with cursor := cursor, keyAllowed := false }

def tag (l : Lexer) : Option Lexer := do
  let l ← l.saveCandidate
  let (token, cursor) ← Tag.scan l.inFlow l.cursor
  return { l.emit token with cursor := cursor, keyAllowed := false }

def scalar (l : Lexer) (plain : Bool) (read : Option Scanned) : Option Lexer := do
  let s ← read
  return { l.emit (.scalar plain s.text) with cursor := s.cursor, keyAllowed := s.crossed }

def blockScalar (l : Lexer) (literal : Bool) : Option Lexer := do
  let l ← l.dropCandidate
  l.scalar false (Block.scan literal (l.indents.head?.getD 0) l.floor (l.cursor.skip 1))

def quotedScalar (l : Lexer) : Option Lexer := do
  let l ← l.saveCandidate
  l.scalar false (Quoted.scan l.cursor)

def plainScalar (l : Lexer) : Option Lexer := do
  let l ← l.saveCandidate
  l.scalar true (Plain.scan l.inFlow l.floor l.cursor)

def isSign (c : Char) : Bool := "-?:,[]\x7b\x7d#&*!|>'\"%@`".contains c

def startsPlain (flow : Bool) (c : Char) (rest : List Char) : Bool :=
  !(isBlank c || isBreak c || isSign c) || (c = '-' && !(rest.head?.any isBlank)) ||
    (!flow && (c = '?' || c = ':') && !wordEnds rest)

def token (l : Lexer) (c : Char) (rest : List Char) : Option Lexer :=
  let flow := l.inFlow
  if l.column = 0 && c = '%' then l.directive
  else if atDocumentMark '-' l.cursor.spot (c :: rest) then l.documentMark .documentStart
  else if atDocumentMark '.' l.cursor.spot (c :: rest) then l.documentMark .documentEnd
  else if c = '[' then l.flowStart .flowSequenceStart
  else if c = '\x7b' then l.flowStart .flowMappingStart
  else if c = ']' then l.flowEnd .flowSequenceEnd
  else if c = '\x7d' then l.flowEnd .flowMappingEnd
  else if c = ',' then l.flowEntry
  else if c = '-' && wordEnds rest then l.blockEntry
  else if c = '?' && (flow || wordEnds rest) then l.key
  else if c = ':' && (flow || wordEnds rest) then l.value
  else if c = '*' then l.anchor .alias
  else if c = '&' then l.anchor .anchor
  else if c = '!' then l.tag
  else if c = '|' && !flow then l.blockScalar true
  else if c = '>' && !flow then l.blockScalar false
  else if c = '\'' || c = '"' then l.quotedScalar
  else if startsPlain flow c rest then l.plainScalar
  else none

def finish (l : Lexer) : Option (List Token) := do
  let l ← (l.closeBlocks fun _ => false).dropCandidate
  return l.tokens.toList

def run : Nat → Lexer → Option (List Token)
  | 0, _ => none
  | fuel + 1, l => do
    let l ← l.toToken.retireAll
    let l := l.closeBlocks (· ≤ l.column)
    match l.cursor.rest with
    | [] => l.finish
    | c :: rest => run fuel (← l.token c rest)

end Lexer

def tokens? (text : String) : Option (List Token) :=
  let chars := text.toList
  if chars.all isAllowed then
    Lexer.run (chars.length + 1) (.start (normalizeBreaks chars))
  else none

end OpenApi.Yaml
