import OpenApi.Yaml.Token
/-! Anchors, tags and directives. -/
namespace OpenApi.Yaml

def anchorEnds : List Char → Bool
  | [] => true
  | c :: _ => isBlank c || isBreak c || "?:,]\x7d%@`".contains c

def anchorName? (c : Cursor) : Option (List Char × Cursor) :=
  let (name, c) := (c.skip 1).span isWordChar
  if name.isEmpty || !anchorEnds c.rest then none else some (name, c)

namespace Tag

def isUriChar (verbatim : Bool) (c : Char) : Bool :=
  isWordChar c || ";/?:@&=+$.!~*'()".contains c || (verbatim && (c = ',' || c = '[' || c = ']'))

def hexValue? (c : Char) : Option Nat :=
  if c.isDigit then some (c.toNat - '0'.toNat)
  else if 'a' ≤ c ∧ c ≤ 'f' then some (c.toNat - 'a'.toNat + 10)
  else if 'A' ≤ c ∧ c ≤ 'F' then some (c.toNat - 'A'.toNat + 10)
  else none

def owedAfter? (octet : Nat) : Option Nat :=
  if octet < 0x80 then some 0
  else if octet < 0xC0 then none
  else if octet < 0xE0 then some 1
  else if octet < 0xF0 then some 2
  else if octet < 0xF8 then some 3
  else none

/-- The characters of an address. An escaped octet stands there as one character; escapes have to
come in groups that make up characters. -/
def uri? (verbatim : Bool) (owed : Nat) (spot : Spot) (text : List Char) :
    List Char → Option (List Char × Cursor)
  | '%' :: a :: b :: rest => do
    let octet := (← hexValue? a) * 16 + (← hexValue? b)
    let owed ← match owed with
      | 0 => owedAfter? octet
      | owed + 1 => if 0x80 ≤ octet ∧ octet < 0xC0 then some owed else none
    uri? verbatim owed (spot.forward 3) (Char.ofNat octet :: text) rest
  | c :: rest =>
    if owed ≠ 0 ∨ c = '%' then none
    else if isUriChar verbatim c then uri? verbatim 0 (spot.past c) (c :: text) rest
    else some (text.reverse, ⟨spot, c :: rest⟩)
  | [] => if owed ≠ 0 then none else some (text.reverse, ⟨spot, []⟩)

def readUri? (verbatim : Bool) (c : Cursor) : Option (List Char × Cursor) :=
  uri? verbatim 0 c.spot [] c.rest

def handle (c : Cursor) : List Char × Bool × Cursor :=
  let (word, c) := (c.skip 1).span isWordChar
  match c.rest with
  | '!' :: _ => ('!' :: word ++ ['!'], true, c.skip 1)
  | _ => ('!' :: word, false, c)

def ends (flow : Bool) (rest : List Char) : Bool := (flow && rest.head? = some ',') || wordEnds rest

def scan (flow : Bool) (c : Cursor) : Option (Token × Cursor) := do
  let (token, c) ← match c.rest with
    | '!' :: '<' :: _ => do
      let (suffix, c) ← readUri? true (c.skip 2)
      if suffix.isEmpty ∨ c.rest.head? ≠ some '>' then none
      else some (Token.tag [] suffix, c.skip 1)
    | _ => do
      let (head, closed, c) := handle c
      let (suffix, c) ← readUri? false c
      if closed then (if suffix.isEmpty then none else some (Token.tag head suffix, c))
      else
        let suffix := head.tail ++ suffix
        some (if suffix.isEmpty then .tag [] ['!'] else .tag ['!'] suffix, c)
  if ends flow c.rest then some (token, c) else none

end Tag

namespace Directive

def number? (c : Cursor) : Option (Nat × Cursor) :=
  let (digits, c) := c.span Char.isDigit
  if digits.isEmpty ∨ 9 < digits.length then none
  else some (digits.foldl (fun n d => 10 * n + (d.toNat - '0'.toNat)) 0, c)

def version? (c : Cursor) : Option (Token × Cursor) := do
  let (major, c) ← number? (c.skipWhile isBlank)
  if c.rest.head? ≠ some '.' then none
  else
    let (minor, c) ← number? (c.skip 1)
    return (.versionDirective major minor, c)

def tag? (c : Cursor) : Option (Token × Cursor) := do
  let c := c.skipWhile isBlank
  if c.rest.head? ≠ some '!' then none
  else
    let (handle, closed, c) := Tag.handle c
    if !(closed || handle.length = 1) || !(c.rest.head?.any isBlank) then none
    else
      let (stem, c) ← Tag.readUri? true (c.skipWhile isBlank)
      if stem.isEmpty || !wordEnds c.rest then none else some (.tagDirective handle stem, c)

def scan (c : Cursor) : Option (Token × Cursor) := do
  let (name, c) := (c.skip 1).span isWordChar
  if !wordEnds c.rest then none
  else
    let (token, c) ← match String.ofList name with
      | "YAML" => version? c
      | "TAG" => tag? c
      | _ => none
    return (token, (← c.lineEnd?).skipBreak)

end Directive
end OpenApi.Yaml
