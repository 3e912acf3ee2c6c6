import OpenApi.Url.Host
/-! Absolute addresses, as far as they identify a document: scheme, host, port and path. User
information, query and fragment play no part. -/
namespace OpenApi

structure Url where
  scheme : List Char
  host : Option Url.Host
  port : Option Nat
  path : List Char
  deriving DecidableEq, Repr

namespace Url

inductive Family where
  | web
  | file
  | other
  deriving DecidableEq, Repr

def defaultPort? (scheme : List Char) : Option Nat :=
  [("http", 80), ("https", 443), ("ws", 80), ("wss", 443), ("ftp", 21)].lookup (String.ofList scheme)

def Family.of (scheme : List Char) : Family :=
  if scheme = "file".toList then .file
  else if (defaultPort? scheme).isSome then .web
  else .other

def Family.isSlash (family : Family) (c : Char) : Bool := c = '/' || (c = '\\' && family ≠ .other)

def isTailMark (c : Char) : Bool := c = '?' || c = '#'

def Family.endsAuthority (family : Family) (c : Char) : Bool := family.isSlash c || isTailMark c

def isSchemeChar (c : Char) : Bool := c.isAlphanum || c = '+' || c = '-' || c = '.'

def scheme? (text : List Char) : Option (List Char × List Char) := do
  let (scheme, rest) ← Text.splitAtFirst? ':' text
  let first ← scheme.head?
  if first.isAlpha && scheme.all isSchemeChar then some (scheme.map Char.toLower, rest) else none

def skipUser? (family : Family) (text : List Char) : Option (Bool × List Char) :=
  let authority := text.takeWhile (!family.endsAuthority ·)
  match Text.splitAtFirst? '@' authority.reverse with
  | none => some (false, text)
  | some (host, user) =>
    let rest := host.reverse ++ text.dropWhile (!family.endsAuthority ·)
    if user.isEmpty then
      if rest.head?.any family.endsAuthority then none else some (false, rest)
    else some (user ≠ [':'], rest)

def splitHost (family : Family) (bracketed : Bool) : List Char → List Char × List Char
  | [] => ([], [])
  | c :: rest =>
    if (c = ':' && !bracketed) || family.endsAuthority c then ([], c :: rest)
    else
      let bracketed := if c = '[' then true else if c = ']' then false else bracketed
      let (host, rest) := splitHost family bracketed rest
      (c :: host, rest)

def splitPort? (scheme : List Char) : List Char → Option (Option Nat × List Char)
  | ':' :: rest => do
    let digits := rest.takeWhile Char.isDigit
    let rest := rest.dropWhile Char.isDigit
    let number ← inBase? 10 digits
    if 65536 ≤ number ∨ !rest.head?.all fun c => c = '/' || c = '\\' || isTailMark c then none
    else some (if digits.isEmpty ∨ defaultPort? scheme = some number then none else some number, rest)
  | rest => some (none, rest)

def isPathChar (c : Char) : Bool :=
  0x20 < c.toNat && c.toNat < 0x7F && !"\"#<>?`\x7b\x7d".toList.contains c

def isOpaqueChar (c : Char) : Bool := 0x20 ≤ c.toNat && c.toNat < 0x7F

def lowerAscii (text : List Char) : String := String.ofList (text.map Char.toLower)

def isDot (segment : List Char) : Bool := [".", "%2e"].contains (lowerAscii segment)

def isDoubleDot (segment : List Char) : Bool :=
  ["..", "%2e.", ".%2e", "%2e%2e"].contains (lowerAscii segment)

def startsWithDrive : List Char → Bool
  | letter :: mark :: rest =>
    letter.isAlpha && (mark = ':' || mark = '|') && rest.head?.all (· = '\\')
  | _ => false

def isDrive (segment : List Char) : Bool := segment.length = 2 && startsWithDrive segment

def goUp (segments : List (List Char)) : List (List Char) :=
  if segments.getLast?.any startsWithDrive then segments else segments.dropLast

structure Route where
  segments : List (List Char)
  onDrive : Bool

def walk (family : Family) (r : Route) : List (List Char) → Route
  | [] => r
  | segment :: rest =>
    let closing : List (List Char) := if rest.isEmpty then [[]] else []
    if isDoubleDot segment then walk family { r with segments := goUp r.segments ++ closing } rest
    else if isDot segment then walk family { r with segments := r.segments ++ closing } rest
    else if family = .file && r.segments.isEmpty && isDrive segment then
      walk family ⟨[segment.take 1 ++ [':']], true⟩ rest
    else walk family { r with segments := r.segments ++ [segment] } rest

def pieces (family : Family) (text : List Char) : List (List Char) :=
  let path := text.takeWhile (!isTailMark ·)
  Text.splitAtEach '/' (path.map fun c => if family.isSlash c then '/' else c)

def readPath (family : Family) (text : List Char) : List Char × Bool :=
  let r := walk family ⟨[], false⟩ ((pieces family text).map (Text.Percent.encode isPathChar))
  let path := '/' :: ['/'].intercalate r.segments
  (if family = .file then '/' :: path.dropWhile (· = '/') else path, r.onDrive)

def dropSlash (family : Family) : List Char → List Char
  | [] => []
  | c :: rest => if family.isSlash c then rest else c :: rest

def pathBehind (family : Family) (text : List Char) : List Char :=
  if family = .other && text.head?.all isTailMark then []
  else (readPath family (dropSlash family text)).1

def behindSlashes? (family : Family) (scheme text : List Char) : Option Url := do
  let (hasUser, rest) ← skipUser? family text
  let (name, rest) := splitHost family false rest
  if name.isEmpty then
    if hasUser ∨ rest.head? = some ':' ∨ family ≠ .other then none
    else some ⟨scheme, none, none, pathBehind family rest⟩
  else
    let host ← if family = .other then Host.raw? name else Host.ofWeb? name
    let (port, rest) ← splitPort? scheme rest
    some ⟨scheme, some host, port, pathBehind family rest⟩

def file? (scheme text : List Char) : Option Url := do
  let isSlash := Family.isSlash .file
  match text with
  | c :: d :: rest =>
    if isSlash c && isSlash d then
      let name := rest.takeWhile (!Family.endsAuthority .file ·)
      let host ← if name.isEmpty || isDrive name then pure none else (Host.ofWeb? name).map some
      if name.isEmpty ∨ isDrive name then some ⟨scheme, none, none, (readPath .file rest).1⟩
      else
        let rest := rest.dropWhile (!Family.endsAuthority .file ·)
        if host = some (.name "localhost".toList) then
          some ⟨scheme, none, none, (readPath .file rest).1⟩
        else
          let (path, onDrive) := readPath .file (dropSlash .file rest)
          some ⟨scheme, if onDrive then none else host, none, path⟩
    else some ⟨scheme, none, none, (readPath .file (dropSlash .file text)).1⟩
  | text => some ⟨scheme, none, none, (readPath .file (dropSlash .file text)).1⟩

def other? (scheme : List Char) : List Char → Option Url
  | '/' :: '/' :: rest => behindSlashes? .other scheme rest
  | '/' :: rest => some ⟨scheme, none, none, (readPath .other rest).1⟩
  | rest =>
    let opaqueText := rest.takeWhile (!isTailMark ·)
    some ⟨scheme, none, none, Text.Percent.encode isOpaqueChar opaqueText⟩

def trim (text : List Char) : List Char :=
  let isEdge (c : Char) : Bool := c.toNat ≤ 0x20
  ((text.dropWhile isEdge).reverse.dropWhile isEdge).reverse.filter
    fun c => !(c = '\t' || c = '\n' || c = '\r')

def parse? (text : String) : Option Url := do
  let (scheme, rest) ← scheme? (trim text.toList)
  match Family.of scheme with
  | .web => behindSlashes? .web scheme (rest.dropWhile (Family.isSlash .web))
  | .file => file? scheme rest
  | .other => other? scheme rest

end Url
end OpenApi
