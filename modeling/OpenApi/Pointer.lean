import OpenApi.Json.Basic
import OpenApi.Text.Percent
import OpenApi.Text.Split
/-! Pointers into a document: texts such as `#/components/schemas/Pet`, and the lists of segments
they stand for. -/
namespace OpenApi.Pointer

def decodeSegment (segment : String) : String :=
  String.ofList (Text.Percent.decode (Text.joinPairs '~' '0' '~' (Text.joinPairs '~' '1' '/' segment.toList)))

def escape (c : Char) : List Char :=
  if c = '~' then ['~', '0'] else if c = '/' then ['~', '1'] else [c]

def encodeSegment (segment : String) : String :=
  String.ofList (segment.toList.flatMap escape)

/-- The segments of a pointer. Hash marks at its start and slashes after them are skipped; a pointer
of hash marks alone has none. -/
def segments (pointer : String) : List String :=
  let body := pointer.toList.dropWhile (· = '#')
  if body.isEmpty then []
  else (Text.splitAtEach '/' (body.dropWhile (· = '/'))).map fun s => decodeSegment (String.ofList s)

def render (segments : List String) : String :=
  "#" ++ String.join (segments.map fun s => "/" ++ encodeSegment s)

def index? (segment : String) : Option Nat :=
  let digits := match segment.toList with
    | '+' :: rest => rest
    | rest => rest
  if digits.isEmpty || !digits.all Char.isDigit then none
  else
    let n := digits.foldl (fun n c => 10 * n + (c.toNat - '0'.toNat)) 0
    if n < UInt64.size then some n else none

def step? (value : Json) (segment : String) : Option Json :=
  match value with
  | .object fields => Fields.get? segment fields
  | .array items => (index? segment).bind (items[·]?)
  | _ => none

def lookup? (root : Json) : List String → Option Json
  | [] => some root
  | segment :: rest => (step? root segment).bind (lookup? · rest)

def componentRoot : String := "#/components/schemas/"

def componentName? (pointer : String) : Option String :=
  if componentRoot.toList.isPrefixOf pointer.toList then
    let name := pointer.toList.drop componentRoot.length
    if name.isEmpty || name.contains '/' then none else some (decodeSegment (String.ofList name))
  else none

end OpenApi.Pointer
