import OpenApi.FilePath
import OpenApi.Json.Basic
import OpenApi.Url.Basic
/-! Reference strings: a document part, then a fragment behind the first hash mark. Nothing here
fetches a document; a reference that names the base document is one into it. -/
namespace OpenApi

structure Reference where
  document : String
  fragment : Option String
  deriving DecidableEq, Repr

namespace Reference

def key : String := "$ref"

def of? (node : Json) : Option String := (node.get? key).bind Json.string?

inductive Kind where
  | inside
  | relative
  | remote
  deriving DecidableEq, Repr

def parse (text : String) : Reference :=
  match Text.splitAtFirst? '#' text.toList with
  | some (document, fragment) => ⟨String.ofList document, some (String.ofList fragment)⟩
  | none => ⟨text, none⟩

def kind (r : Reference) : Kind :=
  if r.document.isEmpty then .inside
  else if (Url.parse? r.document).isSome then .remote
  else .relative

def hasAuthorityMark : List Char → Bool
  | [] => false
  | c :: rest => "://".toList.isPrefixOf (c :: rest) || hasAuthorityMark rest

def dropHere : List Char → List Char
  | '.' :: '/' :: rest => dropHere rest
  | rest => rest

def directory (base : String) : List Char := (FilePath.parent? base.toList).getD []

def namesBase (document base : String) : Bool :=
  if base.isEmpty then false
  else if document = base then true
  else match Url.parse? document, Url.parse? base with
    | some u, some v => u = v
    | _, _ =>
      if hasAuthorityMark document.toList || hasAuthorityMark base.toList then false
      else
        FilePath.same (FilePath.join (directory base) (dropHere document.toList)) base.toList ||
          FilePath.same document.toList base.toList

/-- The pointer into the base document; none if the reference leads elsewhere. -/
def localPointer? (text base : String) : Option String :=
  let r := parse text
  if r.document.isEmpty || namesBase r.document base then some ("#" ++ r.fragment.getD "")
  else none

def target (text base : String) : String :=
  let r := parse text
  match r.kind with
  | .relative =>
    let path := String.ofList (FilePath.join (directory base) r.document.toList)
    match r.fragment with
    | some fragment => path ++ "#" ++ fragment
    | none => path
  | _ => text

end Reference
end OpenApi
