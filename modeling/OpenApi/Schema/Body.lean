import OpenApi.Schema.Name
import OpenApi.Schema.Node
/-! Bodies of requests and responses without a name of their own. After resolution a body that was
written as a reference stands there in full, so it is told from others by its content. -/
namespace OpenApi.Schema

def isReference (node : Json) : Bool := (Reference.of? node).isSome

mutual
/-- Equality up to the order of fields, where a reference on either side stands for anything. -/
def resembles : Json → Json → Bool
  | .object a, b =>
    isReference (.object a) || isReference b ||
      match b with
      | .object b => a.length = b.length && resemblesFields a b
      | _ => false
  | .array a, b =>
    isReference b ||
      match b with
      | .array b => resemblesItems a b
      | _ => false
  | a, b => isReference b || Json.same a b
def resemblesItems : List Json → List Json → Bool
  | [], [] => true
  | a :: as, b :: bs => resembles a b && resemblesItems as bs
  | _, _ => false
def resemblesFields : List (String × Json) → List (String × Json) → Bool
  | [], _ => true
  | (key, a) :: rest, fields =>
    (match Fields.get? key fields with
      | some b => resembles a b
      | none => false) && resemblesFields rest fields
end

structure Body where
  baseName : String
  schema : Json

namespace Body

def methods : List String := ["get", "put", "post", "delete", "options", "head", "patch", "trace"]

def preferredMedia : String := "application/json"

def schema? (body : Json) : Option Json := do
  let media ← body.getFields? "content"
  let preferred := (Fields.get? preferredMedia media).bind (Json.get? "schema")
  preferred.or (media.findSome? fun m => m.2.get? "schema")

def isStructured (schema : Json) : Bool :=
  Node.isObject schema || Node.isArray schema || (Node.composition? schema).isSome

def isAnonymous (declared : Fields Json) (schema : Json) : Bool :=
  !isReference schema && isStructured schema && !declared.any fun d => resembles schema d.2

def slots (operation : Json) : List (BodySlot × Json) :=
  ((operation.get? "requestBody").toList.map fun body => (.request, body)) ++
    ((operation.getFields? "responses").getD []).map fun r => (.response r.1, r.2)

def ofOperation (declared : Fields Json) (method path : String) (operation : Json) : List Body :=
  (slots operation).filterMap fun (slot, body) =>
    ((schema? body).filter (isAnonymous declared)).map fun schema =>
      ⟨bodyName method path slot, schema⟩

def collect (declared : Fields Json) (document : Json) : List Body :=
  ((document.getFields? "paths").getD []).flatMap fun (path, item) =>
    methods.flatMap fun method =>
      (item.get? method).elim [] (ofOperation declared method path)

end Body
end OpenApi.Schema
