import OpenApi.Json.Text
import OpenApi.Reference
import OpenApi.Schema.Breach
import OpenApi.Schema.Encode
/-! The rules of a schema map: every entry stands under its own name, none holds a reference, and
every name that an entry mentions is the name of an entry. -/
namespace OpenApi.Schema

mutual
def findReference? : Json → Option String
  | .object fields =>
    match Fields.get? Reference.key fields with
    | some (.string reference) => some reference
    | some mark => some mark.compact
    | none => findInFields? fields
  | .array items => findInItems? items
  | _ => none
def findInItems? : List Json → Option String
  | [] => none
  | item :: rest => (findReference? item).or (findInItems? rest)
def findInFields? : List (String × Json) → Option String
  | [] => none
  | (_, value) :: rest => (findReference? value).or (findInFields? rest)
end

def breach? (names seen : List String) (key : String) (entry : Entry) : Option Breach :=
  if entry.name.isEmpty ∨ key.isEmpty then some .emptyName
  else if key ≠ entry.name then some (.keyMismatch key entry.name)
  else if entry.name ∈ seen then some (.duplicateName entry.name)
  else match findReference? entry.toJson with
    | some reference => some (.residualReference key reference)
    | none => (entry.names.find? (· ∉ names)).map (.danglingName key)

def firstBreach? (names seen : List String) : Fields Entry → Option Breach
  | [] => none
  | (key, entry) :: rest =>
    (breach? names seen key entry).or (firstBreach? names (entry.name :: seen) rest)

def validate (entries : Fields Entry) : Except Breach Unit :=
  match firstBreach? (Fields.keys entries) [] entries with
  | some breach => .error breach
  | none => .ok ()

end OpenApi.Schema
