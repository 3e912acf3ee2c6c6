import OpenApi.Fields
import OpenApi.Text.Lowercase
import OpenApi.Text.Words
/-! Names of schema entries: how they are derived, and how they are kept apart. -/
namespace OpenApi.Schema

def propertyName (parent property : String) : String :=
  let word := Text.pascal property
  parent ++ (if word.isEmpty then "Property" else word)

inductive BodySlot where
  | request
  | response (status : String)
  deriving DecidableEq, Repr

def BodySlot.word : BodySlot → String
  | .request => "Request"
  | .response status =>
    let word := Text.pascal status
    if word.isEmpty then "Response" else word

def isBrace (c : Char) : Bool := c == '\x7b' || c == '\x7d'

def unbrace (segment : List Char) : List Char :=
  ((segment.dropWhile isBrace).reverse.dropWhile isBrace).reverse

def pathWord (path : String) : String :=
  let segments := (Text.splitAtEach '/' path.toList).filter (!·.isEmpty)
  let word := String.join (segments.map fun s => Text.pascal (String.ofList (unbrace s)))
  if word.isEmpty then "Root" else word

def bodyName (method path : String) (slot : BodySlot) : String :=
  Text.pascal (Text.lowerText method) ++ pathWord path ++ slot.word ++ "Schema"

structure Names where
  taken : List String
  deriving DecidableEq, Repr

namespace Names

def empty : Names := ⟨[]⟩

def isTaken (names : Names) (name : String) : Bool := names.taken.contains name

def take (names : Names) (name : String) : Names := ⟨name :: names.taken⟩

def reserve? (names : Names) (name : String) : Option Names :=
  if names.isTaken name then none else some (names.take name)

def numbered (base : String) (n : Nat) : String := base ++ toString n

/-- The name itself if it is free, else the first free one among name2, name3, ... As many numbers
are tried as there are names taken, and one more, so one of them is free. -/
def fresh (names : Names) (base : String) : String :=
  let base := if base.isEmpty then "Schema" else base
  if names.isTaken base then
    let tried := (List.range' 2 (names.taken.length + 1)).map (numbered base)
    (tried.find? (!names.isTaken ·)).getD base
  else base

def allocate (names : Names) (base : String) : String × Names :=
  let name := names.fresh base
  (name, names.take name)

end Names
end OpenApi.Schema
