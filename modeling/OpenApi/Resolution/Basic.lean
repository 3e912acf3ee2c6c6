import OpenApi.Resolution.Walk
/-! Resolution of a document: every reference into the document gives way to what it designates. -/
namespace OpenApi

structure Resolution where
  document : Json
  resolved : Nat
  problems : List Problem

namespace Resolution

def typeWord : Json → String
  | .null => "null"
  | .bool _ => "boolean"
  | .number _ => "number"
  | .string _ => "string"
  | .array _ => "array"
  | .object _ => "object"

def notAnObject (root : Json) : Problem :=
  ⟨.invalid, "", "#", "document root must be an object, found " ++ typeWord root⟩

def resolve (root : Json) (base : String) : Resolution :=
  match root with
  | .object _ =>
    let walked := walk (follow root base (localPointers root base).length []) [] root
    ⟨walked.value, walked.replaced, (Report.ofSightings base walked.sightings).problems⟩
  | root => ⟨.object [], 0, [notAnObject root]⟩

def isClean (r : Resolution) : Bool := r.problems.isEmpty

end Resolution
end OpenApi
