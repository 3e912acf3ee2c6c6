import OpenApi.Json.Decode
import OpenApi.Resolution.Problem
/-! Problems as JSON records. -/
namespace OpenApi.Problem

def toJson (p : Problem) : Json :=
  .object [("kind", .string p.kind.word), ("reference", .string p.reference),
    ("path", .string p.path), ("message", .string p.message)]

structure Draft where
  kind : Option Kind
  reference : Option String
  path : Option String
  message : Option String

open Json (Decoded)
open Json.Decode

def Draft.put (d : Draft) (field : String × Json) : Decoded Draft := do
  let (key, value) := field
  match key with
  | "kind" => return { d with kind := some (← choice kinds value) }
  | "reference" => return { d with reference := some (← text value) }
  | "path" => return { d with path := some (← text value) }
  | "message" => return { d with message := some (← text value) }
  | _ => return d

def Draft.close (d : Draft) : Decoded Problem := do
  return ⟨← required "kind" d.kind, ← required "reference" d.reference,
    ← required "path" d.path, ← required "message" d.message⟩

def read : Json → Decoded Problem :=
  record "struct ResolutionError" ["kind", "reference", "path", "message"] [] Draft.put
    ⟨none, none, none, none⟩ Draft.close

end OpenApi.Problem
