import OpenApi.Resolution.Basic
import OpenApi.Schema.Extract
/-! Flattening a document: its references are resolved, then its schemas are extracted. -/
namespace OpenApi

def Resolution.countText (problems : List Problem) : String :=
  toString problems.length ++ " unresolved reference(s)"

def Resolution.cleanDocument (r : Resolution) : Except Failure Json :=
  if r.isClean then .ok r.document
  else .error (.resolution (countText r.problems ++ ":" ++
    String.join (r.problems.map fun p => "\n  " ++ p.line)))

structure Flattened where
  document : Json
  resolved : Nat
  problems : List Problem
  schemas : Schema.Map

def flatten (root : Json) (base : String) (allowUnresolved : Bool) (levels : Nat) :
    Except Failure Flattened := do
  let resolution := Resolution.resolve root base
  unless allowUnresolved do discard resolution.cleanDocument
  let schemas ← (Schema.extract resolution.document levels).mapError .integrity
  return ⟨resolution.document, resolution.resolved, resolution.problems, schemas⟩

def Flattened.ensureClean (f : Flattened) : Except Failure Unit :=
  if f.problems.isEmpty then .ok () else .error (.resolution (Resolution.countText f.problems))

end OpenApi
