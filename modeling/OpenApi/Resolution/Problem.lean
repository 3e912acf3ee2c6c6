import OpenApi.Pointer
import OpenApi.Reference
/-! What a walk over a document notes about references that lead nowhere, and the problems reported
of it: one for each kind, reference and place, and one for each set of pointers in a circle. -/
namespace OpenApi

namespace Problem

inductive Kind where
  | missing
  | circular
  | invalid
  deriving DecidableEq, Repr

def Kind.word : Kind → String
  | .missing => "missing"
  | .circular => "circular"
  | .invalid => "invalid"

def kinds : List (String × Kind) :=
  [Kind.missing, .circular, .invalid].map fun k => (k.word, k)

end Problem

structure Problem where
  kind : Problem.Kind
  reference : String
  path : String
  message : String
  deriving DecidableEq, Repr

def Problem.line (p : Problem) : String :=
  p.kind.word ++ " reference '" ++ p.reference ++ "' at " ++ p.path ++ ": " ++ p.message

def Problem.repeats (p q : Problem) : Bool :=
  p.kind = q.kind && p.reference = q.reference && p.path = q.path

inductive Sighting where
  | outside (reference : String) (location : List String)
  | missing (reference : String) (location : List String) (pointer : String)
  | circle (reference : String) (location : List String) (chain : List String) (pointer : String)
  deriving DecidableEq, Repr

def Sighting.problem (base : String) : Sighting → Problem
  | .outside reference location =>
    ⟨.invalid, reference, Pointer.render location,
      "external reference to '" ++ Reference.target reference base ++ "' is not supported"⟩
  | .missing reference location pointer =>
    ⟨.missing, reference, Pointer.render location,
      "'" ++ pointer ++ "' does not exist in the document"⟩
  | .circle reference location chain pointer =>
    ⟨.circular, reference, Pointer.render location,
      "circular reference: " ++ " -> ".intercalate chain ++ " -> " ++ pointer⟩

structure Report where
  problems : List Problem
  circles : List (List String)

namespace Report

def empty : Report := ⟨[], []⟩

def note (r : Report) (p : Problem) : Report :=
  if r.problems.any p.repeats then r else { r with problems := r.problems ++ [p] }

def sameMembers (a b : List String) : Bool := a.all b.contains && b.all a.contains

def add (base : String) (r : Report) (s : Sighting) : Report :=
  -- A circle counts as met even where its problem repeats an earlier one.
  match s with
  | .circle _ _ chain _ =>
    if r.circles.any (sameMembers chain) then r
    else { r with circles := chain :: r.circles }.note (s.problem base)
  | _ => r.note (s.problem base)

def ofSightings (base : String) (sightings : List Sighting) : Report :=
  sightings.foldl (add base) empty

end Report
end OpenApi
