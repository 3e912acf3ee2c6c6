import OpenApi.Resolution.Problem
/-! The walk that puts the target of each reference in its place. Targets are looked up in the
document as it was given; a target's own references are followed before it is put in place. What is
put in place depends on the pointers being followed, never on what was noted before. -/
namespace OpenApi.Resolution

structure Noted (α : Type) where
  value : α
  replaced : Nat
  sightings : List Sighting

namespace Noted

def of {α : Type} (value : α) : Noted α := ⟨value, 0, []⟩

def map {α β : Type} (f : α → β) (a : Noted α) : Noted β := ⟨f a.value, a.replaced, a.sightings⟩

def both {α β γ : Type} (f : α → β → γ) (a : Noted α) (b : Noted β) : Noted γ :=
  ⟨f a.value b.value, a.replaced + b.replaced, a.sightings ++ b.sightings⟩

end Noted

abbrev Follow := (reference : String) → (location : List String) → Noted (Option Json)

mutual
def walk (follow : Follow) (location : List String) : Json → Noted Json
  | .object fields =>
    match Reference.of? (.object fields) with
    | some reference => (follow reference location).map (·.getD (.object fields))
    | none => (walkFields follow location fields).map .object
  | .array items => (walkItems follow location 0 items).map .array
  | value => .of value
def walkItems (follow : Follow) (location : List String) (index : Nat) :
    List Json → Noted (List Json)
  | [] => .of []
  | item :: rest =>
    .both (· :: ·) (walk follow (location ++ [toString index]) item)
      (walkItems follow location (index + 1) rest)
def walkFields (follow : Follow) (location : List String) :
    List (String × Json) → Noted (List (String × Json))
  | [] => .of []
  | (key, value) :: rest =>
    .both (fun value rest => (key, value) :: rest) (walk follow (location ++ [key]) value)
      (walkFields follow location rest)
end

/-- Follows one reference. `chain` holds the pointers being followed, outermost first; `budget` bounds
how many more can join it. A target that is still a reference after its walk is not put in place. -/
def follow (root : Json) (base : String) (budget : Nat) (chain : List String) : Follow :=
  fun reference location =>
    match Reference.localPointer? reference base with
    | none => ⟨none, 0, [.outside reference location]⟩
    | some pointer =>
      if pointer ∈ chain then
        ⟨none, 0, [.circle reference location (chain.dropWhile (· ≠ pointer)) pointer]⟩
      else
        let segments := Pointer.segments pointer
        match Pointer.lookup? root segments with
        | none => ⟨none, 0, [.missing reference location pointer]⟩
        | some target =>
          match budget with
          | 0 => .of none
          | budget + 1 =>
            let walked := walk (follow root base budget (chain ++ [pointer])) segments target
            if (Reference.of? walked.value).isSome then ⟨none, 0, walked.sightings⟩
            else ⟨some walked.value, 1, walked.sightings⟩

mutual
def references : Json → List String
  | .object fields =>
    (Reference.of? (.object fields)).toList ++ referencesOfFields fields
  | .array items => referencesOfItems items
  | _ => []
def referencesOfItems : List Json → List String
  | [] => []
  | item :: rest => references item ++ referencesOfItems rest
def referencesOfFields : List (String × Json) → List String
  | [] => []
  | (_, value) :: rest => references value ++ referencesOfFields rest
end

def localPointers (root : Json) (base : String) : List String :=
  ((references root).filterMap (Reference.localPointer? · base)).foldl addNew []

end OpenApi.Resolution
