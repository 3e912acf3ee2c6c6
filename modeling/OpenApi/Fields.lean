/-! Named values in order of first arrival. Setting a present name keeps its place;
an absent name goes to the end. -/
namespace OpenApi

abbrev Fields (α : Type u) := List (String × α)

namespace Fields
variable {α : Type u}

def get? (key : String) : Fields α → Option α
  | [] => none
  | (k, v) :: rest => if k = key then some v else get? key rest

def set (key : String) (value : α) : Fields α → Fields α
  | [] => [(key, value)]
  | (k, v) :: rest => if k = key then (key, value) :: rest else (k, v) :: set key value rest

def erase (key : String) (fields : Fields α) : Fields α :=
  fields.filter fun f => f.1 ≠ key

def keys (fields : Fields α) : List String := fields.map (·.1)

def ofList (pairs : List (String × α)) : Fields α :=
  pairs.foldl (fun fields p => set p.1 p.2 fields) []

end Fields

def addNew [BEq α] (members : List α) (a : α) : List α :=
  if members.contains a then members else members ++ [a]

end OpenApi
