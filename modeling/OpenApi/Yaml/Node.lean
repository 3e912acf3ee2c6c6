import OpenApi.Fields
import OpenApi.Yaml.Token
/-! Nodes of a YAML document. An anchor stands under the number it had when it was set: the count of
distinct anchor names before it. -/
namespace OpenApi.Yaml

inductive Node where
  | alias (anchor : Nat)
  | anchored (anchor : Nat) (node : Node)
  | scalar (tag : Option (List Char)) (plain : Bool) (text : List Char)
  | sequence (tag : Option (List Char)) (items : List Node)
  | mapping (tag : Option (List Char)) (entries : List (Node × Node))
  deriving Repr, Inhabited

namespace Node

def empty (tag : Option (List Char)) : Node := .scalar tag true []

def bare : Node → Node
  | .anchored _ node => node
  | node => node

mutual
def events : Node → Nat
  | .alias _ => 1
  | .anchored _ node => node.events
  | .scalar _ _ _ => 1
  | .sequence _ items => eventsOfItems items + 2
  | .mapping _ entries => eventsOfEntries entries + 2
def eventsOfItems : List Node → Nat
  | [] => 0
  | item :: rest => item.events + eventsOfItems rest
def eventsOfEntries : List (Node × Node) → Nat
  | [] => 0
  | (key, value) :: rest => key.events + value.events + eventsOfEntries rest
end

mutual
def anchors : Node → List (Nat × Node)
  | .alias _ => []
  | .anchored anchor node => (anchor, node) :: node.anchors
  | .scalar _ _ _ => []
  | .sequence _ items => anchorsOfItems items
  | .mapping _ entries => anchorsOfEntries entries
def anchorsOfItems : List Node → List (Nat × Node)
  | [] => []
  | item :: rest => item.anchors ++ anchorsOfItems rest
def anchorsOfEntries : List (Node × Node) → List (Nat × Node)
  | [] => []
  | (key, value) :: rest => key.anchors ++ value.anchors ++ anchorsOfEntries rest
end

end Node
end OpenApi.Yaml
