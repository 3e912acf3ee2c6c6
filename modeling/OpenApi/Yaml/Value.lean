import OpenApi.Yaml.Document
import OpenApi.Yaml.Lexer
import OpenApi.Yaml.Scalar.Type
/-! JSON values of YAML documents. Keys are the texts of their scalars. Nesting and the following of
aliases are bounded. -/
namespace OpenApi.Yaml

def maxDepth : Nat := 128

def followsPerEvent : Nat := 100

structure Reading where
  anchors : List (Nat × Node)
  follows : Nat

abbrev Reader := StateT Reading Option

namespace Reader

def target (node : Node) : Reader Node := do
  match node with
  | .alias anchor =>
    let r ← get
    match r.follows with
    | 0 => failure
    | follows + 1 =>
      set { r with follows := follows }
      (r.anchors.reverse.lookup anchor).elim failure (pure ·.bare)
  | node => return node.bare

def key (node : Node) : Reader String := do
  match ← target node with
  | .scalar _ _ text => return String.ofList text
  | _ => failure

def isOwnTag (tag : Option (List Char)) : Bool := tag.any (·.head? = some '!')

def tagged? (tag text : String) : Option Json :=
  match tag with
  | "tag:yaml.org,2002:bool" => (Scalar.bool? text).map .bool
  | "tag:yaml.org,2002:int" => ((Scalar.int? text.toList).bind Scalar.intValue?).join
  | "tag:yaml.org,2002:float" => Scalar.float? text
  | "tag:yaml.org,2002:null" => if Scalar.isNull text then some .null else none
  | _ => some (.string text)

def scalar (tag : Option (List Char)) (plain : Bool) (text : String) : Option Json :=
  match tag with
  | some tag => tagged? (String.ofList tag) text
  | none => if plain then Scalar.value? text else some (.string text)

def value : Nat → Node → Reader Json
  | depth, node => do
    match ← target node with
    | .scalar tag plain text =>
      if isOwnTag tag then failure else (scalar tag plain (String.ofList text)).elim failure pure
    | .sequence tag items =>
      match depth with
      | 0 => failure
      | depth + 1 => if isOwnTag tag then failure else .array <$> items.mapM (value depth)
    | .mapping tag entries =>
      match depth with
      | 0 => failure
      | depth + 1 =>
        if isOwnTag tag then failure
        else
          let fields ← entries.mapM fun (k, v) => do
            let name ← key k
            return (name, ← value depth v)
          return .object (Fields.ofList fields)
    | _ => failure

end Reader

def Node.value? (node : Node) : Option Json :=
  ((Reader.value maxDepth node).run ⟨node.anchors, followsPerEvent * node.events⟩).map (·.1)

def read? (text : String) : Option Json := do
  (← Node.ofTokens? (← tokens? text)).value?

end OpenApi.Yaml
