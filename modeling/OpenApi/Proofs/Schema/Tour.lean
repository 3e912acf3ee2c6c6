import OpenApi.Proofs.Schema.Entered
/-! What the members of an `allOf` inherit, and the tour on which a merge comes by it. A declared schema
is entered once on a tour; nothing is lost by that, since all that it brings in is then on the tour. -/
namespace OpenApi.Schema

def Node.parents (node : Json) : List Json := (node.getItems? "allOf").getD []

inductive Inherited (components : Fields Json) (members : List Json) : Json → Prop where
  | member {node} (among : node ∈ members) : Inherited components members node
  | nested {node item} (above : Inherited components members node)
      (plain : Reference.of? node = none) (among : item ∈ Node.parents node) :
      Inherited components members item
  | declared {node reference name target} (above : Inherited components members node)
      (is : Reference.of? node = some reference)
      (declares : declared? components reference = some (name, target)) :
      Inherited components members target

theorem Inherited.through {components : Fields Json} {members others : List Json}
    (each : ∀ node ∈ members, Inherited components others node) {node}
    (inherited : Inherited components members node) : Inherited components others node := by
  induction inherited with
  | member among => exact each _ among
  | nested _ plain among ih => exact .nested ih plain among
  | declared _ is declares ih => exact .declared ih is declares

theorem Inherited.rest {components : Fields Json} {first node : Json} {members : List Json}
    (inherited : Inherited components members node) :
    Inherited components (first :: members) node :=
  inherited.through fun _ among => .member (List.mem_cons_of_mem _ among)

namespace Merge

/-- A tour of the members, with the nodes visited in order and the declared schemas entered by its end.
A node is visited after the members of its own `allOf`; a reference to a declared schema leads there,
unless the tour has been there. -/
inductive Tours (components : Fields Json) :
    List String → List Json → List Json → List String → Prop where
  | done {entered} : Tours components entered [] [] entered
  | plain {entered node rest inner next visited after} (plain : Reference.of? node = none)
      (nested : Tours components entered (Node.parents node) inner next)
      (others : Tours components next rest visited after) :
      Tours components entered (node :: rest) (inner ++ [node] ++ visited) after
  | known {entered node reference name target rest visited after}
      (is : Reference.of? node = some reference)
      (declares : declared? components reference = some (name, target)) (known : name ∈ entered)
      (others : Tours components entered rest visited after) :
      Tours components entered (node :: rest) visited after
  | enters {entered node reference name target rest inner next visited after}
      (is : Reference.of? node = some reference)
      (declares : declared? components reference = some (name, target)) (fresh : name ∉ entered)
      (inside : Tours components (name :: entered) [target] inner next)
      (others : Tours components next rest visited after) :
      Tours components entered (node :: rest) (inner ++ visited) after
  | undeclared {entered node reference rest visited after} (is : Reference.of? node = some reference)
      (undeclared : declared? components reference = none)
      (others : Tours components entered rest visited after) :
      Tours components entered (node :: rest) ([node] ++ visited) after

section
variable {components : Fields Json} {entered next after : List String}
  {members visited more : List Json}

theorem Tours.cons {node : Json} (first : Tours components entered [node] visited next)
    (others : Tours components next members more after) :
    Tours components entered (node :: members) (visited ++ more) after := by
  cases first with
  | plain plain nested ended =>
    cases ended
    simpa using Tours.plain plain nested others
  | known is declares known ended =>
    cases ended
    exact .known is declares known others
  | enters is declares fresh inside ended =>
    cases ended
    simpa using Tours.enters is declares fresh inside others
  | undeclared is undeclared ended =>
    cases ended
    simpa using Tours.undeclared is undeclared others

theorem toursGrow (tours : Tours components entered members visited after) : entered ⊆ after := by
  induction tours with
  | done => exact List.Subset.refl _
  | plain _ _ _ inner others => exact List.Subset.trans inner others
  | known _ _ _ _ others => exact others
  | enters _ _ _ _ _ inner others =>
    exact List.Subset.trans (List.subset_cons_self _ _) (List.Subset.trans inner others)
  | undeclared _ _ _ others => exact others

theorem toursUnique (tours : Tours components entered members visited after) {visited' after'}
    (tours' : Tours components entered members visited' after') :
    visited' = visited ∧ after' = after := by
  induction tours generalizing visited' after' with
  | done =>
    cases tours'
    exact ⟨rfl, rfl⟩
  | plain plain _ _ inner others =>
    cases tours' with
    | plain _ nested rest =>
      obtain ⟨rfl, rfl⟩ := inner nested
      obtain ⟨rfl, rfl⟩ := others rest
      exact ⟨rfl, rfl⟩
    | known is | enters is | undeclared is => simp [plain] at is
  | known is declares known _ others =>
    cases tours' with
    | plain plain => simp [plain] at is
    | known _ _ _ rest => exact others rest
    | enters is' declares' fresh =>
      cases is.symm.trans is'
      cases declares.symm.trans declares'
      exact absurd known fresh
    | undeclared is' undeclared =>
      cases is.symm.trans is'
      simp [undeclared] at declares
  | enters is declares fresh _ _ inner others =>
    cases tours' with
    | plain plain => simp [plain] at is
    | known is' declares' known =>
      cases is.symm.trans is'
      cases declares.symm.trans declares'
      exact absurd known fresh
    | enters is' declares' _ inside rest =>
      cases is.symm.trans is'
      cases declares.symm.trans declares'
      obtain ⟨rfl, rfl⟩ := inner inside
      obtain ⟨rfl, rfl⟩ := others rest
      exact ⟨rfl, rfl⟩
    | undeclared is' undeclared =>
      cases is.symm.trans is'
      simp [undeclared] at declares
  | undeclared is undeclared _ others =>
    cases tours' with
    | plain plain => simp [plain] at is
    | known is' declares | enters is' declares =>
      cases is.symm.trans is'
      simp [undeclared] at declares
    | undeclared _ _ rest =>
      obtain ⟨rfl, rfl⟩ := others rest
      exact ⟨rfl, rfl⟩

def Reached (components : Fields Json) (visited : List Json) (entered : List String)
    (node : Json) : Prop :=
  node ∈ visited ∨ ∃ reference name target, Reference.of? node = some reference ∧
    declared? components reference = some (name, target) ∧ name ∈ entered

theorem Reached.mono {node : Json} (reached : Reached components visited entered node)
    (sees : visited ⊆ more) (enters : entered ⊆ next) : Reached components more next node := by
  rcases reached with among | ⟨reference, name, target, is, declares, known⟩
  · exact .inl (sees among)
  · exact .inr ⟨reference, name, target, is, declares, enters known⟩

structure Complete (components : Fields Json) (entered : List String) (members visited : List Json)
    (after : List String) : Prop where
  grows : entered ⊆ after
  members : ∀ node ∈ members, Reached components visited after node
  nested : ∀ node ∈ visited, Reference.of? node = none →
    ∀ item ∈ Node.parents node, Reached components visited after item
  declared : ∀ name ∈ after, name ∉ entered → ∀ target, Fields.get? name components = some target →
    Reached components visited after target

theorem Complete.both {others : List Json} (first : Complete components entered members visited next)
    (second : Complete components next others more after) :
    Complete components entered (members ++ others) (visited ++ more) after := by
  have early {node : Json} (reached : Reached components visited next node) :
      Reached components (visited ++ more) after node :=
    reached.mono (List.subset_append_left _ _) second.grows
  have late {node : Json} (reached : Reached components more after node) :
      Reached components (visited ++ more) after node :=
    reached.mono (List.subset_append_right _ _) (List.Subset.refl _)
  constructor
  case grows => exact List.Subset.trans first.grows second.grows
  case members =>
    intro node among
    exact (List.mem_append.mp among).elim (fun a => early (first.members node a))
      fun a => late (second.members node a)
  case nested =>
    intro node among plain item listed
    exact (List.mem_append.mp among).elim (fun a => early (first.nested node a plain item listed))
      fun a => late (second.nested node a plain item listed)
  case declared =>
    intro name is fresh target found
    by_cases known : name ∈ next
    · exact early (first.declared name known fresh target found)
    · exact late (second.declared name is known target found)

end
end Merge
end OpenApi.Schema
