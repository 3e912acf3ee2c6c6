import OpenApi.Json.Reader
import OpenApi.Proofs.Json.Keys
import OpenApi.Yaml.Value
/-! Documents that are read. Of repeated members the last one counts, at the place of the first, so
no object in them has two members of one name. -/
namespace OpenApi

namespace Json

theorem wellKeyedOfList {pairs : List (String × Json)} (each : ∀ m ∈ pairs, m.2.wellKeyed = true) :
    wellKeyed (.object (Fields.ofList pairs)) = true :=
  wellKeyedObject.mpr
    ⟨Fields.ofListDistinct pairs, fun m member => each m (Fields.ofListMember member)⟩

namespace Reader

structure ReadsKeyed (depth : Nat) : Prop where
  value : ∀ {text value left}, value? depth text = some (value, left) → value.wellKeyed = true
  items : ∀ {text items left}, items? depth text = some (items, left) →
    ∀ item ∈ items, item.wellKeyed = true
  members : ∀ {text members left}, members? depth text = some (members, left) →
    ∀ m ∈ members, m.2.wellKeyed = true

section
variable {depth : Nat} {text left : Text}

theorem wordKeyed {word value other} (keyed : value.wellKeyed = true)
    (ok : word? word value text = some (other, left)) : other.wellKeyed = true := by
  unfold word? at ok
  split at ok
  · cases ok
    exact keyed
  · cases ok

theorem valueKeyed (below : ReadsKeyed depth) {value}
    (ok : value? (depth + 1) text = some (value, left)) : value.wellKeyed = true := by
  unfold value? at ok
  split at ok
  · obtain ⟨_, _, same⟩ := Option.map_eq_some_iff.mp ok
    cases same
    rfl
  · split at ok
    · cases ok
      rfl
    · obtain ⟨_, listed, same⟩ := Option.map_eq_some_iff.mp ok
      cases same
      exact wellKeyedArray.mpr (below.items listed)
  · split at ok
    · cases ok
      rfl
    · obtain ⟨_, listed, same⟩ := Option.map_eq_some_iff.mp ok
      cases same
      exact wellKeyedOfList (below.members listed)
  · exact wordKeyed rfl ok
  · exact wordKeyed rfl ok
  · exact wordKeyed rfl ok
  · obtain ⟨_, _, same⟩ := Option.bind_eq_some_iff.mp ok
    cases same
    rfl

theorem itemsKeyed (below : ReadsKeyed depth) {items}
    (ok : items? (depth + 1) text = some (items, left)) : ∀ item ∈ items, item.wellKeyed = true := by
  unfold items? at ok
  obtain ⟨⟨item, rest⟩, first, ok⟩ := Option.bind_eq_some_iff.mp ok
  dsimp only at ok
  split at ok
  · cases ok
    simpa using below.value first
  · obtain ⟨_, later, same⟩ := Option.bind_eq_some_iff.mp ok
    cases same
    exact List.forall_mem_cons.mpr ⟨below.value first, below.items later⟩
  · cases ok

theorem membersKeyed (below : ReadsKeyed depth) {members}
    (ok : members? (depth + 1) text = some (members, left)) :
    ∀ m ∈ members, m.2.wellKeyed = true := by
  unfold members? at ok
  split at ok
  · obtain ⟨⟨key, rest⟩, _, ok⟩ := Option.bind_eq_some_iff.mp ok
    dsimp only at ok
    split at ok
    · obtain ⟨⟨value, rest⟩, first, ok⟩ := Option.bind_eq_some_iff.mp ok
      dsimp only at ok
      split at ok
      · cases ok
        simpa using below.value first
      · obtain ⟨_, later, same⟩ := Option.bind_eq_some_iff.mp ok
        cases same
        exact List.forall_mem_cons.mpr ⟨below.value first, below.members later⟩
      · cases ok
    · cases ok
  · cases ok

end

theorem readsKeyed (depth : Nat) : ReadsKeyed depth := by
  induction depth with
  | zero => constructor <;> simp [value?, items?, members?]
  | succ depth below => exact ⟨valueKeyed below, itemsKeyed below, membersKeyed below⟩

end Reader

theorem readKeyed {text : String} {document : Json} (ok : read? text = some document) :
    document.wellKeyed = true := by
  obtain ⟨⟨value, rest⟩, read, ok⟩ := Option.bind_eq_some_iff.mp ok
  dsimp only at ok
  split at ok
  · cases ok
    exact (Reader.readsKeyed _).value read
  · cases ok

end Json

namespace Yaml
namespace Scalar
variable {text : String} {value : Json}

theorem floatKeyed (ok : float? text = some value) : value.wellKeyed = true := by
  unfold float? at ok
  split at ok
  · cases ok
    rfl
  · obtain ⟨_, _, ok⟩ := Option.bind_eq_some_iff.mp ok
    split at ok <;> cases ok
    rfl

theorem intKeyed {i : Int} (ok : intValue? i = some (some value)) : value.wellKeyed = true := by
  unfold intValue? at ok
  split at ok
  · cases ok
    rfl
  · split at ok <;> cases ok

theorem valueKeyed (ok : value? text = some value) : value.wellKeyed = true := by
  unfold value? at ok
  split at ok
  · cases ok
    rfl
  · split at ok
    · cases ok
      rfl
    · rename_i number
      obtain ⟨i, _, given⟩ := Option.bind_eq_some_iff.mp number
      exact intKeyed (ok ▸ given)
    · split at ok
      · cases ok
        rfl
      · cases Option.some.inj ok
        cases read : float? text with
        | none => rfl
        | some value => exact floatKeyed read

end Scalar

namespace Reader

theorem taggedKeyed {tag text value} (ok : tagged? tag text = some value) :
    value.wellKeyed = true := by
  unfold tagged? at ok
  split at ok
  · obtain ⟨_, _, same⟩ := Option.map_eq_some_iff.mp ok
    cases same
    rfl
  · obtain ⟨i, _, given⟩ := Option.bind_eq_some_iff.mp (Option.join_eq_some_iff.mp ok)
    exact Scalar.intKeyed given
  · exact Scalar.floatKeyed ok
  · split at ok <;> cases ok
    rfl
  · cases ok
    rfl

theorem scalarKeyed {tag plain text value} (ok : scalar tag plain text = some value) :
    value.wellKeyed = true := by
  unfold scalar at ok
  split at ok
  · exact taggedKeyed ok
  · split at ok
    · exact Scalar.valueKeyed ok
    · cases ok
      rfl

def Gives {α : Type} (holds : α → Prop) (m : Reader α) : Prop :=
  ∀ r a r', m.run r = some (a, r') → holds a

namespace Gives
variable {α β : Type} {holds : α → Prop} {mid : β → Prop}

theorem pure {a : α} (is : holds a) : Gives holds (pure a) := by
  intro _ _ _ ok
  cases ok
  exact is

theorem failure : Gives holds failure := by
  intro _ _ _ ok
  cases ok

theorem any (m : Reader α) : Gives (fun _ => True) m := fun _ _ _ _ => trivial

theorem bind {m : Reader β} {f : β → Reader α} (first : Gives mid m)
    (next : ∀ b, mid b → Gives holds (f b)) : Gives holds (m >>= f) := by
  intro r a r' ok
  obtain ⟨⟨b, q⟩, run, rest⟩ := Option.bind_eq_some_iff.mp ok
  exact next b (first _ _ _ run) _ _ _ rest

theorem map {m : Reader β} {f : β → α} (first : Gives mid m) (next : ∀ b, mid b → holds (f b)) :
    Gives holds (f <$> m) := by
  rw [← bind_pure_comp]
  exact .bind first fun b is => .pure (next b is)

theorem given {x : Option α} (each : ∀ a, x = some a → holds a) :
    Gives holds (x.elim Alternative.failure Pure.pure) := by
  cases x with
  | none => exact .failure
  | some a => exact .pure (each a rfl)

theorem each {f : β → Reader α} (step : ∀ b, Gives holds (f b)) (list : List β) :
    Gives (fun as => ∀ a ∈ as, holds a) (list.mapM f) := by
  induction list with
  | nil => exact .pure (by simp)
  | cons b rest ih =>
    rw [List.mapM_cons]
    refine .bind (step b) fun a is => .bind ih fun as others => .pure ?_
    exact List.forall_mem_cons.mpr ⟨is, others⟩

end Gives

theorem textKeyed (tag : Option (List Char)) (plain : Bool) (text : String) :
    Gives (fun value => value.wellKeyed = true)
      (if isOwnTag tag then failure else (scalar tag plain text).elim failure pure) := by
  split
  · exact .failure
  · exact .given fun _ => scalarKeyed

theorem valueKeyed (depth : Nat) (node : Node) :
    Gives (fun value => value.wellKeyed = true) (value depth node) := by
  induction depth generalizing node with
  | zero =>
    unfold value
    refine .bind (.any _) fun target _ => ?_
    split
    · exact textKeyed _ _ _
    all_goals exact .failure
  | succ depth below =>
    unfold value
    refine .bind (.any _) fun target _ => ?_
    split
    · exact textKeyed _ _ _
    · dsimp only
      split
      · exact .failure
      · exact .map (.each below _) fun _ each => Json.wellKeyedArray.mpr each
    · dsimp only
      split
      · exact .failure
      · have entry : ∀ e : Node × Node, Gives (fun m => m.2.wellKeyed = true) (do
            let name ← key e.1
            return (name, ← value depth e.2)) := fun e =>
          .bind (.any _) fun _ _ => .bind (below e.2) fun _ is => .pure is
        refine .bind (.each entry _) fun fields each => ?_
        exact .pure (Json.wellKeyedOfList each)
    · exact .failure

end Reader

theorem readKeyed {text : String} {document : Json} (ok : read? text = some document) :
    document.wellKeyed = true := by
  obtain ⟨tokens, _, ok⟩ := Option.bind_eq_some_iff.mp ok
  obtain ⟨node, _, ok⟩ := Option.bind_eq_some_iff.mp ok
  obtain ⟨⟨value, r⟩, run, same⟩ := Option.map_eq_some_iff.mp ok
  cases same
  exact Reader.valueKeyed _ _ _ _ _ run

end Yaml
end OpenApi
