import Mathlib.Data.List.Nodup
import OpenApi.Schema.Entry
/-! Slots and entries of two builds, up to the names that were given away in them. A name that both had
at first is its own partner; the others go together in pairs, one name of each build. -/
namespace OpenApi.Schema

inductive Partners (before : List String) (given : List (String × String)) :
    String → String → Prop where
  | before {name} (known : name ∈ before) : Partners before given name name
  | given {name other} (together : (name, other) ∈ given) : Partners before given name other

structure Pairing (before : List String) (given : List (String × String)) : Prop where
  left : (given.map Prod.fst).Nodup
  right : (given.map Prod.snd).Nodup
  newLeft : ∀ name ∈ given.map Prod.fst, name ∉ before
  newRight : ∀ name ∈ given.map Prod.snd, name ∉ before

section
variable {before : List String} {given more : List (String × String)} {name other third : String}

theorem Partners.grow (partners : Partners before given name other) (later : given ⊆ more) :
    Partners before more name other := by
  cases partners with
  | before known => exact .before known
  | given together => exact .given (later together)

theorem Partners.among (partners : Partners before given name other) :
    name ∈ given.map Prod.fst ++ before := by
  cases partners with
  | before known => exact List.mem_append_right _ known
  | given together => exact List.mem_append_left _ (List.mem_map_of_mem together)

theorem Partners.swap (partners : Partners before given name other) :
    Partners before (given.map Prod.swap) other name := by
  cases partners with
  | before known => exact .before known
  | given together => exact .given (List.mem_map.mpr ⟨_, together, rfl⟩)

theorem Pairing.swap (pairing : Pairing before given) : Pairing before (given.map Prod.swap) where
  left := by simpa [Function.comp_def] using pairing.right
  right := by simpa [Function.comp_def] using pairing.left
  newLeft := by simpa [Function.comp_def] using pairing.newRight
  newRight := by simpa [Function.comp_def] using pairing.newLeft

theorem Pairing.sole (pairing : Pairing before given) (one : Partners before given name other)
    (two : Partners before given name third) : other = third := by
  cases one with
  | before known =>
    cases two with
    | before => rfl
    | given together => exact absurd known (pairing.newLeft _ (List.mem_map_of_mem together))
  | given together =>
    cases two with
    | before known => exact absurd known (pairing.newLeft _ (List.mem_map_of_mem together))
    | given again =>
      exact congrArg Prod.snd (List.inj_on_of_nodup_map pairing.left together again rfl)

theorem Pairing.unique (pairing : Pairing before given) :
    Relator.BiUnique (Partners before given) :=
  ⟨fun _ _ _ one two => pairing.swap.sole one.swap two.swap, fun _ _ _ one two => pairing.sole one two⟩

end

structure Likeness (α β : Type) where
  holds : (String → String → Prop) → α → β → Prop
  wider {same more : String → String → Prop} {a : α} {b : β} :
    (∀ x y, same x y → more x y) → holds same a b → holds more a b

namespace Likeness

def name : Likeness String String := ⟨fun same a b => same a b, fun more => more _ _⟩

def both {α β γ δ : Type} (one : Likeness α β) (other : Likeness γ δ) : Likeness (α × γ) (β × δ) where
  holds same a b := one.holds same a.1 b.1 ∧ other.holds same a.2 b.2
  wider more alike := alike.imp (one.wider more) (other.wider more)

def list {α β : Type} (one : Likeness α β) : Likeness (List α) (List β) where
  holds same := List.Forall₂ (one.holds same)
  wider more alike := alike.imp fun _ _ => one.wider more

def option {α β : Type} (one : Likeness α β) : Likeness (Option α) (Option β) where
  holds same := Option.Rel (one.holds same)
  wider more alike := by
    cases alike with
    | none => exact .none
    | some alike => exact .some (one.wider more alike)

end Likeness

inductive SlotAlike (same : String → String → Prop) : Slot → Slot → Prop where
  | unnamed {slot : Slot} (unnamed : slot.names = []) : SlotAlike same slot slot
  | named {name other} (partners : same name other) : SlotAlike same (.schema name) (.schema other)
  | array {items others} (alike : SlotAlike same items others) :
      SlotAlike same (.array items) (.array others)
  | map {values others} (alike : SlotAlike same values others) :
      SlotAlike same (.map values) (.map others)

theorem SlotAlike.wider {same more : String → String → Prop} {slot other : Slot}
    (grows : ∀ x y, same x y → more x y) (alike : SlotAlike same slot other) :
    SlotAlike more slot other := by
  induction alike with
  | unnamed unnamed => exact .unnamed unnamed
  | named partners => exact .named (grows _ _ partners)
  | array _ ih => exact .array ih
  | map _ ih => exact .map ih

namespace Likeness

def slot : Likeness Slot Slot := ⟨SlotAlike, .wider⟩

def property : Likeness (String × Property) (String × Property) where
  holds same a b :=
    a.1 = b.1 ∧ SlotAlike same a.2.slot b.2.slot ∧ { b.2 with slot := a.2.slot } = a.2
  wider more alike := ⟨alike.1, alike.2.1.wider more, alike.2.2⟩

def composition : Likeness Composition Composition where
  holds same a b := a.kind = b.kind ∧ List.Forall₂ same a.memberNames b.memberNames
  wider more alike := ⟨alike.1, alike.2.imp more⟩

end Likeness

structure EntryAlike (same : String → String → Prop) (one other : Entry) : Prop where
  name : same one.name other.name
  dataType : Likeness.slot.option.holds same one.dataType other.dataType
  properties : Likeness.property.list.holds same one.properties other.properties
  items : Likeness.slot.option.holds same one.items other.items
  composition : Likeness.composition.option.holds same one.composition other.composition
  rest : { other with
    name := one.name, dataType := one.dataType, properties := one.properties, items := one.items,
    composition := one.composition } = one

theorem EntryAlike.wider {same more : String → String → Prop} {one other : Entry}
    (grows : ∀ x y, same x y → more x y) (alike : EntryAlike same one other) :
    EntryAlike more one other where
  name := grows _ _ alike.name
  dataType := Likeness.slot.option.wider grows alike.dataType
  properties := Likeness.property.list.wider grows alike.properties
  items := Likeness.slot.option.wider grows alike.items
  composition := Likeness.composition.option.wider grows alike.composition
  rest := alike.rest

namespace Likeness

def entry : Likeness Entry Entry := ⟨EntryAlike, .wider⟩

def made {α β : Type} (one : Likeness α β) : Likeness (α × List Entry) (β × List Entry) :=
  one.both entry.list

end Likeness

theorem EntryAlike.saying {same : String → String → Prop} {one other : Entry}
    (alike : EntryAlike same one other) (description : Option String) (sample : Option Json)
    (nullable : Option Bool) :
    EntryAlike same
      { one with description := description, sample := sample, nullable := nullable }
      { other with description := description, sample := sample, nullable := nullable } where
  name := alike.name
  dataType := alike.dataType
  properties := alike.properties
  items := alike.items
  composition := alike.composition
  rest := congrArg (fun entry : Entry =>
    { entry with description := description, sample := sample, nullable := nullable }) alike.rest

end OpenApi.Schema
