import OpenApi.Proofs.Schema.Marks
import OpenApi.Proofs.Schema.Merging
/-! What an image takes over from its document: its values are parts of it, its properties bear
names that stand in it, and no name is required twice. -/
namespace OpenApi.Schema

def Declared (document : Json) (m : String × Json) : Prop :=
  m.2.Within document ∧ document.HasKey m.1

structure Carries (document : Json) (entry : Entry) : Prop where
  values : ∀ value ∈ entry.carried, value.Within document
  named : ∀ key ∈ Fields.keys entry.properties, document.HasKey key
  distinct : entry.required.Nodup

section
variable {components : Fields Json} {source : Source} {document node : Json} {levels : Nat}
  {name : String} {entry : Entry}

theorem listedWithin (inside : node.Within document) {key : String} :
    ∀ value ∈ (node.getItems? key).getD [], value.Within document := by
  intro value among
  cases listed : node.getItems? key with
  | none => simp [listed] at among
  | some items => exact (Json.withinItems listed (by simpa [listed] using among)).trans inside

theorem memberWithin (inside : node.Within document) {key : String} :
    ∀ value ∈ (node.get? key).toList, value.Within document :=
  fun _ given => (Json.withinGet (Option.mem_toList.mp given)).trans inside

theorem declaredMembers (inside : node.Within document) {key : String} :
    ∀ m ∈ (node.getFields? key).getD [], Declared document m := by
  intro m member
  refine ⟨insideFields inside m member, ?_⟩
  cases found : node.getFields? key with
  | none => simp [found] at member
  | some fields =>
    rw [found] at member
    have within := (Json.withinGet (Json.getFieldsObject.mp found)).trans inside
    exact ⟨fields, within, List.mem_map.mpr ⟨m, member, rfl⟩⟩

theorem absorbDeclared {merged : Merged} (inside : node.Within document)
    (before : (∀ m ∈ merged.properties, Declared document m) ∧ merged.required.Nodup) :
    (∀ m ∈ (merged.absorb node).properties, Declared document m) ∧
      (merged.absorb node).required.Nodup :=
  ⟨absorbMembers before.1 (declaredMembers inside), addAllNodup _ before.2⟩

theorem valuesCarried (inside : node.Within document) {values : Option (List Json)}
    {fallback : Option Json} (listed : values = node.getItems? "enum")
    (given : fallback = node.get? "default") :
    ∀ value ∈ values.getD [] ++ fallback.toList, value.Within document := by
  rw [listed, given]
  exact List.forall_mem_append.mpr ⟨listedWithin inside, memberWithin inside⟩

theorem propertiesCarried {required : List String} {declared : Fields Json}
    {properties : Fields Property} (inside : ∀ m ∈ declared, Declared document m)
    (images : List.Forall₂ (PropertyImage components source levels required) declared properties) :
    ∀ p ∈ properties, document.HasKey p.1 ∧ ∀ value ∈ p.2.carried, value.Within document := by
  induction images with
  | nil => simp
  | cons image _ ih =>
    have ⟨first, later⟩ := List.forall_mem_cons.mp inside
    refine List.forall_mem_cons.mpr ⟨⟨image.name ▸ first.2, ?_⟩, ih later⟩
    exact valuesCarried first.1 image.values image.fallback

theorem partsCarry (own : ∀ value ∈ entry.values.getD [] ++ entry.fallback.toList, value.Within document)
    (sample : ∀ value ∈ entry.sample.toList, value.Within document)
    (properties : ∀ p ∈ entry.properties,
      document.HasKey p.1 ∧ ∀ value ∈ p.2.carried, value.Within document)
    (distinct : entry.required.Nodup) : Carries document entry where
  values := by
    refine List.forall_mem_append.mpr ⟨List.forall_mem_append.mpr ⟨own, sample⟩, ?_⟩
    intro value among
    obtain ⟨p, member, carried⟩ := List.mem_flatMap.mp among
    exact (properties p member).2 value carried
  named := by
    intro key among
    obtain ⟨p, member, rfl⟩ := List.mem_map.mp among
    exact (properties p member).1
  distinct := distinct

theorem Unrestricted.carried (unrestricted : Unrestricted entry) :
    ∀ value ∈ entry.values.getD [] ++ entry.fallback.toList, value.Within document := by
  simp [unrestricted.values, unrestricted.fallback]

theorem Annotated.carried {description} (inside : node.Within document)
    (annotated : Annotated node description entry) :
    ∀ value ∈ entry.sample.toList, value.Within document := by
  rw [annotated.sample]
  exact memberWithin inside

theorem objectCarries {declared : Fields Json} {required : List String}
    (inside : ∀ m ∈ declared, Declared document m) (distinct : required.Nodup)
    (sample : ∀ value ∈ entry.sample.toList, value.Within document)
    (image : ObjectImage components source levels node declared required entry) :
    Carries document entry :=
  partsCarry image.unrestricted.carried sample (propertiesCarried inside image.properties)
    (image.required ▸ distinct)

theorem imageCarries (declared : Inside document components) (inside : node.Within document)
    (image : Image components source levels name node entry) : Carries document entry := by
  cases image.form with
  | reference _ _ holds unrestricted unsaid =>
    exact partsCarry unrestricted.carried (by simp [unsaid.2.1]) (by simp [holds.properties])
      (by simp [holds.required])
  | merged plain composed merges object annotated =>
    have kept := mergeKeeps
      (fun merged => (∀ m ∈ merged.properties, Declared document m) ∧ merged.required.Nodup)
      (fun _ _ inside before => absorbDeclared inside before)
      ⟨by simp [Merged.empty], List.nodup_nil⟩ (fun _ => declared) name
      (compositionWithin inside composed)
    rw [merges] at kept
    obtain ⟨members, distinct⟩ := absorbDeclared inside kept
    exact objectCarries members distinct (annotated.carried inside) object
  | union _ _ _ _ holds annotated | array _ _ _ _ holds annotated =>
    exact partsCarry holds.unrestricted.carried (annotated.carried inside)
      (by simp [holds.properties]) (by simp [holds.required])
  | object single isObject object annotated =>
    have distinct : (Node.requiredNames node).Nodup := addAllNodup _ List.nodup_nil
    exact objectCarries (declaredMembers inside) distinct (annotated.carried inside) object
  | primitive _ _ _ holds restricted annotated =>
    exact partsCarry (valuesCarried inside restricted.values restricted.fallback)
      (annotated.carried inside) (by simp [holds.properties]) (by simp [holds.required])

theorem imageMarked (declared : Inside document components) (inside : node.Within document)
    (image : Image components source levels name node entry)
    (marked : entry.toJson.HasKey Reference.key) : document.HasKey Reference.key := by
  have carries := imageCarries declared inside image
  rcases (entryMarked entry).mp marked with property | ⟨value, carried, has⟩
  · exact carries.named _ property
  · exact has.outward (carries.values value carried)

end
end OpenApi.Schema
