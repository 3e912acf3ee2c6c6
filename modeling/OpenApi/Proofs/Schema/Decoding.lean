import OpenApi.Proofs.Fields
import OpenApi.Schema.Decode
import OpenApi.Schema.Encode
/-! What was written reads back. A record is read member by member; a member that was left out leaves
its place in the record as it was. Null alone reads back as if nothing had been written. -/
namespace OpenApi

namespace Json.Decode

def Reads {δ : Type} (put : δ → String × Json → Decoded δ) (d : δ) (fields : Fields Json)
    (next : δ) : Prop :=
  fields.foldlM put d = .ok next

section
variable {δ α : Type} {put : δ → String × Json → Decoded δ} {d next last : δ}

theorem Reads.both {fields more : Fields Json} (first : Reads put d fields next)
    (second : Reads put next more last) : Reads put d (fields ++ more) last := by
  unfold Reads at first second ⊢
  rw [List.foldlM_append, first]
  exact second

theorem Reads.one {key : String} {value : Json} (given : put d (key, value) = .ok next) :
    Reads put d [(key, value)] next := by
  simp only [Reads, List.foldlM_cons, given, List.foldlM_nil]
  rfl

theorem Reads.absent {fields : Fields Json} (empty : fields = []) : Reads put d fields d := by
  rw [empty]
  rfl

theorem Reads.optional {key : String} {read : Json → Decoded α} {write : α → Json}
    {f : δ → Option α → δ} (blank : f d none = d)
    (puts : ∀ value, put d (key, value) = do return f d (← Decode.optional read value))
    (reads : ∀ a, Decode.optional read (write a) = .ok (some a)) (value : Option α) :
    Reads put d (member key (value.map write)) (f d value) := by
  cases value with
  | none =>
    rw [blank]
    exact .absent rfl
  | some a =>
    refine .one ?_
    rw [puts, reads]
    rfl

end

def nonNull (value : Option Json) : Option Json := value.filter (!·.isNull)

theorem nonNullSame {value : Option Json} : nonNull value = value ↔ value ≠ some .null := by
  cases value with
  | none => simp [nonNull]
  | some v => cases v <;> simp [nonNull, isNull]

theorem Reads.any {δ : Type} {put : δ → String × Json → Decoded δ} {d : δ} {key : String}
    {f : δ → Option Json → δ} (blank : f d none = d)
    (puts : ∀ value, put d (key, value) = do return f d (← Decode.optional .ok value))
    (value : Option Json) : Reads put d (member key value) (f d (nonNull value)) := by
  cases value with
  | none =>
    change Reads put d [] (f d none)
    rw [blank]
    exact .absent rfl
  | some v =>
    refine .one ?_
    rw [puts]
    cases v <;> rfl

section
variable {α δ : Type} {what : String} {needed others : List String}
  {put : δ → String × Json → Decoded δ} {blank d : δ} {close : δ → Decoded α} {made : α}

theorem recordRead {fields : Fields Json} (members : Reads put blank fields d)
    (closed : close d = .ok made) :
    record what needed others put blank close (.object fields) = .ok made := by
  change (do close (← fields.foldlM put blank)) = _
  rw [members]
  exact closed

theorem recordInOrder {items : List Json} :
    record what needed others put blank close (.array items) = .ok made ↔
      needed.length ≤ items.length ∧ items.length ≤ (needed ++ others).length ∧
      record what needed others put blank close (.object ((needed ++ others).zip items)) =
        .ok made := by
  simp only [record]
  cases members : ((needed ++ others).zip items).foldlM put blank with
  | error mismatch => simp [bind, Except.bind]
  | ok d =>
    simp only [bind, Except.bind]
    by_cases few : items.length < needed.length
    · have lacking : ¬ needed.length ≤ items.length := Nat.not_le.mpr few
      simp [few, lacking]
    · by_cases many : (needed ++ others).length < items.length
      · have spare : ¬ items.length ≤ (needed ++ others).length := Nat.not_le.mpr many
        cases close d <;> simp only [few, many, spare, ↓reduceIte, false_and, and_false, reduceCtorEq]
      · cases close d <;>
          simp only [few, many, ↓reduceIte, Nat.not_lt.mp few, Nat.not_lt.mp many, true_and,
            pure, Except.pure]

end

end Json.Decode

namespace Schema
open Json.Decode

theorem Slot.readBack (slot : Slot) (inside : Bool) (rest : Fields Json) :
    Slot.read inside (.object (slot.fields ++ rest)) = .ok slot := by
  induction slot generalizing inside rest with
  | array items ih =>
    have held : Slot.read true (.object items.fields) = .ok items := by simpa using ih true []
    have read : Slot.read inside (.object ((Slot.array items).fields ++ rest)) =
      .array <$> Slot.read true (.object items.fields) := rfl
    rw [read, held]
    rfl
  | map values ih =>
    have held : Slot.read true (.object values.fields) = .ok values := by simpa using ih true []
    have read : Slot.read inside (.object ((Slot.map values).fields ++ rest)) =
      .map <$> Slot.read true (.object values.fields) := rfl
    rw [read, held]
    rfl
  | schema | string | integer | number | boolean | object | any => rfl

theorem Slot.optionalBack (slot : Slot) :
    Json.Decode.optional (Slot.read false) slot.toJson = .ok (some slot) := by
  have read : Slot.read false (.object slot.fields) = .ok slot := by
    simpa using slot.readBack false []
  change (Slot.read false (.object slot.fields)).map some = _
  rw [read]
  rfl

theorem textsBack (texts : List String) : (texts.map Json.string).mapM text = .ok texts := by
  induction texts with
  | nil => rfl
  | cons first rest ih =>
    simp only [List.map_cons, List.mapM_cons, ih]
    rfl

theorem Composition.readBack (c : Composition) : Composition.read c.toJson = .ok c := by
  obtain ⟨kind, names⟩ := c
  have named : texts (.array (names.map .string)) = .ok names := textsBack names
  have keyword : choice Kind.choices (.string kind.word) = .ok kind := by cases kind <;> rfl
  have members : Reads Draft.put ⟨none, none⟩
      [("kind", .string kind.word), ("memberNames", .array (names.map .string))]
      ⟨some kind, some names⟩ := by
    simp only [Reads, List.foldlM_cons, Draft.put, keyword, named]
    rfl
  exact recordRead members rfl

theorem Constraints.readBack (c : Constraints) : Constraints.read c.toJson = .ok c := by
  have counted (n : Option Nat) : (do let i ← n; return (i : Int)).map (fun i => Json.number (.int i)) =
      n.map fun i : Nat => .number (.int i) := by
    cases n <;> rfl
  unfold Constraints.toJson
  simp only [List.append_assoc, counted]
  refine recordRead (d := c) ?_ rfl
  refine Reads.both (.optional (f := fun c v => { c with minLength := v }) rfl (fun _ => rfl)
    (fun _ => rfl) _) ?_
  refine Reads.both (.optional (f := fun c v => { c with maxLength := v }) rfl (fun _ => rfl)
    (fun _ => rfl) _) ?_
  refine Reads.both (.optional (f := fun c v => { c with pattern := v }) rfl (fun _ => rfl)
    (fun _ => rfl) _) ?_
  refine Reads.both (.optional (f := fun c v => { c with minimum := v }) rfl (fun _ => rfl)
    (fun _ => rfl) _) ?_
  exact .optional (f := fun (c : Constraints) v => { c with maximum := v }) rfl (fun _ => rfl)
    (fun _ => rfl) _

theorem Constraints.optionalBack (c : Constraints) :
    Json.Decode.optional Constraints.read c.toJson = .ok (some c) := by
  change (Constraints.read c.toJson).map some = _
  rw [c.readBack]
  rfl

theorem Composition.optionalBack (c : Composition) :
    Json.Decode.optional Composition.read c.toJson = .ok (some c) := by
  change (Composition.read c.toJson).map some = _
  rw [c.readBack]
  rfl

namespace Property

def withoutNull (p : Property) : Property := { p with fallback := nonNull p.fallback }

theorem slotPassed (slot : Slot) (d : Draft) : Reads Draft.put d slot.fields d := by
  cases slot <;> rfl

section
variable {α : Type} {d : Draft} {key : String} {r : Json → Json.Decoded α} {w : α → Json}
  {f : Property → Option α → Property}

theorem Draft.member (blank : f d.property none = d.property)
    (puts : ∀ value, d.put (key, value) = do
      return { d with property := f d.property (← optional r value) })
    (reads : ∀ a, optional r (w a) = .ok (some a)) (value : Option α) :
    Reads Draft.put d (Json.member key (value.map w))
      { d with property := f d.property value } :=
  have still : { d with property := f d.property none } = d := by rw [blank]
  .optional (f := fun (d : Draft) v => { d with property := f d.property v }) still puts reads value

end

theorem membersRead (p : Property) : ∃ fields, p.toJson = .object (p.slot.fields ++ fields) ∧
    Reads Draft.put .blank fields
      ⟨some p.required, { p.withoutNull with slot := .any, required := false }⟩ := by
  unfold toJson
  simp only [List.append_assoc]
  refine ⟨_, rfl, ?_⟩
  refine Reads.both (Draft.member (f := fun p v => { p with format := v }) rfl (fun _ => rfl)
    (fun _ => rfl) _) ?_
  refine Reads.both (Draft.member (f := fun p v => { p with values := v }) rfl (fun _ => rfl)
    (fun _ => rfl) _) ?_
  refine Reads.both (.any (f := fun d v => { d with property.fallback := v }) rfl (fun _ => rfl) _) ?_
  refine Reads.both (.one rfl) ?_
  refine Reads.both (Draft.member (f := fun p v => { p with nullable := v }) rfl (fun _ => rfl)
    (fun _ => rfl) _) ?_
  refine Reads.both (Draft.member (f := fun p v => { p with readOnly := v }) rfl (fun _ => rfl)
    (fun _ => rfl) _) ?_
  refine Reads.both (Draft.member (f := fun p v => { p with writeOnly := v }) rfl (fun _ => rfl)
    (fun _ => rfl) _) ?_
  refine Reads.both (Draft.member (f := fun p v => { p with deprecated := v }) rfl (fun _ => rfl)
    (fun _ => rfl) _) ?_
  refine Reads.both (Draft.member (f := fun p v => { p with constraints := v }) rfl (fun _ => rfl)
    Constraints.optionalBack _) ?_
  exact Draft.member (f := fun p v => { p with description := v }) rfl (fun _ => rfl)
    (fun _ => rfl) _

theorem readBack (p : Property) : read p.toJson = .ok p.withoutNull := by
  obtain ⟨fields, is, reads⟩ := p.membersRead
  have members : Reads Draft.put .blank (p.slot.fields ++ fields) _ := (slotPassed _ _).both reads
  rw [is]
  simp only [read, p.slot.readBack]
  rw [members]
  rfl

end Property

theorem fieldsBack {α : Type} {r : Json → Json.Decoded α} {w : α → Json} {f : α → α}
    {fields : Fields α} (back : ∀ m ∈ fields, r (w m.2) = .ok (f m.2)) :
    fieldsOf r (.object (fields.map fun m => (m.1, w m.2))) =
      .ok (fields.map fun m => (m.1, f m.2)) := by
  change (fields.map fun m => (m.1, w m.2)).mapM _ = _
  induction fields with
  | nil => rfl
  | cons m rest ih =>
    have ⟨first, later⟩ := List.forall_mem_cons.mp back
    simp only [List.map_cons, List.mapM_cons, first, ih later]
    rfl

theorem requiredBack {names : List String} (distinct : names.Nodup) :
    textSet (.array (names.map .string)) = .ok names := by
  have added : names.foldl addNew [] = names := by
    simpa using addAllNew distinct fun _ _ => List.not_mem_nil
  simp only [textSet, textsBack]
  exact congrArg Except.ok added

namespace Entry

def withoutNull (e : Entry) : Entry :=
  { e with
    fallback := nonNull e.fallback
    sample := nonNull e.sample
    properties := e.properties.map fun p => (p.1, p.2.withoutNull) }

section
variable {α : Type} {d : Draft} {key : String} {r : Json → Json.Decoded α} {w : α → Json}
  {f : Entry → Option α → Entry}

theorem Draft.member (blank : f d.entry none = d.entry)
    (puts : ∀ value, d.put (key, value) = do
      return { d with entry := f d.entry (← optional r value) })
    (reads : ∀ a, optional r (w a) = .ok (some a)) (value : Option α) :
    Reads Draft.put d (Json.member key (value.map w)) { d with entry := f d.entry value } :=
  have still : { d with entry := f d.entry none } = d := by rw [blank]
  .optional (f := fun (d : Draft) v => { d with entry := f d.entry v }) still puts reads value

end

theorem propertiesRead {d : Draft} (blank : d.entry.properties = []) (properties : Fields Property) :
    Reads Draft.put d (if (properties.map fun p => (p.1, p.2.toJson)).isEmpty then []
      else [("properties", .object (properties.map fun p => (p.1, p.2.toJson)))])
      { d with entry.properties := properties.map fun p => (p.1, p.2.withoutNull) } := by
  cases properties with
  | nil =>
    change Reads _ d [] { d with entry.properties := [] }
    rw [← blank]
    exact .absent rfl
  | cons p rest =>
    refine .one ?_
    simp only [Draft.put, fieldsBack fun m (_ : m ∈ p :: rest) => m.2.readBack]
    rfl

theorem requiredRead {d : Draft} (blank : d.entry.required = []) {required : List String}
    (distinct : required.Nodup) :
    Reads Draft.put d (if required.isEmpty then [] else [("required", .array (required.map .string))])
      { d with entry.required := required } := by
  cases required with
  | nil =>
    change Reads _ d [] { d with entry.required := [] }
    rw [← blank]
    exact .absent rfl
  | cons name rest =>
    refine .one ?_
    simp only [Draft.put, requiredBack distinct]
    rfl

theorem membersRead {e : Entry} (distinct : e.required.Nodup) :
    ∃ fields, e.toJson = .object fields ∧
      Reads Draft.put Draft.blank fields
        ⟨some e.name, some e.kind, { e.withoutNull with name := "", kind := .primitive }⟩ := by
  have opened : Reads Draft.put Draft.blank
      [("name", .string e.name), ("kind", .string e.kind.word)]
      ⟨some e.name, some e.kind, .blank "" .primitive⟩ := by
    cases e.kind <;> rfl
  unfold toJson
  simp only [List.append_assoc]
  refine ⟨_, rfl, opened.both ?_⟩
  refine Reads.both (Draft.member (f := fun e v => { e with dataType := v }) rfl (fun _ => rfl)
    Slot.optionalBack _) ?_
  refine Reads.both (Draft.member (f := fun e v => { e with format := v }) rfl (fun _ => rfl)
    (fun _ => rfl) _) ?_
  refine Reads.both (Draft.member (f := fun e v => { e with values := v }) rfl (fun _ => rfl)
    (fun _ => rfl) _) ?_
  refine Reads.both (.any (f := fun d v => { d with entry.fallback := v }) rfl (fun _ => rfl) _) ?_
  refine Reads.both (Draft.member (f := fun e v => { e with nullable := v }) rfl (fun _ => rfl)
    (fun _ => rfl) _) ?_
  refine Reads.both (propertiesRead rfl _) ?_
  refine Reads.both (requiredRead rfl distinct) ?_
  refine Reads.both (Draft.member (f := fun e v => { e with items := v }) rfl (fun _ => rfl)
    Slot.optionalBack _) ?_
  refine Reads.both (Draft.member (f := fun e v => { e with composition := v }) rfl (fun _ => rfl)
    Composition.optionalBack _) ?_
  refine Reads.both (Draft.member (f := fun e v => { e with constraints := v }) rfl (fun _ => rfl)
    Constraints.optionalBack _) ?_
  refine Reads.both (Draft.member (f := fun e v => { e with description := v }) rfl (fun _ => rfl)
    (fun _ => rfl) _) ?_
  exact .any (f := fun (d : Draft) v => { d with entry.sample := v }) rfl (fun _ => rfl) _

theorem readBack {e : Entry} (distinct : e.required.Nodup) : read e.toJson = .ok e.withoutNull := by
  obtain ⟨fields, is, members⟩ := membersRead distinct
  rw [is]
  exact recordRead members rfl

end Entry
end Schema
end OpenApi
