import OpenApi.Proofs.Json.Keys
/-! Locations and pointers. A location is rendered as a pointer of its own, and it leads to one part
of a document at most. -/
namespace OpenApi.Pointer

theorem escapeStep {c d : Char} {a b : List Char} (same : escape c ++ a = escape d ++ b) :
    c = d ∧ a = b := by
  unfold escape at same
  split at same
  · rename_i tilde
    split at same
    · rename_i other
      have rest : a = b := by simpa using same
      exact ⟨tilde.trans other.symm, rest⟩
    · rename_i other
      split at same
      · simp at same
      · exact absurd (List.cons.inj same).1.symm other
  · rename_i plain
    split at same
    · rename_i slash
      split at same
      · simp at same
      · rename_i other
        split at same
        · rename_i last
          exact ⟨slash.trans last.symm, by simpa using same⟩
        · exact absurd (List.cons.inj same).1.symm other
    · split at same
      · exact absurd (List.cons.inj same).1 plain
      · split at same
        · exact absurd (List.cons.inj same).1 plain
        · exact List.cons.inj same

theorem escapeSome (c : Char) (rest : List Char) : escape c ++ rest ≠ [] := by
  unfold escape
  split
  · simp
  · split <;> simp

theorem escapeInjective {a b : List Char} (same : a.flatMap escape = b.flatMap escape) : a = b := by
  induction a generalizing b with
  | nil =>
    cases b with
    | nil => rfl
    | cons d rest => exact absurd same.symm (escapeSome d _)
  | cons c rest ih =>
    cases b with
    | nil => exact absurd same (escapeSome c _)
    | cons d others =>
      obtain ⟨first, later⟩ := escapeStep same
      rw [first, ih later]

theorem escapedNoSlash (segment : List Char) : '/' ∉ segment.flatMap escape := by
  intro among
  obtain ⟨c, -, held⟩ := List.mem_flatMap.mp among
  unfold escape at held
  split at held
  · simp at held
  · split at held
    · simp at held
    · rename_i other
      exact other (List.mem_singleton.mp held).symm

def rendered (location : List String) : List Char :=
  location.flatMap fun segment => '/' :: segment.toList.flatMap escape

theorem renderedList (location : List String) :
    (render location).toList = '#' :: rendered location := by
  simp [render, rendered, encodeSegment, String.toList_join, List.flatMap_map]

theorem renderedSegment (location : List String) :
    (rendered location).takeWhile (· ≠ '/') = [] := by
  cases location <;> simp [rendered]

theorem segmentSplit {a b : List Char} {rest others : List String} (bareA : '/' ∉ a)
    (bareB : '/' ∉ b) (same : a ++ rendered rest = b ++ rendered others) :
    a = b ∧ rendered rest = rendered others := by
  have first {a : List Char} (bare : '/' ∉ a) (rest : List String) :
      (a ++ rendered rest).takeWhile (· ≠ '/') = a := by
    rw [List.takeWhile_append_of_pos, renderedSegment, List.append_nil]
    intro c member
    exact decide_eq_true fun slash => bare (slash ▸ member)
  have segment : a = b := by
    rw [← first bareA rest, ← first bareB others, same]
  subst segment
  exact ⟨rfl, List.append_cancel_left same⟩

theorem renderedInjective {a b : List String} (same : rendered a = rendered b) : a = b := by
  induction a generalizing b with
  | nil =>
    cases b with
    | nil => rfl
    | cons segment rest => cases same
  | cons segment rest ih =>
    cases b with
    | nil => cases same
    | cons other others =>
      have tail := (List.cons.inj same).2
      obtain ⟨first, later⟩ := segmentSplit (escapedNoSlash _) (escapedNoSlash _) tail
      have text : segment = other := String.toList_inj.mp (escapeInjective first)
      rw [text, ih later]

theorem renderInjective {a b : List String} (same : render a = render b) : a = b := by
  have listed := congrArg String.toList same
  rw [renderedList, renderedList] at listed
  exact renderedInjective (List.cons.inj listed).2

theorem localFragment {reference : String} {fragment : List Char}
    (is : reference.toList = '#' :: fragment) (base : String) :
    Reference.localPointer? reference base = some reference := by
  have parsed : Reference.parse reference = ⟨"", some (String.ofList fragment)⟩ := by
    simp [Reference.parse, is, Text.splitAtFirst?]
  have whole : "#" ++ String.ofList fragment = reference := by
    simp [← String.toList_inj, is]
  unfold Reference.localPointer?
  rw [parsed]
  simp [whole]

theorem writtenDigits (index : Nat) : (toString index).toList = Nat.toDigits 10 index := by
  rw [Nat.toString_eq_ofList_toDigits, String.toList_ofList]

theorem writtenInjective {i j : Nat} (same : toString i = toString j) : i = j := by
  have digits := congrArg String.toList same
  rw [writtenDigits, writtenDigits] at digits
  rw [← Nat.ofDigitChars_ten_toDigits (n := i), digits, Nat.ofDigitChars_ten_toDigits]

theorem indexWritten (index : Nat) :
    index? (toString index) = if index < UInt64.size then some index else none := by
  have digits : ∀ c ∈ Nat.toDigits 10 index, c.isDigit = true :=
    fun c among => Nat.isDigit_of_mem_toDigits (by decide) (by decide) among
  have value : (Nat.toDigits 10 index).foldl (fun n c => 10 * n + (c.toNat - '0'.toNat)) 0 = index :=
    Nat.ofDigitChars_ten_toDigits
  unfold index?
  rw [writtenDigits]
  dsimp only
  split
  · rename_i rest signed
    exact absurd (digits '+' (signed ▸ List.mem_cons_self)) (by decide)
  · rw [if_neg (by simpa [Nat.toDigits_ne_nil] using digits), value]

theorem indexSame {index read : Nat} (found : index? (toString index) = some read) :
    read = index := by
  rw [indexWritten] at found
  split at found
  · exact (Option.some.inj found).symm
  · cases found

/-- `Stands root location part`: the location leads to the part, with positions written in any way. -/
inductive Stands : Json → List String → Json → Prop where
  | here {value} : Stands value [] value
  | item {items : List Json} {index : Nat} {segment item location part}
      (position : segment = toString index ∨ index? segment = some index)
      (member : items[index]? = some item) (inside : Stands item location part) :
      Stands (.array items) (segment :: location) part
  | field {fields : Fields Json} {key value location part} (member : (key, value) ∈ fields)
      (inside : Stands value location part) : Stands (.object fields) (key :: location) part

theorem positionUnique {segment : String} {i j : Nat}
    (one : segment = toString i ∨ index? segment = some i)
    (other : segment = toString j ∨ index? segment = some j) : i = j := by
  rcases one with written | found
  · rcases other with again | read
    · exact writtenInjective (written.symm.trans again)
    · exact (indexSame (written ▸ read)).symm
  · rcases other with written | read
    · exact indexSame (written ▸ found)
    · exact Option.some.inj (found.symm.trans read)

theorem Stands.unique {root location part other} (keyed : root.wellKeyed = true)
    (one : Stands root location part) (again : Stands root location other) : part = other := by
  induction one with
  | here => cases again; rfl
  | item position member _ ih =>
    cases again with
    | item written listed inside =>
      cases positionUnique position written
      cases Option.some.inj (member.symm.trans listed)
      exact ih (Json.wellKeyedArray.mp keyed _ (List.mem_of_getElem? member)) inside
  | field member _ ih =>
    cases again with
    | field given inside =>
      obtain ⟨distinct, members⟩ := Json.wellKeyedObject.mp keyed
      have first := Fields.getOfMember distinct member
      have second := Fields.getOfMember distinct given
      cases Option.some.inj (first.symm.trans second)
      exact ih (members _ member) inside

theorem Stands.within {root location part} (stands : Stands root location part) :
    part.Within root := by
  induction stands with
  | here => exact .refl
  | item _ member _ ih => exact .item (List.mem_of_getElem? member) ih
  | field member _ ih => exact .field member ih

theorem Stands.trans {root outer middle inner part} (first : Stands root outer middle)
    (rest : Stands middle inner part) : Stands root (outer ++ inner) part := by
  induction first with
  | here => exact rest
  | item position member _ ih => exact .item position member (ih rest)
  | field member _ ih => exact .field member (ih rest)

theorem lookupStands {root location part} (found : lookup? root location = some part) :
    Stands root location part := by
  induction location generalizing root with
  | nil =>
    cases Option.some.inj found
    exact .here
  | cons segment rest ih =>
    obtain ⟨child, step, deeper⟩ := Option.bind_eq_some_iff.mp found
    cases root with
    | object fields => exact .field (Fields.getMember step) (ih deeper)
    | array items =>
      obtain ⟨index, position, member⟩ := Option.bind_eq_some_iff.mp step
      exact .item (.inr position) member (ih deeper)
    | null | bool | number | string => cases step

end OpenApi.Pointer
