import OpenApi.Proofs.Percent
import OpenApi.Proofs.Pointer
import OpenApi.Proofs.Text
/-! Rendered locations read as pointers. Reading undoes the escapes of tildes and slashes. But it also
takes percent escapes for what they stand for, which rendering writes as they are, and it skips the
slashes of empty keys in front. -/
namespace OpenApi.Pointer

def unescaped (key : String) : String := String.ofList (Text.Percent.decode key.toList)

def reread : List String → List String
  | first :: second :: rest =>
    if first = "" then reread (second :: rest) else (first :: second :: rest).map unescaped
  | location => location.map unescaped

/-- A location that is read from its rendering as it stands. -/
structure Intact (location : List String) : Prop where
  plain : ∀ key ∈ location, ¬ Text.Percent.Escaped key.toList
  headed : location.head? = some "" → location = [""]

def escapeTilde (c : Char) : List Char := if c = '~' then ['~', '0'] else [c]

theorem slashesRead (text : List Char) :
    Text.joinPairs '~' '1' '/' (text.flatMap escape) = text.flatMap escapeTilde := by
  induction text with
  | nil => rfl
  | cons c rest ih =>
    rw [List.flatMap_cons, List.flatMap_cons, ← ih]
    by_cases tilde : c = '~'
    · subst tilde
      exact (Text.joinPairsApart (by decide) _).trans
        (congrArg (List.cons '~') (Text.joinPairsOther (by decide) _))
    · by_cases slash : c = '/'
      · subst slash
        exact Text.joinPairsPair _ _ _ _
      · simp only [escape, escapeTilde, if_neg tilde, if_neg slash]
        exact Text.joinPairsOther tilde _

theorem tildesRead (text : List Char) :
    Text.joinPairs '~' '0' '~' (text.flatMap escapeTilde) = text := by
  induction text with
  | nil => rfl
  | cons c rest ih =>
    rw [List.flatMap_cons]
    by_cases tilde : c = '~'
    · subst tilde
      exact (Text.joinPairsPair _ _ _ _).trans (congrArg _ ih)
    · simp only [escapeTilde, if_neg tilde]
      exact (Text.joinPairsOther tilde _).trans (congrArg _ ih)

theorem segmentRead (key : String) : decodeSegment (encodeSegment key) = unescaped key := by
  simp only [decodeSegment, encodeSegment, String.toList_ofList, slashesRead, tildesRead, unescaped]

theorem unescapedSame {key : String} :
    unescaped key = key ↔ ¬ Text.Percent.Escaped key.toList := by
  rw [← Text.Percent.decodeSame, unescaped, ← String.toList_inj, String.toList_ofList]

theorem splitRendered (key : String) (rest : List String) :
    Text.splitAtEach '/' (key.toList.flatMap escape ++ rendered rest) =
      (key :: rest).map fun key => key.toList.flatMap escape := by
  induction rest generalizing key with
  | nil =>
    rw [rendered, List.flatMap_nil, List.append_nil]
    exact Text.splitSingle.mpr ⟨escapedNoSlash _, rfl⟩
  | cons next rest ih =>
    have tail : rendered (next :: rest) = '/' :: (next.toList.flatMap escape ++ rendered rest) := rfl
    rw [tail, Text.splitFirst (escapedNoSlash _), ih next]
    rfl

theorem piecesRead (location : List String) :
    ((location.map fun key => key.toList.flatMap escape).map fun s =>
      decodeSegment (String.ofList s)) = location.map unescaped := by
  rw [List.map_map]
  exact List.map_congr_left fun key _ => segmentRead key

def unslashed (location : List String) : List Char :=
  (rendered location).dropWhile (· = '/')

theorem unslashedKey {key : String} (some : key ≠ "") (rest : List String) :
    unslashed (key :: rest) = key.toList.flatMap escape ++ rendered rest := by
  obtain ⟨c, more, is⟩ : ∃ c more, key.toList.flatMap escape = c :: more := by
    refine List.exists_cons_of_ne_nil fun empty => some ?_
    exact String.toList_inj.mp (escapeInjective empty)
  have other : c ≠ '/' := fun slash =>
    escapedNoSlash key.toList (by rw [is, slash]; exact List.mem_cons_self)
  have front : rendered (key :: rest) = '/' :: (key.toList.flatMap escape ++ rendered rest) := rfl
  rw [unslashed, front, is, List.dropWhile_cons_of_pos (by decide), List.cons_append,
    List.dropWhile_cons_of_neg (by simpa using other)]

theorem segmentsOfKeys (first : String) (rest : List String) :
    segments (render (first :: rest)) =
      (Text.splitAtEach '/' (unslashed (first :: rest))).map fun s =>
        decodeSegment (String.ofList s) := by
  have body : (render (first :: rest)).toList.dropWhile (· = '#') = rendered (first :: rest) := by
    rw [renderedList]
    rfl
  unfold segments
  rw [body]
  rfl

theorem segmentsRendered (location : List String) :
    segments (render location) = reread location := by
  fun_induction reread location with
  | case1 second rest ih =>
    rw [segmentsOfKeys] at ih ⊢
    exact ih
  | case2 first second rest some =>
    rw [segmentsOfKeys, unslashedKey some, splitRendered, piecesRead]
  | case3 location short =>
    cases location with
    | nil => rfl
    | cons key rest =>
      cases rest with
      | cons second rest => exact absurd rfl (short key second rest)
      | nil =>
        rw [segmentsOfKeys, ← piecesRead]
        by_cases empty : key = ""
        · rw [empty]
          rfl
        · rw [unslashedKey empty, splitRendered]

theorem mapUnescapedSame {location : List String} :
    location.map unescaped = location ↔ ∀ key ∈ location, ¬ Text.Percent.Escaped key.toList := by
  calc location.map unescaped = location
      ↔ location.map unescaped = location.map id := by rw [List.map_id]
    _ ↔ ∀ key ∈ location, unescaped key = key := List.map_inj_left
    _ ↔ _ := forall₂_congr fun _ _ => unescapedSame

theorem rereadShort (location : List String) : (reread location).length ≤ location.length := by
  fun_induction reread location with
  | case1 second rest ih => exact Nat.le_succ_of_le ih
  | case2 | case3 => simp

theorem rereadSame {location : List String} : reread location = location ↔ Intact location := by
  fun_cases reread location with
  | case1 second rest =>
    constructor
    · intro same
      have short := rereadShort (second :: rest)
      rw [same] at short
      exact absurd short (Nat.not_succ_le_self _)
    · intro intact
      simpa using intact.headed rfl
  | case2 first second rest some =>
    rw [mapUnescapedSame]
    exact ⟨fun plain => ⟨plain, fun empty => absurd (Option.some.inj empty) some⟩,
      fun intact => intact.plain⟩
  | case3 location short =>
    rw [mapUnescapedSame]
    refine ⟨fun plain => ⟨plain, fun empty => ?_⟩, fun intact => intact.plain⟩
    match location, short, empty with
    | [key], _, empty => rw [Option.some.inj empty]
    | first :: second :: rest, short, _ => exact absurd rfl (short first second rest)

theorem renderedRead (location : List String) :
    segments (render location) = reread location ∧
      (segments (render location) = location ↔ Intact location) ∧
      ∀ base root, (Reference.localPointer? (render location) base).bind
        (fun pointer => lookup? root (segments pointer)) = lookup? root (reread location) := by
  have read := segmentsRendered location
  refine ⟨read, by rw [read, rereadSame], fun base root => ?_⟩
  rw [localFragment (renderedList location) base, Option.bind_some, read]

theorem emptyKeyLost : ¬ ∀ location, segments (render location) = location := by
  intro restored
  have skipped : segments (render ["", "a"]) = ["a"] := by decide +kernel
  rw [restored] at skipped
  simp at skipped

example : segments (render ["100%25", "~1"]) = ["100%", "~1"] := by decide +kernel

end OpenApi.Pointer
