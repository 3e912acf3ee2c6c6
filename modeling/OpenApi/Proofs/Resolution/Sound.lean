import Mathlib.Logic.Relation
import OpenApi.Proofs.Resolution.Sighting
/-! Sound reference graphs. Soundness is said of the given document alone, without chains or
budgets; a resolution reports no problem exactly for the documents that are sound. -/
namespace OpenApi.Resolution

/-- `Walked root base location part`: `part`, at `location`, is met in the document or in the target
of a reference that is walked itself. -/
inductive Walked (root : Json) (base : String) : List String → Json → Prop where
  | root {location part} (met : Met root location part) : Walked root base location part
  | target {location node reference pointer target inner part}
      (walked : Walked root base location node) (is : Reference.of? node = some reference)
      (here : Reference.localPointer? reference base = some pointer)
      (found : Pointer.lookup? root (Pointer.segments pointer) = some target)
      (met : Met target inner part) : Walked root base (Pointer.segments pointer ++ inner) part

def Live (root : Json) (base : String) (location : List String) (reference : String) : Prop :=
  ∃ node, Walked root base location node ∧ Reference.of? node = some reference

def Leads (root : Json) (base : String) (pointer next : String) : Prop :=
  ∃ target inner node reference, Pointer.lookup? root (Pointer.segments pointer) = some target ∧
    Met target inner node ∧ Reference.of? node = some reference ∧
    Reference.localPointer? reference base = some next

structure Sound (root : Json) (base : String) : Prop where
  inside {location reference} (live : Live root base location reference) :
    ∃ pointer, Reference.localPointer? reference base = some pointer
  found {location reference pointer} (live : Live root base location reference)
    (here : Reference.localPointer? reference base = some pointer) :
    ∃ target, Pointer.lookup? root (Pointer.segments pointer) = some target
  acyclic {location reference pointer} (live : Live root base location reference)
    (here : Reference.localPointer? reference base = some pointer) :
    ¬ Relation.TransGen (Leads root base) pointer pointer

section
variable {root : Json} {base : String}

theorem visitOfWalked {location part} (walked : Walked root base location part) :
    ∃ chain, Visits root base chain location part := by
  -- A pointer that is not entered again was entered before, so no part is lost to the chain.
  induction walked with
  | root met => exact ⟨[], .root met⟩
  | @target _ _ _ pointer _ _ _ _ is here found met ih =>
    obtain ⟨chain, visit⟩ := ih
    by_cases held : pointer ∈ chain
    · obtain ⟨before, other, again, entered⟩ := visit.held held
      cases Option.some.inj (found.symm.trans again)
      exact ⟨before, entered.deeper met⟩
    · exact ⟨_, .enter visit is ⟨here, held, found⟩ met⟩

theorem walkedOfVisit {chain location part} (visit : Visits root base chain location part) :
    Walked root base location part := by
  induction visit with
  | root met => exact .root met
  | enter _ is enters met ih => exact .target ih is enters.here enters.found met

theorem visitAlong (unlooped : Unlooped root base) {chain location node reference pointer last}
    (visit : Visits root base chain location node) (is : Reference.of? node = some reference)
    (here : Reference.localPointer? reference base = some pointer)
    (path : Relation.TransGen (Leads root base) pointer last) :
    ∃ chain location node reference, Visits root base chain location node ∧
      Reference.of? node = some reference ∧
      Reference.localPointer? reference base = some last ∧ pointer ∈ chain := by
  have step {chain location node reference middle next}
      (visit : Visits root base chain location node) (is : Reference.of? node = some reference)
      (here : Reference.localPointer? reference base = some middle)
      (leads : Leads root base middle next) :
      ∃ location node reference, Visits root base (chain ++ [middle]) location node ∧
        Reference.of? node = some reference ∧
        Reference.localPointer? reference base = some next := by
    obtain ⟨target, inner, deep, nested, found, met, nestedIs, nestedHere⟩ := leads
    have fresh := unlooped _ _ _ _ _ visit is here
    exact ⟨_, deep, nested, .enter visit is ⟨here, fresh, found⟩ met, nestedIs, nestedHere⟩
  induction path with
  | single leads =>
    obtain ⟨_, _, _, deep, deepIs, deepHere⟩ := step visit is here leads
    exact ⟨_, _, _, _, deep, deepIs, deepHere, by simp⟩
  | tail _ leads ih =>
    obtain ⟨chain, _, _, _, middle, middleIs, middleHere, held⟩ := ih
    obtain ⟨_, _, _, deep, deepIs, deepHere⟩ := step middle middleIs middleHere leads
    exact ⟨_, _, _, _, deep, deepIs, deepHere, List.mem_append_left _ held⟩

theorem chainLeads {chain location node reference pointer}
    (visit : Visits root base chain location node) (is : Reference.of? node = some reference)
    (here : Reference.localPointer? reference base = some pointer) :
    ∀ held ∈ chain, Relation.TransGen (Leads root base) held pointer := by
  induction visit generalizing reference pointer with
  | root met => simp
  | @enter chain location outer outerRef middle target inner part visit outerIs enters met ih =>
    have last : Leads root base middle pointer :=
      ⟨target, inner, part, reference, enters.found, met, is, here⟩
    intro held member
    rcases List.mem_append.mp member with earlier | newest
    · exact .tail (ih outerIs enters.here held earlier) last
    · exact List.mem_singleton.mp newest ▸ .single last

theorem clearSound : Clear root base ↔ Sound root base := by
  constructor
  · intro clear
    have follow {location reference} (live : Live root base location reference) :
        ∃ chain node pointer target, Visits root base chain location node ∧
          Reference.of? node = some reference ∧
          Enters root base chain reference pointer target := by
      obtain ⟨node, walked, is⟩ := live
      obtain ⟨chain, visit⟩ := visitOfWalked walked
      obtain ⟨pointer, target, enters⟩ := clear _ _ _ _ visit is
      exact ⟨chain, node, pointer, target, visit, is, enters⟩
    constructor
    case inside =>
      intro location reference live
      obtain ⟨_, _, pointer, _, _, _, enters⟩ := follow live
      exact ⟨pointer, enters.here⟩
    case found =>
      intro location reference pointer live here
      obtain ⟨_, _, _, target, _, _, enters⟩ := follow live
      cases Option.some.inj (here.symm.trans enters.here)
      exact ⟨target, enters.found⟩
    case acyclic =>
      intro location reference pointer live here loop
      obtain ⟨_, _, _, _, visit, is, _⟩ := follow live
      obtain ⟨_, _, _, _, again, againIs, againHere, held⟩ := visitAlong clear.unlooped visit is here loop
      obtain ⟨_, _, enters⟩ := clear _ _ _ _ again againIs
      cases Option.some.inj (againHere.symm.trans enters.here)
      exact enters.fresh held
  · intro sound chain location node reference visit is
    have live : Live root base location reference := ⟨node, walkedOfVisit visit, is⟩
    obtain ⟨pointer, here⟩ := sound.inside live
    obtain ⟨target, found⟩ := sound.found live here
    exact ⟨pointer, target, here,
      fun held => sound.acyclic live here (chainLeads visit is here pointer held), found⟩

end

theorem problemsNilIffSound (fields : Fields Json) (base : String) :
    (resolve (.object fields) base).problems = [] ↔ Sound (.object fields) base := by
  rw [← clearSound, ← cleanClear, isClean, List.isEmpty_iff]

end OpenApi.Resolution
