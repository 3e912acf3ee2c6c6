import OpenApi.Proofs.Resolution.Visit
/-! What a resolution sights: at each visit of a reference that cannot be entered one sighting, and
no others. A report has no problem exactly when nothing is sighted, which is when every visited
reference can be entered. -/
namespace OpenApi.Resolution

inductive Sights (root : Json) (base : String) (chain location : List String)
    (reference : String) : Sighting → Prop where
  | outside (away : Reference.localPointer? reference base = none) :
      Sights root base chain location reference (.outside reference location)
  | circle {pointer} (here : Reference.localPointer? reference base = some pointer)
      (held : pointer ∈ chain) :
      Sights root base chain location reference
        (.circle reference location (chain.dropWhile (· ≠ pointer)) pointer)
  | missing {pointer} (here : Reference.localPointer? reference base = some pointer)
      (fresh : pointer ∉ chain) (lost : Pointer.lookup? root (Pointer.segments pointer) = none) :
      Sights root base chain location reference (.missing reference location pointer)

def targetWalk (root : Json) (base : String) (budget : Nat) (chain : List String)
    (pointer : String) (target : Json) : Noted Json :=
  walk (follow root base budget (chain ++ [pointer])) (Pointer.segments pointer) target

section
variable {root : Json} {base reference pointer : String} {budget : Nat}
  {chain location : List String} {target : Json}

theorem sightsOrEnters (root : Json) (base : String) (chain location : List String)
    (reference : String) :
    (∃ sighting, Sights root base chain location reference sighting) ∨
      ∃ pointer target, Enters root base chain reference pointer target := by
  cases here : Reference.localPointer? reference base with
  | none => exact .inl ⟨_, .outside here⟩
  | some pointer =>
    by_cases held : pointer ∈ chain
    · exact .inl ⟨_, .circle here held⟩
    · cases found : Pointer.lookup? root (Pointer.segments pointer) with
      | none => exact .inl ⟨_, .missing here held found⟩
      | some target => exact .inr ⟨pointer, target, here, held, found⟩

theorem followSights {sighting} (sights : Sights root base chain location reference sighting) :
    follow root base budget chain reference location = ⟨none, 0, [sighting]⟩ := by
  cases sights with
  | outside away => cases budget <;> simp only [follow, away]
  | circle here held => cases budget <;> simp only [follow, here, if_pos held]
  | missing here fresh lost => cases budget <;> simp only [follow, here, if_neg fresh, lost]

theorem followExhausted (enters : Enters root base chain reference pointer target) :
    follow root base 0 chain reference location = .of none := by
  simp only [follow, enters.here, if_neg enters.fresh, enters.found]

theorem followEnters (enters : Enters root base chain reference pointer target) :
    follow root base (budget + 1) chain reference location =
      let walked := targetWalk root base budget chain pointer target
      if (Reference.of? walked.value).isSome then ⟨none, 0, walked.sightings⟩
      else ⟨some walked.value, 1, walked.sightings⟩ := by
  simp only [follow, enters.here, if_neg enters.fresh, enters.found, targetWalk]
  rfl

theorem followSightings (enters : Enters root base chain reference pointer target) :
    (follow root base (budget + 1) chain reference location).sightings =
      (targetWalk root base budget chain pointer target).sightings := by
  rw [followEnters enters]
  dsimp only
  split <;> rfl

theorem followValue (enters : Enters root base chain reference pointer target) :
    (follow root base (budget + 1) chain reference location).value =
      let expanded := (targetWalk root base budget chain pointer target).value
      if (Reference.of? expanded).isSome then none else some expanded := by
  rw [followEnters enters]
  dsimp only
  split <;> rfl

theorem sightedBelow {node sighting} (visit : Visits root base chain location node)
    (is : Reference.of? node = some reference)
    (noted : sighting ∈ (follow root base budget chain reference location).sightings) :
    ∃ chain location node reference, Visits root base chain location node ∧
      Reference.of? node = some reference ∧
      Sights root base chain location reference sighting := by
  induction budget generalizing chain location node reference with
  | zero =>
    rcases sightsOrEnters root base chain location reference with ⟨other, sights⟩ | ⟨_, _, enters⟩
    · rw [followSights sights] at noted
      exact ⟨_, _, _, _, visit, is, List.mem_singleton.mp noted ▸ sights⟩
    · simp [followExhausted enters, Noted.of] at noted
  | succ budget ih =>
    rcases sightsOrEnters root base chain location reference with ⟨other, sights⟩ | ⟨_, _, enters⟩
    · rw [followSights sights] at noted
      exact ⟨_, _, _, _, visit, is, List.mem_singleton.mp noted ▸ sights⟩
    · rw [followSightings enters, targetWalk, walkSightings] at noted
      obtain ⟨inner, part, nested, met, nestedIs, noted⟩ := noted
      exact ih (.enter visit is enters met) nestedIs noted

theorem notedAbove {node sighting} (visit : Visits root base chain location node)
    (is : Reference.of? node = some reference)
    (noted :
      sighting ∈ (follow root base (room root base chain) chain reference location).sightings) :
    sighting ∈ (walk (follow root base (room root base []) []) [] root).sightings := by
  -- What is noted at a visit is noted by the whole walk: the budget left there is the room beside
  -- its chain, so nothing on the way was cut short.
  induction visit generalizing reference with
  | root met => exact (walkSightings []).mpr ⟨_, _, _, met, is, by simpa using noted⟩
  | enter visit outerIs enters met ih =>
    refine ih outerIs ?_
    rw [roomEnter visit outerIs enters, followSightings enters, targetWalk, walkSightings]
    exact ⟨_, _, _, met, is, noted⟩

end

theorem sightingsOfVisits {root base sighting} :
    sighting ∈ (walk (follow root base (room root base []) []) [] root).sightings ↔
      ∃ chain location node reference, Visits root base chain location node ∧
        Reference.of? node = some reference ∧
        Sights root base chain location reference sighting := by
  constructor
  · intro noted
    obtain ⟨inner, node, reference, met, is, noted⟩ := (walkSightings []).mp noted
    exact sightedBelow (.root met) is (by simpa using noted)
  · rintro ⟨chain, location, node, reference, visit, is, sights⟩
    exact notedAbove visit is (by simp [followSights sights])

def Clear (root : Json) (base : String) : Prop :=
  ∀ chain location node reference, Visits root base chain location node →
    Reference.of? node = some reference →
    ∃ pointer target, Enters root base chain reference pointer target

theorem Clear.enters {root base chain location node reference pointer target}
    (clear : Clear root base) (visit : Visits root base chain location node)
    (is : Reference.of? node = some reference)
    (here : Reference.localPointer? reference base = some pointer)
    (found : Pointer.lookup? root (Pointer.segments pointer) = some target) :
    Enters root base chain reference pointer target := by
  obtain ⟨other, part, enters⟩ := clear _ _ _ _ visit is
  cases Option.some.inj (here.symm.trans enters.here)
  cases Option.some.inj (found.symm.trans enters.found)
  exact enters

def Unlooped (root : Json) (base : String) : Prop :=
  ∀ chain location node reference pointer, Visits root base chain location node →
    Reference.of? node = some reference →
    Reference.localPointer? reference base = some pointer → pointer ∉ chain

theorem Clear.unlooped {root base} (clear : Clear root base) : Unlooped root base := by
  intro chain location node reference pointer visit is here
  obtain ⟨other, target, enters⟩ := clear _ _ _ _ visit is
  cases Option.some.inj (here.symm.trans enters.here)
  exact enters.fresh

theorem Sights.notEnters {root base chain location reference sighting pointer target}
    (sights : Sights root base chain location reference sighting) :
    ¬ Enters root base chain reference pointer target := by
  intro enters
  cases sights with
  | outside away => simp [enters.here] at away
  | circle here held => exact enters.fresh (Option.some.inj (here.symm.trans enters.here) ▸ held)
  | missing here fresh lost =>
    cases Option.some.inj (here.symm.trans enters.here)
    simp [enters.found] at lost

theorem sightingsNil {root base} :
    (walk (follow root base (room root base []) []) [] root).sightings = [] ↔ Clear root base := by
  constructor
  · intro empty chain location node reference visit is
    rcases sightsOrEnters root base chain location reference with ⟨sighting, sights⟩ | enters
    · have noted := sightingsOfVisits.mpr ⟨_, _, _, _, visit, is, sights⟩
      simp [empty] at noted
    · exact enters
  · intro clear
    refine List.eq_nil_iff_forall_not_mem.mpr fun sighting noted => ?_
    obtain ⟨chain, location, node, reference, visit, is, sights⟩ := sightingsOfVisits.mp noted
    obtain ⟨pointer, target, enters⟩ := clear _ _ _ _ visit is
    exact sights.notEnters enters

/-! The report drops repeated problems and circles, but never the first. -/

theorem noteSome (report : Report) (problem : Problem) : (report.note problem).problems ≠ [] := by
  unfold Report.note
  split
  · rename_i repeated
    intro empty
    simp [empty] at repeated
  · simp

def Told (report : Report) : Prop := report.circles ≠ [] → report.problems ≠ []

theorem addSome (base : String) {report} (told : Told report) (sighting : Sighting) :
    (Report.add base report sighting).problems ≠ [] := by
  cases sighting with
  | outside | missing => exact noteSome _ _
  | circle reference location chain pointer =>
    simp only [Report.add]
    split
    · rename_i known
      exact told fun empty => by simp [empty] at known
    · exact noteSome _ _

theorem foldSome {base report} (sightings : List Sighting) (told : Told report)
    (already : report.problems ≠ []) :
    (sightings.foldl (Report.add base) report).problems ≠ [] := by
  induction sightings generalizing report with
  | nil => exact already
  | cons sighting rest ih =>
    have next := addSome base told sighting
    exact ih (fun _ => next) next

theorem problemsNil (base : String) {sightings} :
    (Report.ofSightings base sightings).problems = [] ↔ sightings = [] := by
  cases sightings with
  | nil => simp [Report.ofSightings, Report.empty]
  | cons sighting rest =>
    have first : (Report.add base .empty sighting).problems ≠ [] :=
      addSome base (fun known => absurd rfl known) sighting
    simpa [Report.ofSightings] using foldSome rest (fun _ => first) first

theorem cleanClear {fields base} :
    (resolve (.object fields) base).isClean = true ↔ Clear (.object fields) base := by
  rw [← sightingsNil, ← problemsNil base]
  simp [isClean, resolve, room]

end OpenApi.Resolution
