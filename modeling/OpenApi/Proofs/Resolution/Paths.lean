import OpenApi.Proofs.Resolution.Circles
import OpenApi.Proofs.Resolution.Places
/-! Paths of problems. Problems are told apart by a path, which is a text. It is the text of one
location alone, so the report is the one that locations themselves would have led to. -/
namespace OpenApi

def Sighting.site : Sighting → Problem.Kind × String × List String
  | .outside reference location => (.invalid, reference, location)
  | .missing reference location _ => (.missing, reference, location)
  | .circle reference location _ _ => (.circular, reference, location)

namespace Resolution

def sighted (root : Json) (base : String) : List Sighting :=
  (walk (follow root base (room root base []) []) [] root).sightings

/-- The sightings that are handed on for a report: a circle is not if its pointers are those of one
that was met before. -/
def handed (circles : List (List String)) : List Sighting → List Sighting
  | [] => []
  | .circle reference location chain pointer :: rest =>
    if circles.any (Report.sameMembers chain) then handed circles rest
    else .circle reference location chain pointer :: handed (chain :: circles) rest
  | sighting :: rest => sighting :: handed circles rest

structure ToldBySite (base : String) (sightings told : List Sighting) (problems : List Problem) :
    Prop where
  among : told.Sublist sightings
  sites : told.map Sighting.site = (sightings.map Sighting.site).foldl addNew []
  problems : problems = told.map (Sighting.problem base)

section
variable {base : String} {report : Report} {told : List Sighting}

theorem placeSite (base : String) (sighting : Sighting) : (sighting.problem base).place =
    (sighting.site.1, sighting.site.2.1, Pointer.render sighting.site.2.2) := by
  cases sighting <;> rfl

theorem repeatsSite {one other : Sighting} :
    (one.problem base).repeats (other.problem base) = true ↔ one.site = other.site := by
  rw [repeatsPlace, placeSite, placeSite]
  constructor
  · intro same
    obtain ⟨kind, rest⟩ := Prod.mk.inj same
    obtain ⟨reference, path⟩ := Prod.mk.inj rest
    exact Prod.ext kind (Prod.ext reference (Pointer.renderInjective path))
  · exact fun same => by rw [same]

theorem noteSite (is : report.problems = told.map (Sighting.problem base)) (sighting : Sighting) :
    ∃ new : List Sighting, new.Sublist [sighting] ∧
      (told ++ new).map Sighting.site = addNew (told.map Sighting.site) sighting.site ∧
      (report.note (sighting.problem base)).problems =
        (told ++ new).map (Sighting.problem base) := by
  have known : report.problems.any (sighting.problem base).repeats = true ↔
      sighting.site ∈ told.map Sighting.site := by
    rw [is, List.any_map, List.any_eq_true, List.mem_map]
    refine exists_congr fun other => and_congr_right fun _ => ?_
    exact repeatsSite.trans eq_comm
  unfold Report.note addNew
  by_cases held : sighting.site ∈ told.map Sighting.site
  · refine ⟨[], List.nil_sublist _, ?_, ?_⟩
    · rw [if_pos (by simpa using held), List.append_nil]
    · rw [if_pos (known.mpr held), is, List.append_nil]
  · refine ⟨[sighting], .refl _, ?_, ?_⟩
    · rw [if_neg (by simpa using held), List.map_append, List.map_singleton]
    · rw [if_neg (mt known.mp held), List.map_append, List.map_singleton, ← is]

theorem handedOn (base : String) (report : Report) (sighting : Sighting) (rest : List Sighting) :
    (Report.add base report sighting = report ∧
        handed report.circles (sighting :: rest) = handed report.circles rest) ∨
      ∃ circles, Report.add base report sighting =
          Report.note { report with circles := circles } (sighting.problem base) ∧
        handed report.circles (sighting :: rest) = sighting :: handed circles rest := by
  cases sighting with
  | outside | missing => exact .inr ⟨report.circles, rfl, rfl⟩
  | circle reference location chain pointer =>
    by_cases met : report.circles.any (Report.sameMembers chain) = true
    · exact .inl ⟨by simp [Report.add, met], by simp [handed, met]⟩
    · exact .inr ⟨chain :: report.circles, by simp [Report.add, met], by simp [handed, met]⟩

theorem foldSites (is : report.problems = told.map (Sighting.problem base))
    (sightings : List Sighting) :
    ∃ more : List Sighting, more.Sublist (handed report.circles sightings) ∧
      (told ++ more).map Sighting.site =
        ((handed report.circles sightings).map Sighting.site).foldl addNew
          (told.map Sighting.site) ∧
      (sightings.foldl (Report.add base) report).problems =
        (told ++ more).map (Sighting.problem base) := by
  induction sightings generalizing report told with
  | nil => exact ⟨[], List.nil_sublist _, by simp [handed], by simpa using is⟩
  | cons sighting rest ih =>
    rw [List.foldl_cons]
    rcases handedOn base report sighting rest with ⟨same, skipped⟩ | ⟨circles, noted, kept⟩
    · rw [same, skipped]
      exact ih is
    · rw [noted, kept]
      have before : ({ report with circles := circles } : Report).problems =
          told.map (Sighting.problem base) := is
      -- what this sighting adds comes before what the rest adds
      obtain ⟨new, first, firstSites, problems⟩ := noteSite before sighting
      obtain ⟨more, later, sites, all⟩ := ih problems
      rw [noteCircles] at later sites
      refine ⟨new ++ more, first.append later, ?_, ?_⟩
      · rw [← List.append_assoc, sites, firstSites, List.map_cons, List.foldl_cons]
      · rw [← List.append_assoc, all]

theorem reportBySite (base : String) (sightings : List Sighting) : ∃ told,
    ToldBySite base (handed [] sightings) told (Report.ofSightings base sightings).problems := by
  have start : Report.empty.problems = ([] : List Sighting).map (Sighting.problem base) := rfl
  obtain ⟨told, among, sites, problems⟩ := foldSites start sightings
  exact ⟨told, among, sites, problems⟩

end

theorem locationsToldApart :
    Function.Injective Pointer.render ∧
      (∀ {root location other part part'}, root.wellKeyed = true →
        Pointer.Stands root location part → Pointer.Stands root other part' →
        Pointer.render location = Pointer.render other → part = part') ∧
      ∀ (fields : Fields Json) (base : String), ∃ told,
        ToldBySite base (handed [] (sighted (.object fields) base)) told
          (resolve (.object fields) base).problems := by
  refine ⟨fun _ _ same => Pointer.renderInjective same, ?_, fun fields base => reportBySite base _⟩
  intro root location other part part' keyed one again same
  cases Pointer.renderInjective same
  exact one.unique keyed again

def lostNode : Json := .object [("$ref", .string "#/lost")]

def confusableFields : Fields Json :=
  [("again", .object [("$ref", .string "#/a")]), ("a", .object [("b", lostNode)]),
    ("a/b", lostNode), ("a~1b", lostNode), ("~", lostNode), ("~0", lostNode),
    ("", .object [("", lostNode)])]

theorem confusableToldApart :
    (Json.object confusableFields).wellKeyed = true ∧
      (∀ {location other part part'}, Pointer.Stands (.object confusableFields) location part →
        Pointer.Stands (.object confusableFields) other part' →
        Pointer.render location = Pointer.render other → part = part') ∧
      (∃ told, ToldBySite "openapi.yaml"
        (handed [] (sighted (.object confusableFields) "openapi.yaml")) told
        (resolve (.object confusableFields) "openapi.yaml").problems) ∧
      (resolve (.object confusableFields) "openapi.yaml").problems.map Problem.path =
        ["#/a/b", "#/a~1b", "#/a~01b", "#/~0", "#/~00", "#//"] :=
  have keyed : (Json.object confusableFields).wellKeyed = true := by decide
  ⟨keyed, locationsToldApart.2.1 keyed, locationsToldApart.2.2 confusableFields "openapi.yaml",
    by decide +kernel⟩

end Resolution
end OpenApi
