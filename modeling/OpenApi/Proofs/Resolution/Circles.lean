import Mathlib.Data.List.Cycle
import OpenApi.Proofs.Resolution.Sound
/-! Circles of references. Every circular problem tells of a cycle of the pointers of live references,
none of two tell of the same pointers, and where there is a cycle there is such a problem. -/
namespace OpenApi

def Problem.isCircular (p : Problem) : Bool := p.kind = .circular

def Problem.place (p : Problem) : Problem.Kind × String × String := (p.kind, p.reference, p.path)

namespace Resolution

def LivePointer (root : Json) (base pointer : String) : Prop :=
  ∃ location reference, Live root base location reference ∧
    Reference.localPointer? reference base = some pointer

structure Elementary (root : Json) (base : String) (cycle : Cycle String) : Prop where
  some : cycle ≠ .nil
  distinct : cycle.Nodup
  live : ∀ pointer ∈ cycle, LivePointer root base pointer
  leads : cycle.Chain (Leads root base)

structure Circle where
  reference : String
  location : List String
  chain : List String
  pointer : String

def Circle.sighting (c : Circle) : Sighting :=
  .circle c.reference c.location c.chain c.pointer

/-- The chain is an elementary cycle from the pointer of the reference on, and the reference stands
in the target of the last pointer. -/
structure Closes (root : Json) (base : String) (c : Circle) : Prop where
  elementary : Elementary root base c.chain
  here : Reference.localPointer? c.reference base = some c.pointer
  first : c.chain.head? = some c.pointer
  live : Live root base c.location c.reference
  stands : ∃ last target inner node, c.chain.getLast? = some last ∧
    Pointer.lookup? root (Pointer.segments last) = some target ∧ Met target inner node ∧
    Reference.of? node = some c.reference ∧ c.location = Pointer.segments last ++ inner

structure TellsCircle (problem : Problem) (c : Circle) : Prop where
  kind : problem.kind = .circular
  reference : problem.reference = c.reference
  path : problem.path = Pointer.render c.location
  message : problem.message =
    "circular reference: " ++ " -> ".intercalate c.chain ++ " -> " ++ c.pointer

section
variable {root : Json} {base : String} {chain location : List String} {node : Json}
  {reference pointer : String}

theorem chainLinked (visit : Visits root base chain location node)
    (is : Reference.of? node = some reference)
    (here : Reference.localPointer? reference base = some pointer) :
    (chain ++ [pointer]).IsChain (Leads root base) := by
  induction visit generalizing reference pointer with
  | root met => exact .singleton pointer
  | @enter chain location outer outerRef middle target inner part visit outerIs enters met ih =>
    have last : Leads root base middle pointer :=
      ⟨target, inner, part, reference, enters.found, met, is, here⟩
    rw [List.append_assoc]
    exact List.isChain_append_cons_cons.mpr ⟨ih outerIs enters.here, last, .singleton pointer⟩

theorem chainLive (visit : Visits root base chain location node) :
    ∀ pointer ∈ chain, LivePointer root base pointer := by
  induction visit with
  | root met => simp
  | enter visit is enters _ ih =>
    have newest : LivePointer root base _ := ⟨_, _, ⟨_, walkedOfVisit visit, is⟩, enters.here⟩
    exact List.forall_mem_append.mpr ⟨ih, List.forall_mem_singleton.mpr newest⟩

theorem chainStands (visit : Visits root base chain location node) {last : String}
    (is : chain.getLast? = some last) : ∃ target inner,
      Pointer.lookup? root (Pointer.segments last) = some target ∧ Met target inner node ∧
        location = Pointer.segments last ++ inner := by
  cases visit with
  | root met => cases is
  | enter visit outerIs enters met =>
    rw [List.getLast?_append, List.getLast?_singleton, Option.some_or] at is
    cases is
    exact ⟨_, _, enters.found, met, rfl⟩

theorem heldFrom {pointer : String} {chain : List String} (held : pointer ∈ chain) :
    ∃ before after, chain = before ++ pointer :: after ∧
      chain.dropWhile (· ≠ pointer) = pointer :: after := by
  induction chain with
  | nil => cases held
  | cons first rest ih =>
    by_cases same : first = pointer
    · subst same
      exact ⟨[], rest, rfl, by simp⟩
    · obtain ⟨before, after, split, dropped⟩ := ih (by simpa [Ne.symm same] using held)
      refine ⟨first :: before, after, by rw [split, List.cons_append], ?_⟩
      rw [List.dropWhile_cons_of_pos (by simpa using same), dropped]

theorem circleCloses (visit : Visits root base chain location node)
    (is : Reference.of? node = some reference)
    (here : Reference.localPointer? reference base = some pointer) (held : pointer ∈ chain) :
    Closes root base ⟨reference, location, chain.dropWhile (· ≠ pointer), pointer⟩ := by
  obtain ⟨before, after, split, dropped⟩ := heldFrom held
  have linked := chainLinked visit is here
  have distinct := visit.chainNodup
  have live := chainLive visit
  have closed : (pointer :: (after ++ [pointer])).IsChain (Leads root base) := by
    rw [split, List.append_assoc] at linked
    exact linked.right_of_append
  constructor
  case elementary =>
    rw [dropped]
    constructor
    case some => simp
    case distinct => exact (List.nodup_append.mp (split ▸ distinct)).2.1
    case live => exact fun other among => live other (split ▸ List.mem_append_right before among)
    case leads => exact closed
  case here => exact here
  case first => exact dropped ▸ rfl
  case live => exact ⟨node, walkedOfVisit visit, is⟩
  case stands =>
    have last : chain.getLast? = (pointer :: after).getLast? := by
      rw [split, List.getLast?_append, List.getLast?_cons, Option.some_or]
    obtain ⟨target, inner, found, met, at'⟩ := chainStands visit (last.trans List.getLast?_cons)
    exact ⟨_, target, inner, node, dropped ▸ List.getLast?_cons, found, met, is, at'⟩

theorem circleSighted {c : Circle}
    (noted : c.sighting ∈ (walk (follow root base (room root base []) []) [] root).sightings) :
    Closes root base c := by
  obtain ⟨chain, location, node, reference, visit, is, sights⟩ := sightingsOfVisits.mp noted
  rcases c with ⟨_, _, _, _⟩
  dsimp only [Circle.sighting] at sights
  cases sights with
  | circle here held => exact circleCloses visit is here held

theorem Elementary.returns {cycle : Cycle String} (elementary : Elementary root base cycle) :
    ∃ pointer, LivePointer root base pointer ∧
      Relation.TransGen (Leads root base) pointer pointer := by
  obtain ⟨nonempty, -, live, leads⟩ := elementary
  induction cycle using Cycle.induction_on with
  | nil => exact absurd rfl nonempty
  | cons pointer rest _ =>
    rw [Cycle.chain_coe_cons] at leads
    have onward := leads.imp fun _ _ => Relation.TransGen.single
    exact ⟨pointer, live pointer (by simp), onward.rel_cons (by simp)⟩

theorem cycleSighted {cycle : Cycle String} (elementary : Elementary root base cycle) :
    ∃ c : Circle,
      c.sighting ∈ (walk (follow root base (room root base []) []) [] root).sightings := by
  by_contra none
  have unlooped : Unlooped root base := by
    intro chain location node reference pointer visit is here held
    exact none ⟨⟨_, _, _, _⟩, sightingsOfVisits.mpr ⟨_, _, _, _, visit, is, .circle here held⟩⟩
  obtain ⟨pointer, ⟨location, reference, ⟨node, walked, is⟩, here⟩, returns⟩ := elementary.returns
  obtain ⟨chain, visit⟩ := visitOfWalked walked
  obtain ⟨_, _, _, _, again, againIs, againHere, held⟩ := visitAlong unlooped visit is here returns
  exact unlooped _ _ _ _ _ again againIs againHere held

theorem leadsWithin {next : String} {pointers : List String} (leads : Leads root base pointer next)
    (given : (Pointer.lookup? root (Pointer.segments pointer)).map (localPointers · base) =
      some pointers) : next ∈ pointers := by
  obtain ⟨target, inner, node, reference, found, met, is, here⟩ := leads
  rw [found] at given
  exact Option.some.inj given ▸ pointerWithin met.within is here

end

/-! The report of the circles that are sighted. -/

section
variable {base : String} {report : Report}

theorem repeatsPlace {p q : Problem} : p.repeats q = true ↔ p.place = q.place := by
  simp [Problem.repeats, Problem.place, and_assoc]

theorem notePlaces {report : Report} (distinct : (report.problems.map Problem.place).Nodup)
    (problem : Problem) : ((report.note problem).problems.map Problem.place).Nodup := by
  unfold Report.note
  split
  · exact distinct
  · rename_i new
    rw [List.map_append]
    refine List.nodup_append.mpr ⟨distinct, by simp, ?_⟩
    rintro place among other single rfl
    obtain ⟨earlier, member, same⟩ := List.mem_map.mp among
    refine new (List.any_eq_true.mpr ⟨earlier, member, repeatsPlace.mpr ?_⟩)
    exact (List.mem_singleton.mp single).symm.trans same.symm

theorem addPlaces (distinct : (report.problems.map Problem.place).Nodup) (sighting : Sighting) :
    ((Report.add base report sighting).problems.map Problem.place).Nodup := by
  unfold Report.add
  split
  · split
    · exact distinct
    · refine notePlaces ?_ _
      exact distinct
  · exact notePlaces distinct _

theorem foldPlaces (sightings : List Sighting)
    (distinct : (report.problems.map Problem.place).Nodup) :
    ((sightings.foldl (Report.add base) report).problems.map Problem.place).Nodup := by
  induction sightings generalizing report with
  | nil => exact distinct
  | cons sighting rest ih => exact ih (addPlaces distinct sighting)

theorem sameMembersFinset {a b : List String} :
    Report.sameMembers a b = true ↔ a.toFinset = b.toFinset := by
  simp only [Report.sameMembers, Bool.and_eq_true, List.all_eq_true, List.contains_iff_mem,
    Finset.ext_iff, List.mem_toFinset]
  exact ⟨fun both pointer => ⟨both.1 pointer, both.2 pointer⟩,
    fun same => ⟨fun pointer => (same pointer).mp, fun pointer => (same pointer).mpr⟩⟩

structure Recounts (report : Report) (circles : List Circle) : Prop where
  told : List.Forall₂ TellsCircle (report.problems.filter Problem.isCircular) circles
  met : ∀ c ∈ circles, ∃ chain ∈ report.circles, c.chain.toFinset = chain.toFinset
  apart : circles.Pairwise fun c d => c.chain.toFinset ≠ d.chain.toFinset
  some : report.circles ≠ [] → circles ≠ []

theorem noteOtherKind {problem : Problem} (other : problem.isCircular = false) :
    (report.note problem).problems.filter Problem.isCircular =
      report.problems.filter Problem.isCircular := by
  unfold Report.note
  split
  · rfl
  · simp [other]

theorem noteCircles (problem : Problem) : (report.note problem).circles = report.circles := by
  unfold Report.note
  split <;> rfl

theorem circleRecounts {circles : List Circle} (recounts : Recounts report circles)
    (c : Circle) : Recounts (Report.add base report c.sighting) circles ∨
      Recounts (Report.add base report c.sighting) (circles ++ [c]) := by
  unfold Report.add Circle.sighting
  dsimp only
  split
  · exact .inl recounts
  · rename_i new
    have unmet {chain} (among : chain ∈ report.circles) : chain.toFinset ≠ c.chain.toFinset := by
      intro same
      exact new (List.any_eq_true.mpr ⟨chain, among, sameMembersFinset.mpr same.symm⟩)
    unfold Report.note
    split
    · rename_i repeated
      refine .inl ⟨recounts.told, fun d among => ?_, recounts.apart, fun _ empty => ?_⟩
      · obtain ⟨chain, listed, same⟩ := recounts.met d among
        exact ⟨chain, List.mem_cons_of_mem _ listed, same⟩
      · obtain ⟨problem, member, repeats⟩ := List.any_eq_true.mp repeated
        have kind : problem.kind = .circular := (congrArg (·.1) (repeatsPlace.mp repeats)).symm
        have listed : problem ∈ report.problems.filter Problem.isCircular :=
          List.mem_filter.mpr ⟨member, by simp [Problem.isCircular, kind]⟩
        have told := recounts.told
        rw [empty, List.forall₂_nil_right_iff] at told
        rw [told] at listed
        cases listed
    · refine .inr ⟨?_, ?_, ?_, by simp⟩
      · rw [List.filter_append]
        exact List.rel_append recounts.told (.cons ⟨rfl, rfl, rfl, rfl⟩ .nil)
      · refine List.forall_mem_append.mpr ⟨fun d among => ?_, by simp⟩
        obtain ⟨chain, listed, same⟩ := recounts.met d among
        exact ⟨chain, List.mem_cons_of_mem _ listed, same⟩
      · refine List.pairwise_append.mpr ⟨recounts.apart, by simp, fun d among other single => ?_⟩
        cases List.mem_singleton.mp single
        obtain ⟨chain, listed, same⟩ := recounts.met d among
        exact same ▸ unmet listed

theorem otherRecounts {circles : List Circle} (recounts : Recounts report circles)
    {problem : Problem} (other : problem.isCircular = false) :
    Recounts (report.note problem) circles where
  told := by
    rw [noteOtherKind other]
    exact recounts.told
  met := by
    rw [noteCircles]
    exact recounts.met
  apart := recounts.apart
  some := by
    rw [noteCircles]
    exact recounts.some

theorem foldRecounts (base : String) {circles : List Circle} (recounts : Recounts report circles)
    (sightings : List Sighting) : ∃ more : List Circle, (∀ c ∈ more, c.sighting ∈ sightings) ∧
      Recounts (sightings.foldl (Report.add base) report) (circles ++ more) := by
  induction sightings generalizing report circles with
  | nil => exact ⟨[], by simp, by simpa using recounts⟩
  | cons sighting rest ih =>
    have later {next : Report} {circles : List Circle} (recounts : Recounts next circles) :
        ∃ more : List Circle, (∀ c ∈ more, c.sighting ∈ sighting :: rest) ∧
          Recounts (rest.foldl (Report.add base) next) (circles ++ more) := by
      obtain ⟨more, noted, told⟩ := ih recounts
      exact ⟨more, fun c among => List.mem_cons_of_mem _ (noted c among), told⟩
    rw [List.foldl_cons]
    cases sighting with
    | outside | missing => exact later (otherRecounts recounts rfl)
    | circle reference location chain pointer =>
      rcases circleRecounts recounts ⟨reference, location, chain, pointer⟩ with same | new
      · exact later same
      · obtain ⟨more, noted, told⟩ := later new
        rw [List.append_assoc] at told
        refine ⟨_, List.forall_mem_cons.mpr ⟨List.mem_cons_self, noted⟩, told⟩

theorem foldCircles {sightings : List Sighting}
    (met : report.circles ≠ [] ∨ ∃ c : Circle, c.sighting ∈ sightings) :
    (sightings.foldl (Report.add base) report).circles ≠ [] := by
  induction sightings generalizing report with
  | nil => simpa using met
  | cons sighting rest ih =>
    refine ih ?_
    cases sighting with
    | outside | missing =>
      rcases met with earlier | ⟨c, noted⟩
      · exact .inl (by simpa only [Report.add, noteCircles] using earlier)
      · exact .inr ⟨c, (List.mem_cons.mp noted).resolve_left (by simp [Circle.sighting])⟩
    | circle reference location chain pointer =>
      refine .inl ?_
      unfold Report.add
      dsimp only
      split
      · rename_i known
        intro empty
        simp [empty] at known
      · simp [noteCircles]

end

structure ToldOnce (root : Json) (base : String) (problems : List Problem) (circles : List Circle) :
    Prop where
  places : (problems.map Problem.place).Nodup
  told : List.Forall₂ TellsCircle (problems.filter Problem.isCircular) circles
  closes : ∀ c ∈ circles, Closes root base c
  apart : circles.Pairwise fun c d => c.chain.toFinset ≠ d.chain.toFinset
  some : (∃ cycle, Elementary root base cycle) → circles ≠ []
  sole : (∃! cycle, Elementary root base cycle) → circles.length = 1

theorem circlesToldOnce (fields : Fields Json) (base : String) : ∃ circles,
    ToldOnce (.object fields) base (resolve (.object fields) base).problems circles := by
  let root := Json.object fields
  let sightings := (walk (follow root base (room root base []) []) [] root).sightings
  have start : Recounts .empty [] := ⟨.nil, by simp, .nil, by simp [Report.empty]⟩
  obtain ⟨circles, noted, recounts⟩ := foldRecounts base start sightings
  rw [List.nil_append] at recounts
  have closes : ∀ c ∈ circles, Closes root base c := fun c among => circleSighted (noted c among)
  have some : (∃ cycle, Elementary root base cycle) → circles ≠ [] := by
    rintro ⟨cycle, elementary⟩
    exact recounts.some (foldCircles (.inr (cycleSighted elementary)))
  refine ⟨circles, ?_⟩
  constructor
  case places => exact foldPlaces sightings List.nodup_nil
  case told => exact recounts.told
  case closes => exact closes
  case apart => exact recounts.apart
  case some => exact some
  case sole =>
    rintro ⟨cycle, elementary, unique⟩
    have nonempty := some ⟨cycle, elementary⟩
    have apart := recounts.apart
    cases circles with
    | nil => exact absurd rfl nonempty
    | cons c rest =>
      cases rest with
      | nil => rfl
      | cons d others =>
        have first := unique _ (closes c (by simp)).elementary
        have second := unique _ (closes d (by simp)).elementary
        have same := congrArg Cycle.toFinset (first.trans second.symm)
        exact absurd same ((List.pairwise_cons.mp apart).1 d (by simp))

def ringFields : Fields Json :=
  [("first", .object [("$ref", .string "#/a")]), ("second", .object [("$ref", .string "#/b")]),
    ("a", .object [("next", .object [("$ref", .string "#/b")])]),
    ("b", .object [("back", .object [("$ref", .string "#/a")]),
      ("again", .object [("$ref", .string "#/a")])])]

theorem pairCycle {root : Json} {base a b : String} (differ : a ≠ b)
    (live : ∀ pointer, LivePointer root base pointer → pointer ∈ [a, b])
    (fromA : ∀ next, Leads root base a next → next = b)
    (fromB : ∀ next, Leads root base b next → next = a) {cycle : Cycle String}
    (elementary : Elementary root base cycle) : cycle = ([a, b] : List String) := by
  obtain ⟨nonempty, distinct, alive, leads⟩ := elementary
  induction cycle using Cycle.induction_on with
  | nil => exact absurd rfl nonempty
  | cons first rest _ =>
    rw [Cycle.chain_coe_cons] at leads
    rw [Cycle.nodup_coe_iff] at distinct
    have two := List.mem_pair.mp (live first (alive first (by simp)))
    match rest, leads, distinct with
    | [], leads, _ =>
      rcases two with rfl | rfl
      · exact absurd (fromA _ leads.rel) differ
      · exact absurd (fromB _ leads.rel) differ.symm
    | [second], leads, _ =>
      rcases two with rfl | rfl
      · cases fromA _ leads.rel
        rfl
      · cases fromB _ leads.rel
        exact Cycle.coe_eq_coe.mpr ⟨1, rfl⟩
    | second :: third :: rest, leads, distinct =>
      rcases two with rfl | rfl
      · cases fromA _ leads.rel
        cases fromB _ leads.tail.rel
        simp at distinct
      · cases fromB _ leads.rel
        cases fromA _ leads.tail.rel
        simp at distinct

theorem ringToldOnce :
    (∃! cycle, Elementary (.object ringFields) "openapi.yaml" cycle) ∧
      (resolve (.object ringFields) "openapi.yaml").problems =
        [⟨.circular, "#/a", "#/b/back", "circular reference: #/a -> #/b -> #/a"⟩] ∧
      ∃ c, ToldOnce (.object ringFields) "openapi.yaml"
          (resolve (.object ringFields) "openapi.yaml").problems [c] ∧
        c.reference = "#/a" ∧ Pointer.render c.location = "#/b/back" := by
  have problems : (resolve (.object ringFields) "openapi.yaml").problems =
      [⟨.circular, "#/a", "#/b/back", "circular reference: #/a -> #/b -> #/a"⟩] := by
    decide +kernel
  obtain ⟨circles, once⟩ := circlesToldOnce ringFields "openapi.yaml"
  obtain ⟨c, is, tells⟩ : ∃ c, circles = [c] ∧
      TellsCircle ⟨.circular, "#/a", "#/b/back", "circular reference: #/a -> #/b -> #/a"⟩ c := by
    have told := once.told
    rw [problems] at told
    obtain ⟨c, _, tells, rest, rfl⟩ := List.forall₂_cons_left_iff.mp told
    exact ⟨c, by rw [List.forall₂_nil_left_iff.mp rest], tells⟩
  subst is
  have pointers : localPointers (.object ringFields) "openapi.yaml" = ["#/a", "#/b"] := by
    decide +kernel
  have live (pointer : String) (is : LivePointer (.object ringFields) "openapi.yaml" pointer) :
      pointer ∈ ["#/a", "#/b"] := by
    obtain ⟨location, reference, ⟨node, walked, refers⟩, here⟩ := is
    obtain ⟨chain, visit⟩ := visitOfWalked walked
    exact pointers ▸ pointerWithin visit.within refers here
  have unique {cycle} (elementary : Elementary (.object ringFields) "openapi.yaml" cycle) :
      cycle = (["#/a", "#/b"] : List String) :=
    pairCycle (by decide) live
      (fun next leads => List.mem_singleton.mp (leadsWithin leads (by decide +kernel)))
      (fun next leads => List.mem_singleton.mp (leadsWithin leads (by decide +kernel))) elementary
  have closes := once.closes c (by simp)
  refine ⟨⟨_, unique closes.elementary ▸ closes.elementary, fun _ other => unique other⟩, problems,
    c, once, tells.reference.symm, tells.path.symm⟩

end Resolution
end OpenApi
