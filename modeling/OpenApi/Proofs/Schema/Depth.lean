import Mathlib.Data.Finset.Lattice.Fold
import OpenApi.Proofs.Json.Size
import OpenApi.Proofs.Schema.Marks
import OpenApi.Proofs.Schema.Parallel
/-! How deep an extraction goes. What is below a structure without a reference is smaller than it. A
structure with a reference is noted before it is made, and a document has only so many of them. So
from some number of levels on, more levels change nothing. -/
namespace OpenApi.Schema

namespace Build

def unseen (document : Json) (memo : List (Json × String)) : List Json :=
  document.parts.filter fun part => (findReference? part).isSome && (memo.lookup part).isNone

/-- So many levels suffice below a structure with a reference. Each part that is not noted may yet be
noted, and between two of them what is made gets smaller. -/
def reach (document : Json) (memo : List (Json × String)) : Nat :=
  (unseen document memo).length * (document.size + 1) + document.size

def need (document : Json) (memo : List (Json × String)) (node : Json) : Nat :=
  if (findReference? node).isSome then reach document memo + 1 + node.size else node.size

section
variable {document : Json} {memo next : List (Json × String)} {node part : Json}

theorem unseenRest (more : memo ⊆ next) :
    unseen document next =
      (unseen document memo).filter fun part => (next.lookup part).isNone := by
  unfold unseen
  rw [List.filter_filter]
  refine List.filter_congr fun part _ => ?_
  have kept : (next.lookup part).isNone → (memo.lookup part).isNone := by
    simp only [Option.isNone_iff_eq_none, List.lookup_eq_none_iff]
    exact fun absent m among => absent m (more among)
  cases gone : (next.lookup part).isNone with
  | false => simp
  | true => simp [kept gone]

theorem reachFewer (document : Json) (more : memo ⊆ next) :
    reach document next ≤ reach document memo := by
  unfold reach
  rw [unseenRest more]
  have fewer := List.length_filter_le (fun part => (next.lookup part).isNone) (unseen document memo)
  exact Nat.add_le_add_right (Nat.mul_le_mul_right _ fewer) _

theorem reachNoted {name : String} (inside : node.Within document)
    (marked : (findReference? node).isSome) (fresh : memo.lookup node = none) :
    need document ((node, name) :: memo) node ≤ reach document memo := by
  have less : (unseen document ((node, name) :: memo)).length < (unseen document memo).length := by
    rw [unseenRest (List.subset_cons_self _ _), List.length_filter_lt_length_iff_exists]
    have among : node ∈ unseen document memo :=
      List.mem_filter.mpr ⟨Json.partWithin inside, by simp [marked, fresh]⟩
    exact ⟨node, among, by simp⟩
  have fits := Json.sizeWithin inside
  have product := Nat.mul_le_mul_right (document.size + 1) less
  rw [Nat.succ_mul] at product
  simp only [need, marked, ↓reduceIte, reach]
  omega

theorem markedOutward (inside : part.Within node) (marked : (findReference? part).isSome) :
    (findReference? node).isSome :=
  findReferenceSome.mpr ((findReferenceSome.mp marked).outward inside)

theorem sizeNeeded (document : Json) (memo : List (Json × String)) (node : Json) :
    node.size ≤ need document memo node := by
  unfold need
  split <;> omega

theorem needSmaller (document : Json) (memo : List (Json × String)) (below : part.Below node) :
    need document memo part < need document memo node := by
  have smaller := below.smaller
  unfold need
  split
  · rename_i marked
    rw [if_pos (markedOutward below.inside marked)]
    omega
  · split <;> omega

theorem needFewer (more : memo ⊆ next) : need document next node ≤ need document memo node := by
  have fewer := reachFewer document more
  unfold need
  split <;> omega

theorem belowProperties : ∀ m ∈ (node.getFields? "properties").getD [], m.2.Below node := by
  intro m member
  cases found : node.getFields? "properties" with
  | none => simp [found] at member
  | some fields =>
    rw [found] at member
    exact (Json.belowField member).outward (Json.withinGet (Json.getFieldsObject.mp found))

theorem memberBelow {kind members} (composed : Node.composition? node = some (kind, members)) :
    ∀ member ∈ members, member.Below node := by
  intro member among
  obtain ⟨items, given, is⟩ := Option.bind_eq_some_iff.mp (Node.compositionItems composed)
  cases items <;> simp only [Json.items?, reduceCtorEq, Option.some.injEq] at is
  subst is
  exact (Json.belowItem among).outward (Json.withinGet given)

structure Room (document : Json) (levels : Nat) (memo : List (Json × String)) (part : Json) :
    Prop where
  inside : part.Within document
  fits : part.size ≤ levels
  marked : (findReference? part).isSome → reach document memo ≤ levels

theorem roomBelow {levels : Nat} (enough : need document memo node ≤ levels + 1)
    (inside : part.Within document)
    (below : (findReference? node).isSome ∨ part.Below node) : Room document levels memo part := by
  have noting (marked : (findReference? node).isSome) : reach document memo ≤ levels := by
    rw [need, if_pos marked] at enough
    omega
  obtain marked | below := below
  · refine ⟨inside, ?_, fun _ => noting marked⟩
    calc part.size ≤ document.size := Json.sizeWithin inside
      _ ≤ reach document memo := Nat.le_add_left _ _
      _ ≤ levels := noting marked
  · refine ⟨inside, ?_, fun marked => noting (markedOutward below.inside marked)⟩
    have smaller := below.smaller
    have least := sizeNeeded document memo node
    omega

variable {components : Fields Json} {levels : Nat} {make make' : Maker}

def LevelParallel (document : Json) (levels : Nat) (make make' : Maker) : Prop :=
  ∀ {memo node}, node.Within document → need document memo node ≤ levels →
    MakeParallel make make' memo node

theorem roomHoists (deeper : LevelParallel document levels make make')
    (room : Room document levels memo part) : HoistParallel make make' memo part := by
  intro inner within base p more
  have inside := within.trans room.inside
  refine hoistParallel (fun plain => deeper inside ?_) fun marked fresh name => deeper inside ?_
  · rw [need, if_neg plain]
    exact (Json.sizeWithin within).trans room.fits
  · calc need document ((inner, name) :: p.recursive) inner ≤ reach document p.recursive :=
          reachNoted inside marked fresh
      _ ≤ reach document memo := reachFewer document more
      _ ≤ levels := room.marked (markedOutward within marked)

theorem gatheredBelow {owner : String} {members : List Json} {merged : Merged}
    (plain : ¬ (findReference? node).isSome)
    (composed : Node.composition? node = some (.allOf, members))
    (merges : mergeAll components owner members = .ok merged) :
    ∀ m ∈ (merged.absorb node).properties, m.2.Below node := by
  let holds (merged : Merged) := ∀ m ∈ merged.properties, m.2.Below node
  have absorbs (merged : Merged) (inner : Json) (inside : inner.Within node)
      (gathered : holds merged) : holds (merged.absorb inner) :=
    absorbMembers gathered fun m own => (belowProperties m own).outward inside
  have unreferred : ¬ Resolution.HasReference node :=
    fun has => plain (findReferenceSome.mpr has.marked)
  have kept : Yields (Resolution.HasReference node) holds (mergeAll components owner members) :=
    mergeKeeps holds absorbs (fun _ among => by cases among) (fun has => absurd has unreferred)
      owner (compositionWithin .refl composed)
  rw [merges] at kept
  exact absorbs merged node .refl kept

theorem partsParallel (declared : Inside document components)
    (deeper : LevelParallel document levels make make') (inside : node.Within document)
    (enough : need document memo node ≤ levels + 1) :
    PartsParallel components make make' memo node where
  own key member given :=
    have below := Json.belowGet given
    roomHoists deeper (roomBelow enough (below.inside.trans inside) (.inr below))
  merged {owner members merged} composed merges m among := by
    refine roomHoists deeper ?_
    by_cases marked : (findReference? node).isSome
    · have gathered := insideMerge declared (compositionWithin inside composed) merges
      exact roomBelow enough (insideAbsorb gathered inside m among) (.inl marked)
    · have below := gatheredBelow marked composed merges m among
      exact roomBelow enough (below.inside.trans inside) (.inr below)
  options {kind members} composed member among := by
    have below := memberBelow composed member among
    have less := needSmaller document memo below
    exact deeper (below.inside.trans inside) (by omega)

theorem normalizeParallel (declared : Inside document components) {levels levels' : Nat}
    (le : levels ≤ levels') :
    LevelParallel document levels (normalize components levels) (normalize components levels') := by
  induction levels generalizing levels' with
  | zero =>
    intro memo node inside enough
    have some := Json.sizePositive node
    have least := sizeNeeded document memo node
    omega
  | succ levels ih =>
    intro memo node inside enough name p more
    cases levels' with
    | zero => omega
    | succ levels' =>
      exact entriesParallel (partsParallel declared (ih (by omega)) inside
        ((needFewer more).trans enough)) name

end
end Build

def nesting (document : Json) : Nat := Build.reach document [] + 1 + document.size

theorem nestingNeed {document node : Json} (inside : node.Within document)
    (memo : List (Json × String)) : Build.need document memo node ≤ nesting document := by
  have fewer := Build.reachFewer document (List.nil_subset memo)
  have fits := Json.sizeWithin inside
  unfold Build.need nesting
  split <;> omega

section
variable {document : Json} {levels : Nat} (enough : nesting document ≤ levels)
include enough
open Build (Parallel)

theorem normalizeSettled {node : Json} (inside : node.Within document) (name : String)
    (p : Progress) :
    Parallel (Build.normalize ((components? document).getD []) (nesting document) node name)
      (Build.normalize ((components? document).getD []) levels node name) p :=
  Build.normalizeParallel (insideComponents document) enough inside (nestingNeed inside _) name p
    (List.Subset.refl _)

theorem declaredSettled {schemas : Fields Json} (inside : Inside document schemas) {p : Progress} :
    Parallel (buildDeclared ((components? document).getD []) (nesting document) schemas)
      (buildDeclared ((components? document).getD []) levels schemas) p := by
  induction schemas generalizing p with
  | nil => exact .pure
  | cons schema rest ih =>
    have ⟨first, others⟩ := List.forall_mem_cons.mp inside
    unfold buildDeclared
    refine (normalizeSettled enough first _ p).bind fun _ _ _ => ?_
    exact (ih others).bind fun _ _ _ => .pure

theorem bodiesSettled {bodies : List Body}
    (inside : ∀ body ∈ bodies, body.schema.Within document) {p : Progress} :
    Parallel (buildBodies ((components? document).getD []) (nesting document) bodies)
      (buildBodies ((components? document).getD []) levels bodies) p := by
  induction bodies generalizing p with
  | nil => exact .pure
  | cons body rest ih =>
    have ⟨first, others⟩ := List.forall_mem_cons.mp inside
    unfold buildBodies
    refine (Build.allocateParallel _).bind fun name q _ => ?_
    refine (normalizeSettled enough first name q).bind fun _ _ _ => ?_
    exact (ih others).bind fun _ _ _ => .pure

theorem extractSettled : extract document levels = extract document (nesting document) := by
  have same : entriesOf document (nesting document) = entriesOf document levels := by
    unfold entriesOf
    dsimp only
    refine congrArg (reserveAll .empty _ >>= ·) (funext fun names => ?_)
    refine congrArg (fun built => built >>= fun made => pure made.1) (Parallel.run ?_)
    refine (declaredSettled enough (insideComponents document)).bind fun _ _ _ => ?_
    exact (bodiesSettled enough fun _ => insideBodies).bind fun _ _ _ => .pure
  unfold extract
  rw [same]

end

structure Bounded (document : Json) : Prop where
  settled {levels : Nat} (enough : nesting document ≤ levels) :
    extract document levels = extract document (nesting document)
  finite : ∃ most, ∀ levels map, extract document levels = .ok map → map.size ≤ most
  merges {budget : Nat} (enough : ((components? document).getD []).length ≤ budget)
    (owner : String) (members : List Json) :
    Merge.addMembers (Merge.follow ((components? document).getD []) owner budget) members .empty =
      Merge.addMembers (Merge.follow ((components? document).getD []) owner
        ((components? document).getD []).length) members .empty

theorem extractBounded (document : Json) : Bounded document where
  -- From some depth on an extraction has one result, a map or a breach. Below it there are only
  -- finitely many results, so the sizes of its maps have a bound; and no merge in it is cut short.
  settled := extractSettled
  merges enough := mergeSettled enough
  finite := by
    let entries levels := ((extract document levels).toOption.map Map.size).getD 0
    refine ⟨(Finset.range (nesting document + 1)).sup entries, fun levels map ok => ?_⟩
    have size : map.size = entries (min levels (nesting document)) := by
      by_cases enough : nesting document ≤ levels
      · rw [Nat.min_eq_right enough]
        simp [entries, ← extractSettled enough, ok, Except.toOption]
      · rw [Nat.min_eq_left (by omega)]
        simp [entries, ok, Except.toOption]
    rw [size]
    exact Finset.le_sup (f := entries) (Finset.mem_range.mpr (by omega))

def mutualDocument : Json :=
  let named := Json.object [("type", .string "object"),
    ("properties", .object [("x", .object [("type", .string "string")])])]
  let owner (b : Json) := Json.object [("type", .string "object"), ("properties", .object [("b", b)])]
  let heir (base : Json) := Json.object [("allOf", .array [base, named])]
  let reference (name : String) := Json.object [("$ref", .string ("#/components/schemas/" ++ name))]
  .object [("components", .object [("schemas", .object [
    ("A", owner (heir (owner (reference "B")))), ("B", heir (owner (heir (reference "A"))))])])]

example : (extract mutualDocument (nesting mutualDocument)).toOption.map Map.names =
    some ["A", "AB", "B", "BB"] := by decide +kernel

end OpenApi.Schema
