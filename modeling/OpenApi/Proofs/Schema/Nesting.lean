import OpenApi.Proofs.Schema.Chronicle
/-! How deep an extraction goes. The bound is tested where a structure is taken out of a slot, and not
where a union asks for its members; so the entries past the bound are those of members, below unions
that stand at the bound. -/
namespace OpenApi.Schema

section
variable {document : Json} {max : Nat} {c : Call}

theorem Linked.bounded {all : List Call} (linked : Linked max all c) (cause : c.cause ≠ .option) :
    c.depth ≤ max := by
  cases linked with
  | root => exact Nat.zero_le max
  | hoisted _ nested | reused _ nested => exact nested.room
  | option => exact absurd rfl cause

theorem unionAtBound (asked : c ∈ calls document max) (past : max < c.depth) :
    ∃ parent ∈ calls document max, parent.makes ∧ parent.depth = max ∧
      ∃ members, Union parent.node members := by
  induction depth : c.depth generalizing c with
  | zero => omega
  | succ depth ih =>
    cases (chronicle document max).linked c asked with
    | root => cases depth
    | hoisted _ nested | reused _ nested =>
      have room := nested.room
      simp only at past
      omega
    | option known makes union among =>
      rename_i parent members _ _
      simp only [Nat.add_right_cancel_iff] at depth
      by_cases higher : max < parent.depth
      · exact ih known higher depth
      · simp only at past
        exact ⟨parent, known, makes, by omega, members, union⟩

end

structure DepthKept (document : Json) (max : Nat) : Prop where
  linked : ∀ c ∈ calls document max, Linked max (calls document max) c
  structures : ∀ c ∈ calls document max, c.cause ≠ .option → c.depth ≤ max
  kept : (∀ c ∈ calls document max, c.makes → c.depth ≤ max) ↔
    ∀ c ∈ calls document max, c.makes → c.depth = max → ∀ members, ¬ Union c.node members
  entries : ∀ map, extract document max = .ok map →
    map.names = ((calls document max).filter Call.makes).map Call.name

theorem depthKept (document : Json) (max : Nat) : DepthKept document max where
  linked := (chronicle document max).linked
  structures c asked := ((chronicle document max).linked c asked).bounded
  kept := by
    constructor
    · intro bounded c asked makes deep members union
      obtain ⟨option, listed, cause, below⟩ :=
        (chronicle document max).branched c asked makes members union
      have within := bounded option listed (by simp [Call.makes, cause])
      omega
    · intro none c asked makes
      by_contra past
      obtain ⟨parent, known, makes, deep, members, union⟩ :=
        unionAtBound asked (Nat.lt_of_not_le past)
      exact none parent known makes deep members union
  entries _ ok := callsNamed ok

def choicesDocument : Json :=
  .object [("components", .object [("schemas", .object [
    ("A", .object [("oneOf", .array [.object [("oneOf", .array [
      .object [("type", .string "string")]])]])])])])]

theorem choicePastBound :
    ¬ ∀ document max map, extract document max = .ok map →
      ∀ c ∈ calls document max, c.makes → c.depth ≤ max := by
  intro bounded
  have names : (extract choicesDocument 1).toOption.map Map.names =
      some ["A", "AOption1", "AOption1Option1"] := by decide +kernel
  have past : ∃ c ∈ calls choicesDocument 1, c.makes ∧ c.depth = 2 := by decide +kernel
  obtain ⟨c, asked, makes, deep⟩ := past
  obtain ⟨map, ok, -⟩ := evaluated names
  have within := bounded _ 1 map ok c asked makes
  omega

end OpenApi.Schema
