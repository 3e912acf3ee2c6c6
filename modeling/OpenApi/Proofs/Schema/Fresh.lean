import OpenApi.Schema.Name
/-! Names that are given away. More numbers are tried than names are taken, and no two numbers make
one name, so the name found is free; it is never empty. -/
namespace OpenApi.Schema.Names

theorem numberedInjective {base : String} {m n : Nat} (same : numbered base m = numbered base n) :
    m = n := by
  have digits : toString m = toString n := (String.append_right_inj base).mp same
  have listed := congrArg String.toList digits
  simp only [Nat.toString_eq_ofList_toDigits, String.toList_ofList] at listed
  have read := congrArg (Nat.ofDigitChars 10 · 0) listed
  simpa only [Nat.ofDigitChars_ten_toDigits] using read

def tried (names : Names) (stem : String) : List String :=
  (List.range' 2 (names.taken.length + 1)).map (numbered stem)

theorem triedFree (names : Names) (stem : String) :
    ∃ name, (names.tried stem).find? (!names.isTaken ·) = some name := by
  cases found : (names.tried stem).find? (!names.isTaken ·) with
  | some name => exact ⟨name, rfl⟩
  | none =>
    have held : names.tried stem ⊆ names.taken := fun name member => by
      simpa [isTaken] using List.find?_eq_none.mp found name member
    have apart : (names.tried stem).Nodup := by
      refine List.pairwise_map.mpr (List.Pairwise.imp (fun differ same => ?_) List.nodup_range')
      exact differ (numberedInjective same)
    have fits := apart.length_le_of_subset held
    simp only [tried, List.length_map, List.length_range'] at fits
    omega

def stem (base : String) : String := if base.isEmpty then "Schema" else base

theorem stemNamed (base : String) : stem base ≠ "" := by
  unfold stem
  split
  · decide
  · rename_i named
    simpa using named

theorem freshSpelled (names : Names) (base : String) :
    names.fresh base =
      if names.isTaken (stem base) then
        ((names.tried (stem base)).find? (!names.isTaken ·)).getD (stem base)
      else stem base :=
  rfl

theorem freshCases (names : Names) (base : String) :
    names.fresh base ∉ names.taken ∧
      (names.fresh base = stem base ∨ ∃ n, 2 ≤ n ∧ names.fresh base = numbered (stem base) n) := by
  rw [freshSpelled]
  split
  · obtain ⟨name, found⟩ := triedFree names (stem base)
    obtain ⟨n, range, is⟩ := List.mem_map.mp (List.mem_of_find?_eq_some found)
    have free := List.find?_some found
    rw [found, Option.getD_some]
    exact ⟨by simpa [isTaken] using free, .inr ⟨n, (List.mem_range'_1.mp range).1, is.symm⟩⟩
  · rename_i free
    exact ⟨by simpa [isTaken] using free, .inl rfl⟩

theorem freshNamed (names : Names) (base : String) : names.fresh base ≠ "" := by
  rcases (freshCases names base).2 with is | ⟨n, -, is⟩
  · rw [is]
    exact stemNamed base
  · rw [is, numbered]
    intro empty
    exact stemNamed base (String.append_eq_empty_iff.mp empty).1

end OpenApi.Schema.Names

namespace OpenApi.Schema

def Derived (base name : String) : Prop :=
  let stem := if base.isEmpty then "Schema" else base
  name = stem ∨ ∃ n, 2 ≤ n ∧ name = Names.numbered stem n

theorem freshDerived (names : Names) (base : String) : Derived base (names.fresh base) :=
  (names.freshCases base).2

end OpenApi.Schema
