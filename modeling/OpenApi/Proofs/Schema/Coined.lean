import OpenApi.Proofs.Schema.Fresh
import OpenApi.Proofs.Text
import OpenApi.Reference
/-! Names that a build coins for what has none. Each is derived from the place of a structure and
ends in a word, in a fixed ending or in a number; none of them is the mark of a reference. -/
namespace OpenApi.Schema

inductive Stem : String → Prop where
  | property (parent property) : Stem (propertyName parent property)
  | items (base) : Stem (base ++ "Item")
  | values (base) : Stem (base ++ "Value")
  | choice (owner) (index : Nat) : Stem (owner ++ "Option" ++ toString index)
  | body (method path slot) : Stem (bodyName method path slot)

def Coined (name : String) : Prop := ∃ base, Stem base ∧ Derived base name

theorem foreignEnding {front ending : String} {c : Char} (among : c ∈ ending.toList)
    (foreign : c ∉ ['$', 'r', 'e', 'f']) : front ++ ending ≠ Reference.key := by
  intro is
  have chars : front.toList ++ ending.toList = ['$', 'r', 'e', 'f'] := by
    rw [← String.toList_append, is]
    rfl
  exact foreign (chars ▸ List.mem_append_right _ among)

theorem numberUnmarked (front : String) (n : Nat) : front ++ toString n ≠ Reference.key := by
  have written : (toString n).toList = Nat.toDigits 10 n := by
    simp only [Nat.toString_eq_ofList_toDigits, String.toList_ofList]
  obtain ⟨c, among⟩ := List.exists_mem_of_ne_nil _ (Nat.toDigits_ne_nil (n := n) (b := 10))
  have digit := Nat.isDigit_of_mem_toDigits (by decide) (by decide) among
  have letters : ['$', 'r', 'e', 'f'].all (!·.isDigit) = true := by decide
  exact foreignEnding (written ▸ among) fun inside => by
    simpa [digit] using List.all_eq_true.mp letters c inside

theorem wordUnmarked (front text : String) (some : Text.pascal text ≠ "") :
    front ++ Text.pascal text ≠ Reference.key := by
  cases chars : (Text.pascal text).toList with
  | nil => exact absurd (String.toList_inj.mp chars) some
  | cons first rest =>
    have small : ['$', 'r', 'e', 'f'].all (fun c => !decide (Text.Raised c)) = true := by
      decide
    have raised := Text.pascalRaised chars
    exact foreignEnding (by rw [chars]; exact List.mem_cons_self) fun inside => by
      simpa [raised] using List.all_eq_true.mp small first inside

theorem stemUnmarked {base : String} (stem : Stem base) : base ≠ Reference.key := by
  cases stem with
  | property parent property =>
    unfold propertyName
    dsimp only
    split
    · exact foreignEnding (c := 'P') (by decide) (by decide)
    · rename_i some
      exact wordUnmarked parent property (by simpa using some)
  | items => exact foreignEnding (c := 'I') (by decide) (by decide)
  | values => exact foreignEnding (c := 'V') (by decide) (by decide)
  | choice owner index => exact numberUnmarked _ index
  | body =>
    unfold bodyName
    exact foreignEnding (c := 'S') (by decide) (by decide)

theorem coinedUnmarked {name : String} (coined : Coined name) : name ≠ Reference.key := by
  obtain ⟨base, stem, rfl | ⟨n, -, rfl⟩⟩ := coined
  · split
    · decide
    · exact stemUnmarked stem
  · exact numberUnmarked _ n

end OpenApi.Schema
