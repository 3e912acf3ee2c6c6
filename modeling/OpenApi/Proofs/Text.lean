import OpenApi.Text.Words
/-! Pieces of a text, and its words. A word in its capitalized form begins with no small letter of
ASCII. -/
namespace OpenApi.Text
variable {mark : Char} {text : List Char}

theorem splitSome (mark : Char) (text : List Char) : splitAtEach mark text ≠ [] := by
  cases text with
  | nil => simp [splitAtEach]
  | cons c rest =>
    unfold splitAtEach
    split
    · simp
    · split <;> simp

theorem splitSingle {piece : List Char} :
    splitAtEach mark text = [piece] ↔ mark ∉ text ∧ piece = text := by
  induction text generalizing piece with
  | nil => simp [splitAtEach, eq_comm]
  | cons c rest ih =>
    unfold splitAtEach
    split
    · rename_i same
      simp [splitSome, same]
    · rename_i other
      split
      · rename_i first pieces parts
        rw [parts] at ih
        simp only [List.cons.injEq] at ih ⊢
        constructor
        · rintro ⟨rfl, none⟩
          obtain ⟨bare, rfl⟩ := ih.mp ⟨rfl, none⟩
          exact ⟨List.not_mem_cons_of_ne_of_not_mem (Ne.symm other) bare, rfl⟩
        · rintro ⟨bare, rfl⟩
          obtain ⟨rfl, none⟩ := ih.mpr ⟨fun among => bare (List.mem_cons_of_mem _ among), rfl⟩
          exact ⟨rfl, none⟩
      · rename_i none
        exact absurd none (splitSome mark rest)

theorem splitFirst {piece rest : List Char} (bare : mark ∉ piece) :
    splitAtEach mark (piece ++ mark :: rest) = piece :: splitAtEach mark rest := by
  induction piece with
  | nil => simp [splitAtEach]
  | cons c more ih =>
    obtain ⟨other, later⟩ := not_or.mp (mt List.mem_cons.mpr bare)
    rw [List.cons_append, splitAtEach, if_neg (Ne.symm other), ih later]

theorem splitPieces {piece : List Char} (among : piece ∈ splitAtEach mark text) :
    ∀ c ∈ piece, c ∈ text ∧ c ≠ mark := by
  induction text generalizing piece with
  | nil => simp_all [splitAtEach]
  | cons first rest ih =>
    have later {piece} (among : piece ∈ splitAtEach mark rest) :
        ∀ c ∈ piece, c ∈ first :: rest ∧ c ≠ mark :=
      fun c inside => ⟨List.mem_cons_of_mem _ (ih among c inside).1, (ih among c inside).2⟩
    unfold splitAtEach at among
    split at among
    · rcases List.mem_cons.mp among with rfl | other
      · simp
      · exact later other
    · rename_i other
      split at among
      · rename_i head pieces parts
        rw [parts] at later
        rcases List.mem_cons.mp among with rfl | tail
        · exact List.forall_mem_cons.mpr ⟨⟨List.mem_cons_self, other⟩, later List.mem_cons_self⟩
        · exact later (List.mem_cons_of_mem _ tail)
      · rename_i none
        exact absurd none (splitSome mark rest)

theorem joinPairsOther {a b c x : Char} (other : x ≠ a) (rest : List Char) :
    joinPairs a b c (x :: rest) = x :: joinPairs a b c rest := by
  cases rest with
  | nil => rfl
  | cons y rest => exact if_neg fun pair => other pair.1

theorem joinPairsPair (a b c : Char) (rest : List Char) :
    joinPairs a b c (a :: b :: rest) = c :: joinPairs a b c rest :=
  if_pos ⟨rfl, rfl⟩

theorem joinPairsApart {a b c y : Char} (other : y ≠ b) (rest : List Char) :
    joinPairs a b c (a :: y :: rest) = a :: joinPairs a b c (y :: rest) :=
  if_neg fun pair => other pair.2

theorem humpsKeep {hump : Hump} {begun word : List Char} (among : word ∈ humps hump begun text) :
    ∀ c ∈ word, c ∈ begun ∨ c ∈ text := by
  fun_induction humps hump begun text <;> grind

theorem wordLetters {word : List Char} (among : word ∈ words text) :
    ∀ c ∈ word, isAlphanumeric c = true := by
  obtain ⟨piece, listed, cut⟩ := List.mem_flatMap.mp among
  intro c inside
  obtain ⟨spaced, apart⟩ := splitPieces listed c ((humpsKeep cut c inside).resolve_left
    List.not_mem_nil)
  obtain ⟨origin, -, is⟩ := List.mem_map.mp spaced
  split at is
  · rename_i letter
    exact is ▸ letter
  · exact absurd is.symm apart

def Raised (c : Char) : Prop := c.isLower = false ∧ c ≠ '$'
instance (c : Char) : Decidable (Raised c) := by unfold Raised; infer_instance

theorem pointKept (n : Nat) : (Char.ofNat n).toNat = n ∨ Char.ofNat n = '\x00' := by
  by_cases valid : n.isValidChar
  · have is : Char.ofNat n = Char.ofNatAux n valid := dif_pos valid
    exact .inl (congrArg Char.toNat is)
  · exact .inr (dif_neg valid)

theorem raisedPoint {n : Nat} (apart : 122 < n ∨ 36 < n ∧ n < 97) : Raised (Char.ofNat n) := by
  rcases pointKept n with point | null
  · refine ⟨Bool.eq_false_iff.mpr fun lower => ?_, fun dollar => ?_⟩
    · have bounds : 97 ≤ (Char.ofNat n).toNat ∧ (Char.ofNat n).toNat ≤ 122 := by
        have between := Bool.and_eq_true_iff.mp (lower : (decide _ && decide _) = true)
        exact ⟨of_decide_eq_true between.1, of_decide_eq_true between.2⟩
      omega
    · have sign : n = 36 := point.symm.trans (congrArg Char.toNat dollar)
      omega
  · rw [null]
    decide

theorem asciiRaised {c : Char} (low : c.toNat < 128) (letter : isAlphanumeric c = true) :
    Raised c.toUpper := by
  have table : ∀ n < 128, isAlphanumeric (Char.ofNat n) = true → Raised (Char.ofNat n).toUpper := by
    decide +kernel
  have raised := table c.toNat low
  rw [Char.ofNat_toNat] at raised
  exact raised letter

theorem expansionRaised {n : Nat} {expansion : List Nat}
    (found : upperExpansions.lookup n = some expansion) :
    ∃ first rest, expansion = first :: rest ∧ Raised (Char.ofNat first) := by
  have table : upperExpansions.all (fun e => e.2.head?.any fun first =>
      decide (Raised (Char.ofNat first))) = true := by decide +kernel
  obtain ⟨before, after, listed, -⟩ := List.lookup_eq_some_iff.mp found
  have head := List.all_eq_true.mp table (n, expansion) (by rw [listed]; simp)
  cases expansion with
  | nil => cases head
  | cons first rest => exact ⟨first, rest, rfl, by simpa using head⟩

theorem shiftRaised {n m : Nat} (high : 128 ≤ n) (shifted : shift? upperShifts n = some m) :
    Raised (Char.ofNat m) := by
  have table : ∀ run ∈ upperShifts, run.2.1 < 128 ∨ (122 : Int) < run.1 + run.2.2.2 ∨
      ((36 : Int) < run.1 + run.2.2.2 ∧ run.2.1 + run.2.2.2 < 97) := by decide +kernel
  obtain ⟨⟨start, last, step, offset⟩, found, is⟩ := Option.map_eq_some_iff.mp shifted
  have inside := List.find?_some found
  have bounds := table _ (List.mem_of_find?_eq_some found)
  simp only [Bool.and_eq_true, decide_eq_true_eq] at inside
  dsimp only at is bounds
  exact raisedPoint (by omega)

theorem upperRaised {c : Char} (letter : isAlphanumeric c = true) :
    ∃ first rest, upper c = first :: rest ∧ Raised first := by
  unfold upper
  split
  · rename_i low
    exact ⟨_, [], rfl, asciiRaised low letter⟩
  · rename_i high
    split
    · rename_i expansion found
      obtain ⟨first, rest, rfl, raised⟩ := expansionRaised found
      exact ⟨_, _, rfl, raised⟩
    · refine ⟨_, [], rfl, ?_⟩
      cases shifted : shift? upperShifts c.toNat with
      | none =>
        rw [Option.map_none, Option.getD_none, ← Char.ofNat_toNat c]
        exact raisedPoint (by omega)
      | some m => exact shiftRaised (by omega) shifted

theorem pascalRaised {text : String} {first : Char} {rest : List Char}
    (is : (pascal text).toList = first :: rest) : Raised first := by
  rw [pascal, String.toList_ofList] at is
  have letters : ∀ word ∈ words text.toList, ∀ c ∈ word, isAlphanumeric c = true :=
    fun _ => wordLetters
  generalize words text.toList = all at is letters
  induction all with
  | nil => cases is
  | cons word others ih =>
    have ⟨own, later⟩ := List.forall_mem_cons.mp letters
    cases word with
    | nil => exact ih (by simpa [capitalize] using is) later
    | cons c tail =>
      obtain ⟨head, more, raises, raised⟩ := upperRaised (own c List.mem_cons_self)
      simp only [List.flatMap_cons, capitalize, raises, List.cons_append, List.cons.injEq] at is
      exact is.1 ▸ raised

end OpenApi.Text
