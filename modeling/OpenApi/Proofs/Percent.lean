import OpenApi.Text.Percent
/-! Texts that percent escapes leave alone. What escapes stand for is shorter than they are, so a text
stays as it is exactly when no escape stands in it. -/
namespace OpenApi.Text.Percent

def Escaped (text : List Char) : Prop :=
  ∃ before high low after, text = before ++ '%' :: high :: low :: after ∧ (octet? high low).isSome

theorem escapedNil : ¬ Escaped [] := by
  rintro ⟨before, high, low, after, is, -⟩
  simp at is

theorem escapedCons {c : Char} {rest : List Char} :
    Escaped (c :: rest) ↔
      (∃ high low after, c :: rest = '%' :: high :: low :: after ∧ (octet? high low).isSome) ∨
        Escaped rest := by
  constructor
  · rintro ⟨before, high, low, after, is, some⟩
    cases before with
    | nil => exact .inl ⟨high, low, after, is, some⟩
    | cons first more => exact .inr ⟨more, high, low, after, (List.cons.inj is).2, some⟩
  · rintro (⟨high, low, after, is, some⟩ | ⟨before, high, low, after, rfl, some⟩)
    · exact ⟨[], high, low, after, is, some⟩
    · exact ⟨c :: before, high, low, after, rfl, some⟩

theorem decodeFromShort (started : Option Open) (octets : List Nat) :
    (decodeFrom started octets).length ≤ octets.length + started.toList.length := by
  fun_induction decodeFrom started octets <;> grind

theorem decodeOctetsShort (octets : List Nat) : (decodeOctets octets).length ≤ octets.length :=
  decodeFromShort none octets

theorem decodeRunShort (octets : List Nat) (text : List Char) :
    (decodeRun octets text).length ≤ octets.length + text.length ∧
      (Escaped text → (decodeRun octets text).length < octets.length + text.length) := by
  fun_induction decodeRun octets text with
  | case1 octets high low rest b found ih =>
    have short := ih.1
    simp only [List.length_cons] at short ⊢
    exact ⟨by omega, fun _ => by omega⟩
  | case2 octets high low rest none ih =>
    have run := decodeOctetsShort octets.reverse
    obtain ⟨short, less⟩ := ih
    simp only [List.length_append, List.length_cons, List.length_nil, List.length_reverse] at *
    refine ⟨by omega, fun escaped => ?_⟩
    have later : Escaped (high :: low :: rest) := by
      refine (escapedCons.mp escaped).resolve_left ?_
      rintro ⟨h, l, after, is, some⟩
      cases is
      simp [none] at some
    have := less later
    omega
  | case3 octets c rest other ih =>
    have run := decodeOctetsShort octets.reverse
    obtain ⟨short, less⟩ := ih
    simp only [List.length_append, List.length_cons, List.length_nil, List.length_reverse] at *
    refine ⟨by omega, fun escaped => ?_⟩
    have later : Escaped rest := by
      refine (escapedCons.mp escaped).resolve_left ?_
      rintro ⟨high, low, after, is, -⟩
      cases is
      exact other high low after rfl rfl
    have := less later
    omega
  | case4 octets =>
    have run := decodeOctetsShort octets.reverse
    exact ⟨by simpa using run, fun escaped => absurd escaped escapedNil⟩

theorem decodeRunPlain (octets : List Nat) {text : List Char} (plain : ¬ Escaped text) :
    decodeRun octets text = decodeOctets octets.reverse ++ text := by
  fun_induction decodeRun octets text with
  | case1 octets high low rest b found ih =>
    exact absurd (escapedCons.mpr (.inl ⟨high, low, rest, rfl, by simp [found]⟩)) plain
  | case2 octets high low rest none ih =>
    rw [ih fun escaped => plain (escapedCons.mpr (.inr escaped))]
    simp [decodeOctets, decodeFrom]
  | case3 octets c rest other ih =>
    rw [ih fun escaped => plain (escapedCons.mpr (.inr escaped))]
    simp [decodeOctets, decodeFrom]
  | case4 octets => simp

theorem decodeSame {text : List Char} : decode text = text ↔ ¬ Escaped text := by
  constructor
  · intro same escaped
    have less := (decodeRunShort [] text).2 escaped
    have length := congrArg List.length same
    simp only [decode] at length
    simp [length] at less
  · intro plain
    rw [decode, decodeRunPlain [] plain]
    rfl

end OpenApi.Text.Percent
