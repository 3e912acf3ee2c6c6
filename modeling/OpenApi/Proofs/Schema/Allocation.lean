import OpenApi.Proofs.Schema.Fresh
/-! Names given out one after another. Counting up from 2 without a bound ends at a free name, the first
there is, and that is the name given. What is taken is what was given; it stays taken, and nothing is
given twice. -/
namespace OpenApi.Schema.Names

inductive Counts (names : Names) (stem : String) : Nat → String → Prop where
  | free {n} (free : numbered stem n ∉ names.taken) : Counts names stem n (numbered stem n)
  | taken {n name} (taken : numbered stem n ∈ names.taken)
      (later : Counts names stem (n + 1) name) : Counts names stem n name

section
variable {names : Names} {stem : String}

theorem countsFound {n count : Nat} {name : String}
    (found : ((List.range' n count).map (numbered stem)).find? (!names.isTaken ·) = some name) :
    Counts names stem n name := by
  induction count generalizing n with
  | zero => cases found
  | succ count ih =>
    rw [List.range'_succ, List.map_cons, List.find?_cons] at found
    split at found
    · rename_i free
      cases Option.some.inj found
      exact .free (by simpa [isTaken] using free)
    · rename_i held
      exact .taken (by simpa [isTaken] using held) (ih found)

theorem countsLeast {start : Nat} {name : String} (counts : Counts names stem start name) :
    ∃ n, start ≤ n ∧ name = numbered stem n ∧ name ∉ names.taken ∧
      ∀ m, start ≤ m → m < n → numbered stem m ∈ names.taken := by
  induction counts with
  | free free => exact ⟨_, Nat.le_refl _, rfl, free, fun m least less => by omega⟩
  | @taken start name taken _ ih =>
    obtain ⟨n, later, is, free, others⟩ := ih
    refine ⟨n, by omega, is, free, fun m least less => ?_⟩
    by_cases first : m = start
    · exact first ▸ taken
    · exact others m (by omega) less

end

theorem freshCounts {names : Names} {base : String} (held : stem base ∈ names.taken) :
    Counts names (stem base) 2 (names.fresh base) := by
  have taken : names.isTaken (stem base) = true := List.contains_iff_mem.mpr held
  obtain ⟨name, found⟩ := triedFree names (stem base)
  rw [freshSpelled, if_pos taken, found, Option.getD_some]
  exact countsFound found

/-- `Granted names base name next`: for the base the name is given away, and then `next` is taken. -/
structure Granted (names : Names) (base name : String) (next : Names) : Prop where
  itself : stem base ∉ names.taken → name = stem base
  counted : stem base ∈ names.taken → Counts names (stem base) 2 name
  numbered : stem base ∈ names.taken → ∃ n, 2 ≤ n ∧ name = numbered (stem base) n ∧
    ∀ m, 2 ≤ m → m < n → numbered (stem base) m ∈ names.taken
  free : name ∉ names.taken
  taken : next.taken = name :: names.taken

theorem allocateGrants (names : Names) (base : String) :
    Granted names base (names.allocate base).1 (names.allocate base).2 where
  itself other := by
    have free : names.isTaken (stem base) = false :=
      Bool.eq_false_iff.mpr fun held => other (List.contains_iff_mem.mp held)
    exact (freshSpelled names base).trans (by rw [free]; rfl)
  counted := freshCounts
  numbered held := by
    obtain ⟨n, least, is, -, others⟩ := countsLeast (freshCounts held)
    exact ⟨n, least, is, others⟩
  free := (freshCases names base).1
  taken := rfl

inductive Request where
  | reserve (name : String)
  | allocate (base : String)
  deriving DecidableEq, Repr

def serve (names : Names) : Request → Option String × Names
  | .reserve name =>
    match names.reserve? name with
    | some next => (some name, next)
    | none => (none, names)
  | .allocate base => (some (names.allocate base).1, (names.allocate base).2)

def serveAll (names : Names) : List Request → List (Option String) × Names
  | [] => ([], names)
  | request :: rest =>
    let (answer, next) := names.serve request
    let (answers, last) := next.serveAll rest
    (answer :: answers, last)

inductive Served : Names → List Request → List (Option String) → Names → Prop where
  | done {names} : Served names [] [] names
  | reserved {names next name rest answers last} (free : name ∉ names.taken)
      (taken : next.taken = name :: names.taken) (later : Served next rest answers last) :
      Served names (.reserve name :: rest) (some name :: answers) last
  | refused {names name rest answers last} (held : name ∈ names.taken)
      (later : Served names rest answers last) :
      Served names (.reserve name :: rest) (none :: answers) last
  | allocated {names next base name rest answers last} (grants : Granted names base name next)
      (later : Served next rest answers last) :
      Served names (.allocate base :: rest) (some name :: answers) last

theorem serveAllServes (names : Names) (requests : List Request) :
    Served names requests (names.serveAll requests).1 (names.serveAll requests).2 := by
  induction requests generalizing names with
  | nil => exact .done
  | cons request rest ih =>
    cases request with
    | allocate base => exact .allocated (allocateGrants names base) (ih _)
    | reserve name =>
      simp only [serveAll, serve, reserve?]
      split
      · rename_i next given
        split at given
        · cases given
        · rename_i free
          cases given
          exact .reserved (by simpa [isTaken] using free) rfl (ih _)
      · rename_i refused
        split at refused
        · rename_i held
          exact .refused (by simpa [isTaken] using held) (ih _)
        · cases refused

theorem servedTaken {names last : Names} {requests answers}
    (served : Served names requests answers last) (name : String) :
    name ∈ last.taken ↔ name ∈ names.taken ∨ some name ∈ answers := by
  induction served with
  | done => simp
  | refused _ _ ih => simp [ih]
  | reserved _ taken _ ih => simp [ih, taken, or_assoc, or_left_comm]
  | allocated grants _ ih => simp [ih, grants.taken, or_assoc, or_left_comm]

theorem servedDistinct {names last : Names} {requests answers}
    (served : Served names requests answers last) :
    (answers.filterMap id).Nodup ∧ ∀ name, some name ∈ answers → name ∉ names.taken := by
  have given {names next last : Names} {name rest answers} (free : name ∉ names.taken)
      (taken : next.taken = name :: names.taken) (later : Served next rest answers last)
      (ih : (answers.filterMap id).Nodup ∧ ∀ name, some name ∈ answers → name ∉ next.taken) :
      ((some name :: answers).filterMap id).Nodup ∧
        ∀ other, some other ∈ some name :: answers → other ∉ names.taken := by
    obtain ⟨distinct, apart⟩ := ih
    rw [taken] at apart
    refine ⟨List.nodup_cons.mpr ⟨fun again => ?_, distinct⟩, fun other among => ?_⟩
    · obtain ⟨answer, among, is⟩ := List.mem_filterMap.mp again
      cases is
      exact apart name among List.mem_cons_self
    · rcases List.mem_cons.mp among with same | among
      · cases same
        exact free
      · exact fun held => apart other among (List.mem_cons_of_mem _ held)
  induction served with
  | done => simp
  | refused _ _ ih => simpa using ih
  | reserved free taken later ih => exact given free taken later ih
  | allocated grants later ih => exact given grants.free grants.taken later ih

theorem serveAllAppend (names : Names) (before after : List Request) :
    (names.serveAll (before ++ after)).2 = ((names.serveAll before).2.serveAll after).2 := by
  induction before generalizing names with
  | nil => rfl
  | cons request before ih => exact ih _

theorem allocationLawful (requests : List Request) :
    let answers := (empty.serveAll requests).1
    let last := (empty.serveAll requests).2
    Served empty requests answers last ∧ (∀ name, last.isTaken name ↔ some name ∈ answers) ∧
      (∀ more, last.taken ⊆ (empty.serveAll (requests ++ more)).2.taken) ∧
      (answers.filterMap id).Nodup := by
  have served := serveAllServes empty requests
  refine ⟨served, fun name => ?_, fun more name held => ?_, (servedDistinct served).1⟩
  · have taken := servedTaken served name
    simpa [isTaken, empty] using taken
  · rw [serveAllAppend]
    exact (servedTaken (serveAllServes _ more) name).mpr (.inl held)

example :
    let given := "Foo" :: (List.range' 2 10).map (numbered "Foo")
    let more := [.allocate "Foo1", .allocate "Foo1", .allocate "Foo", .reserve "Foo13"]
    (empty.serveAll (given.map .reserve ++ more)).1.drop 11 =
      [some "Foo1", some "Foo12", some "Foo13", none] := by decide +kernel

end OpenApi.Schema.Names
