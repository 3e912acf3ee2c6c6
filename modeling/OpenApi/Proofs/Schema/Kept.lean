import OpenApi.Proofs.Schema.Journal
/-! What the journal of a build shows. Every call but those of the roots has a parent a level above
it; what is reused was taken out before; and the entries are those of the calls that make one, in
the order of the calls. -/
namespace OpenApi.Schema

abbrev Call.below (parent : Call) (cause : Cause) (node : Json) (name : String) : Call :=
  ⟨cause, parent.depth + 1, node, name⟩

def Union (node : Json) (members : List Json) : Prop :=
  Reference.of? node = none ∧
    ∃ kind, Node.composition? node = some (kind, members) ∧ kind ≠ .allOf

structure Nested (max : Nat) (parent : Call) (node : Json) : Prop where
  makes : parent.makes
  room : parent.depth < max
  plain : Reference.of? node = none
  needs : Node.needsEntry node = true

inductive Linked (max : Nat) (all : List Call) : Call → Prop where
  | root {node name} : Linked max all ⟨.root, 0, node, name⟩
  | hoisted {parent node name} (known : parent ∈ all) (nested : Nested max parent node) :
      Linked max all (parent.below .hoisted node name)
  | reused {parent made : Call} (known : parent ∈ all) (nested : Nested max parent made.node)
      (before : made ∈ all) (taken : made.cause = .hoisted) :
      Linked max all (parent.below .reused made.node made.name)
  | option {parent members member name} (known : parent ∈ all) (makes : parent.makes)
      (union : Union parent.node members) (among : member ∈ members) :
      Linked max all (parent.below .option member name)

def Branched (calls : List Call) (c : Call) : Prop :=
  c.makes → ∀ members, Union c.node members →
    ∃ option ∈ calls, option.cause = .option ∧ option.depth = c.depth + 1

/-- A structure is typed by name where there is room for an entry, and a reference everywhere. -/
def Settled (room : Prop) (node : Json) (slot : Slot) : Prop :=
  Node.needsEntry node → ((∃ name, slot = .schema name) ↔ (Reference.of? node).isSome ∨ room)

def PropertiesSettled (room : Prop) : Fields Json → Fields Property → Prop :=
  List.Forall₂ fun declared given => given.1 = declared.1 ∧ Settled room declared.2 given.2.slot

structure Fits (max : Nat) (c : Call) (entry : Entry) : Prop where
  named : entry.name = c.name
  properties : Single c.node → Node.isObject c.node →
    PropertiesSettled (c.depth < max) ((c.node.getFields? "properties").getD []) entry.properties

def Breach.Naming : Breach → Prop
  | .emptyName | .duplicateName _ => True
  | _ => False

theorem Linked.mono {max all next c} (linked : Linked max all c) (more : all ⊆ next) :
    Linked max next c := by
  cases linked with
  | root => exact .root
  | hoisted known nested => exact .hoisted (more known) nested
  | reused known nested before taken => exact .reused (more known) nested (more before) taken
  | option known makes union among => exact .option (more known) makes union among

theorem Branched.mono {calls next c} (branched : Branched calls c) (more : calls ⊆ next) :
    Branched next c := by
  intro makes members union
  obtain ⟨option, listed, is⟩ := branched makes members union
  exact ⟨option, more listed, is⟩

namespace Journal
open Logged (of call)

def Noted (past : List Call) (memo : List (Json × String)) : Prop :=
  ∀ m ∈ memo, ∃ made ∈ past, made.cause = .hoisted ∧ made.node = m.1 ∧ made.name = m.2

theorem Noted.mono {past next memo} (noted : Noted past memo) (more : past ⊆ next) :
    Noted next memo := by
  intro m listed
  obtain ⟨made, known, is⟩ := noted m listed
  exact ⟨made, more known, is⟩

def BreaksNaming {α : Type} (m : Logged α) (p : Progress) : Prop :=
  ∃ breach : Breach, breach.Naming ∧ m.build.run p = .error breach

structure Kept {α : Type} (max : Nat) (past : List Call) (m : Logged α) (p : Progress)
    (post : List Call → α → Progress → Prop) : Prop where
  linked : ∀ c ∈ m.calls p, Linked max (past ++ m.calls p) c
  branched : BreaksNaming m p ∨ ∀ c ∈ m.calls p, Branched (m.calls p) c
  ended : ∀ a q, m.build.run p = .ok (a, q) → post (m.calls p) a q

section
variable {α β : Type} {p q : Progress} {m : Logged α} {f : α → Logged β}

theorem bindEnded {a : α} (ran : m.build.run p = .ok (a, q)) :
    (m >>= f).calls p = m.calls p ++ (f a).calls q ∧
      (m >>= f).build.run p = (f a).build.run q := by
  constructor
  · change m.calls p ++ _ = _
    rw [ran]
  · rw [buildBind, StateT.run_bind, ran]
    rfl

theorem bindBroken {breach : Breach} (ran : m.build.run p = .error breach) :
    (m >>= f).calls p = m.calls p ∧ (m >>= f).build.run p = .error breach := by
  constructor
  · change m.calls p ++ _ = _
    rw [ran, List.append_nil]
  · rw [buildBind, StateT.run_bind, ran]
    rfl

end

namespace Kept
variable {α β : Type} {max : Nat} {past : List Call} {p : Progress} {m : Logged α}
  {f : α → Logged β} {mid : List Call → α → Progress → Prop}
  {post : List Call → β → Progress → Prop}

theorem of {n : Build α} (meets : Build.Meets (fun _ => True) n p (mid [])) :
    Kept max past (of n) p mid :=
  ⟨fun _ => nofun, .inr fun _ => nofun, fun _ _ ok => meets.ended ok⟩

theorem pure {a : α} (done : mid [] a p) : Kept max past (pure a) p mid :=
  of (n := Pure.pure a) done

theorem imp {last : List Call → α → Progress → Prop} (kept : Kept max past m p mid)
    (weaken : ∀ calls a q, mid calls a q → last calls a q) : Kept max past m p last :=
  ⟨kept.linked, kept.branched, fun a q ok => weaken _ a q (kept.ended a q ok)⟩

theorem bind (first : Kept max past m p mid)
    (next : ∀ calls a q, mid calls a q →
      Kept max (past ++ calls) (f a) q fun more => post (calls ++ more)) :
    Kept max past (m >>= f) p post := by
  cases ran : m.build.run p with
  | error breach =>
    -- Nothing of the second part is called, and a breach of names is still one.
    have ⟨calls, run⟩ := bindBroken (f := f) ran
    constructor
    case linked => exact calls ▸ first.linked
    case ended => simp [run]
    case branched =>
      refine first.branched.imp ?_ fun each => calls ▸ each
      rintro ⟨other, naming, broke⟩
      cases ran.symm.trans broke
      exact ⟨breach, naming, run⟩
  | ok made =>
    obtain ⟨a, q⟩ := made
    have ⟨calls, run⟩ := bindEnded (f := f) ran
    have last := next _ a q (first.ended a q ran)
    constructor
    case linked =>
      rw [calls, List.forall_mem_append, ← List.append_assoc]
      exact ⟨fun c early => (first.linked c early).mono (List.subset_append_left _ _), last.linked⟩
    case ended => exact fun b r ok => calls ▸ last.ended b r (run ▸ ok)
    case branched =>
      have early := first.branched.resolve_left fun ⟨_, _, broke⟩ => by simp [ran] at broke
      refine last.branched.imp ?_ fun late => ?_
      · rintro ⟨breach, naming, broke⟩
        exact ⟨breach, naming, run.trans broke⟩
      · rw [calls, List.forall_mem_append]
        exact ⟨fun c listed => (early c listed).mono (List.subset_append_left _ _),
          fun c listed => (late c listed).mono (List.subset_append_right _ _)⟩

theorem after {n : Build α} {given : α → Progress → Prop}
    (meets : Build.Meets (fun _ => True) n p given)
    (next : ∀ a q, given a q → Kept max past (f a) q post) :
    Kept max past (Logged.of n >>= f) p post := by
  have nothing : Kept max past (Logged.of n) p fun calls a q => calls = [] ∧ given a q :=
    of (meets.imp fun a q done => ⟨rfl, done⟩)
  refine nothing.bind fun calls a q ended => ?_
  obtain ⟨rfl, done⟩ := ended
  rw [List.append_nil]
  exact next a q done

theorem map {g : α → β} (first : Kept max past m p mid)
    (join : ∀ calls a q, mid calls a q → post calls (g a) q) :
    Kept max past (do let a ← m; return g a) p post := by
  refine bind first fun calls a q done => pure ?_
  rw [List.append_nil]
  exact join calls a q done

theorem call {c : Call} (link : Linked max (past ++ [c]) c)
    (branch : BreaksNaming m p ∨ Branched (m.calls p) c)
    (inner : Kept max (past ++ [c]) m p fun calls => mid (c :: calls)) :
    Kept max past (call c m) p mid where
  linked := by
    change ∀ d ∈ c :: m.calls p, Linked max (past ++ c :: m.calls p) d
    rw [List.forall_mem_cons, List.append_cons]
    exact ⟨link.mono (List.subset_append_left _ _), inner.linked⟩
  branched := by
    change _ ∨ ∀ d ∈ c :: m.calls p, Branched (c :: m.calls p) d
    rcases inner.branched with broken | each
    · exact .inl broken
    · refine branch.imp id fun own => List.forall_mem_cons.mpr ⟨?_, fun d listed => ?_⟩
      · exact own.mono (List.subset_cons_self _ _)
      · exact (each d listed).mono (List.subset_cons_self _ _)
  ended := inner.ended

end Kept

structure Closes (max : Nat) (past calls : List Call) (entries : List Entry) (q : Progress) :
    Prop where
  noted : Noted (past ++ calls) q.recursive
  fits : List.Forall₂ (Fits max) (calls.filter Call.makes) entries

def Keeps {α : Type} (max : Nat) (owner : Call) (m : Logged (α × List Entry))
    (result : α → Prop) : Prop :=
  ∀ past p, owner ∈ past → Noted past p.recursive →
    Kept max past m p fun calls made q => result made.1 ∧ Closes max past calls made.2 q

def Enters (max : Nat) (c : Call) (m : Logged (List Entry)) : Prop :=
  ∀ past p, Linked max (past ++ [c]) c → Noted (past ++ [c]) p.recursive →
    Kept max past (call c m) p fun calls entries q => Closes max past calls entries q

section
variable {max : Nat} {past calls more : List Call} {entries others : List Entry} {p q r : Progress}

theorem Closes.still (noted : Noted past p.recursive) : Closes max past [] [] p :=
  ⟨by simpa using noted, .nil⟩

theorem Closes.both (first : Closes max past calls entries q)
    (second : Closes max (past ++ calls) more others r) :
    Closes max past (calls ++ more) (entries ++ others) r where
  noted := by simpa using second.noted
  fits := by
    rw [List.filter_append]
    exact List.rel_append first.fits second.fits

end

namespace Keeps
variable {α β γ : Type} {max : Nat} {owner : Call} {m : Logged (α × List Entry)}
  {k : Logged (β × List Entry)} {one : α → Prop} {other : β → Prop}

theorem pure {a : α} (known : one a) : Keeps max owner (pure (a, [])) one :=
  fun _ _ _ noted => .pure ⟨known, .still noted⟩

theorem imp {last : α → Prop} (keeps : Keeps max owner m one) (weaken : ∀ a, one a → last a) :
    Keeps max owner m last := fun past p known noted =>
  (keeps past p known noted).imp fun _ made _ ended => ⟨weaken made.1 ended.1, ended.2⟩

theorem map {f : α → β} (first : Keeps max owner m one) (join : ∀ a, one a → other (f a)) :
    Keeps max owner (do let (a, entries) ← m; return (f a, entries)) other := by
  intro past p known noted
  exact (first past p known noted).map fun calls made q ended => ⟨join made.1 ended.1, ended.2⟩

theorem both {f : α → β → γ} {result : γ → Prop} (first : Keeps max owner m one)
    (second : Keeps max owner k other) (join : ∀ a b, one a → other b → result (f a b)) :
    Keeps max owner (do let (a, entries) ← m; let (b, more) ← k; return (f a b, entries ++ more))
      result := by
  intro past p known noted
  refine (first past p known noted).bind fun calls made q ended => ?_
  obtain ⟨early, closes⟩ := ended
  refine (second _ q (List.mem_append_left _ known) closes.noted).map fun more rest r last => ?_
  exact ⟨join _ _ early last.1, closes.both last.2⟩

end Keeps
end Journal
end OpenApi.Schema
