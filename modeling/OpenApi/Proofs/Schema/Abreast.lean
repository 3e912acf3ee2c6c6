import OpenApi.Proofs.Schema.Closure
import OpenApi.Proofs.Schema.Opened
import OpenApi.Proofs.Schema.Partners
/-! Two builds of the same nodes side by side, under different names. They take the same steps: both
succeed, with results that are alike up to the names given away, or both break off at the same
reference. -/
namespace OpenApi.Schema

inductive Outcomes {α β : Type} (alike : α → β → Prop) :
    Except Breach α → Except Breach β → Prop where
  | ok {a b} (holds : alike a b) : Outcomes alike (.ok a) (.ok b)
  | error {owner other reference} : Outcomes alike (.error (.residualReference owner reference))
      (.error (.residualReference other reference))

namespace Outcomes
variable {α β γ δ : Type} {alike : α → β → Prop} {last : γ → δ → Prop} {x : Except Breach α}
  {y : Except Breach β}

theorem bind {f : α → Except Breach γ} {g : β → Except Breach δ} (first : Outcomes alike x y)
    (next : ∀ a b, alike a b → Outcomes last (f a) (g b)) : Outcomes last (x >>= f) (y >>= g) := by
  cases first with
  | ok holds => exact next _ _ holds
  | error => exact .error

theorem imp {other : α → β → Prop} (outcomes : Outcomes alike x y)
    (weaken : ∀ a b, alike a b → other a b) : Outcomes other x y := by
  cases outcomes with
  | ok holds => exact .ok (weaken _ _ holds)
  | error => exact .error

end Outcomes

theorem takeOutcomes (owner other : String) (visited : List Json) (merged : Merged) :
    Outcomes Eq (visited.foldlM (Merge.take owner) merged)
      (visited.foldlM (Merge.take other) merged) := by
  induction visited generalizing merged with
  | nil => exact .ok rfl
  | cons node rest ih =>
    rw [List.foldlM_cons, List.foldlM_cons]
    unfold Merge.take
    cases Reference.of? node with
    | some reference => exact .error
    | none => exact ih _

theorem mergeOutcomes (components : Fields Json) (owner other : String) (members : List Json) :
    Outcomes Eq (mergeAll components owner members) (mergeAll components other members) := by
  obtain ⟨visited, entered, tour, takes, -⟩ := mergeTakes components owner members
  obtain ⟨visited', entered', tour', takes', -⟩ := mergeTakes components other members
  obtain ⟨same, -⟩ := Merge.toursUnique tour tour'
  rw [takes, takes', same]
  exact takeOutcomes owner other visited .empty

namespace Build

structure Abreast (before : List String) (given : List (String × String)) (p q : Progress) :
    Prop where
  pairing : Pairing before given
  left : p.names.taken = given.map Prod.fst ++ before
  right : q.names.taken = given.map Prod.snd ++ before
  leftOpened : p.begun ⊆ p.names.taken
  rightOpened : q.begun ⊆ q.names.taken
  noted : List.Forall₂ (fun one other => one.1 = other.1 ∧ Partners before given one.2 other.2)
    p.recursive q.recursive

section
variable {before : List String} {given more : List (String × String)} {p q : Progress}
  {name other : String}

theorem Abreast.opening (abreast : Abreast before given p q) {begun begun' : List String}
    (left : begun ⊆ p.names.taken) (right : begun' ⊆ q.names.taken) :
    Abreast before given { p with begun := begun } { q with begun := begun' } :=
  { abreast with leftOpened := left, rightOpened := right }

theorem Abreast.noting (abreast : Abreast before given p q)
    (partners : Partners before given name other) (node : Json) :
    Abreast before given { p with recursive := (node, name) :: p.recursive }
      { q with recursive := (node, other) :: q.recursive } :=
  { abreast with noted := .cons ⟨rfl, partners⟩ abreast.noted }

theorem Abreast.allocating (abreast : Abreast before given p q) (freeLeft : name ∉ p.names.taken)
    (freeRight : other ∉ q.names.taken) :
    Abreast before ((name, other) :: given) { p with names := p.names.take name }
      { q with names := q.names.take other } := by
  rw [abreast.left, List.mem_append, not_or] at freeLeft
  rw [abreast.right, List.mem_append, not_or] at freeRight
  constructor
  case pairing =>
    have pairing := abreast.pairing
    constructor
    case left => exact List.nodup_cons.mpr ⟨freeLeft.1, pairing.left⟩
    case right => exact List.nodup_cons.mpr ⟨freeRight.1, pairing.right⟩
    case newLeft => exact List.forall_mem_cons.mpr ⟨freeLeft.2, pairing.newLeft⟩
    case newRight => exact List.forall_mem_cons.mpr ⟨freeRight.2, pairing.newRight⟩
  case left => exact congrArg (List.cons name) abreast.left
  case right => exact congrArg (List.cons other) abreast.right
  case leftOpened => exact List.subset_cons_of_subset name abreast.leftOpened
  case rightOpened => exact List.subset_cons_of_subset other abreast.rightOpened
  case noted =>
    exact abreast.noted.imp fun one other noted =>
      ⟨noted.1, noted.2.grow (List.subset_cons_self _ _)⟩

theorem lookupPartners {same : String → String → Prop} {memo memo' : List (Json × String)}
    (noted : List.Forall₂ (fun one other => one.1 = other.1 ∧ same one.2 other.2) memo memo')
    (node : Json) : Option.Rel same (memo.lookup node) (memo'.lookup node) := by
  induction noted with
  | nil => exact .none
  | @cons one other _ _ alike _ ih =>
    obtain ⟨key, name⟩ := one
    obtain ⟨rfl, partners⟩ := alike
    rw [List.lookup_cons, List.lookup_cons]
    split
    · exact .some partners
    · exact ih

theorem startReady {α : Type} {f : Unit → Build α} (ready : Ready p name) :
    (start name >>= f).run p = (f ()).run { p with begun := name :: p.begun } := by
  have named : ¬ name.isEmpty := by simpa using ready.named
  rw [StateT.run_bind]
  unfold start
  rw [if_neg named]
  simp only [StateT.run_bind, StateT.run_get, pure_bind, if_neg ready.unopened]
  rfl

def Together {α β : Type} (before : List String) (given : List (String × String))
    (alike : Likeness α β) (m : Build α) (k : Build β) (p q : Progress) : Prop :=
  Outcomes (fun (one : α × Progress) (other : β × Progress) => ∃ last, given ⊆ last ∧
      Abreast before last one.2 other.2 ∧ alike.holds (Partners before last) one.1 other.1)
    (m.run p) (k.run q)

namespace Together
variable {α β γ δ : Type} {alike : Likeness α β} {ends : Likeness γ δ} {m : Build α} {k : Build β}

theorem pure (abreast : Abreast before given p q) {a : α} {b : β}
    (holds : alike.holds (Partners before given) a b) :
    Together before given alike (pure a) (pure b) p q :=
  .ok ⟨given, List.Subset.refl _, abreast, holds⟩

theorem bind {f : α → Build γ} {g : β → Build δ} (first : Together before given alike m k p q)
    (next : ∀ a b last p' q', given ⊆ last → Abreast before last p' q' →
      alike.holds (Partners before last) a b → Together before last ends (f a) (g b) p' q') :
    Together before given ends (m >>= f) (k >>= g) p q := by
  unfold Together
  rw [StateT.run_bind, StateT.run_bind]
  refine Outcomes.bind first fun one other ended => ?_
  obtain ⟨last, later, abreast, holds⟩ := ended
  refine (next _ _ last _ _ later abreast holds).imp fun _ _ ended => ?_
  obtain ⟨final, latest, abreast, holds⟩ := ended
  exact ⟨final, List.Subset.trans later latest, abreast, holds⟩

theorem read {f : Progress → Build α} {g : Progress → Build β}
    (next : Together before given alike (f p) (g q) p q) :
    Together before given alike (get >>= f) (get >>= g) p q :=
  next

theorem bindLift {x y : Except Breach γ} {f : γ → Build α} {g : γ → Build β}
    (outcomes : Outcomes Eq x y) (next : ∀ c, Together before given alike (f c) (g c) p q) :
    Together before given alike (liftM x >>= f) (liftM y >>= g) p q := by
  cases outcomes with
  | ok same =>
    subst same
    exact next _
  | error => exact .error

theorem allocate {f : String → Build α} {g : String → Build β} (abreast : Abreast before given p q)
    (base base' : String) (next : ∀ name other p' q', Ready p' name → Ready q' other →
      Abreast before ((name, other) :: given) p' q' →
      Together before ((name, other) :: given) alike (f name) (g other) p' q') :
    Together before given alike (allocate base >>= f) (allocate base' >>= g) p q := by
  have free := (Names.freshCases p.names base).1
  have free' := (Names.freshCases q.names base').1
  have ready : Ready { p with names := p.names.take (p.names.fresh base) } (p.names.fresh base) :=
    ⟨Names.freshNamed _ _, List.mem_cons_self, fun opened => free (abreast.leftOpened opened)⟩
  have ready' : Ready { q with names := q.names.take (q.names.fresh base') } (q.names.fresh base') :=
    ⟨Names.freshNamed _ _, List.mem_cons_self, fun opened => free' (abreast.rightOpened opened)⟩
  refine (next _ _ _ _ ready ready' (abreast.allocating free free')).imp fun _ _ ended => ?_
  obtain ⟨last, later, abreast, holds⟩ := ended
  exact ⟨last, (List.cons_subset.mp later).2, abreast, holds⟩

end Together

end
end Build
end OpenApi.Schema
