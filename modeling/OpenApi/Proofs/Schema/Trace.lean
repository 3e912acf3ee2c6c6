import OpenApi.Proofs.Schema.Image
import OpenApi.Proofs.Schema.Meets
import OpenApi.Proofs.Schema.Nodes
/-! A run of a build leaves a trace: the origins of its entries, in the order of the entries. Under
whatever source that holds these origins, and those of the structures that could be reused, the
entries are images. So nothing is said of names before all of them are given away. -/
namespace OpenApi.Schema.Build

def Holds (source : Source) (origins : Fields Origin) : Prop :=
  ∀ o ∈ origins, source o.1 o.2

def Remembers (source : Source) (memo : List (Json × String)) : Prop :=
  ∀ m ∈ memo, ∃ levels, source m.2 ⟨m.1, levels⟩

def Images (components : Fields Json) (source : Source) : Fields Origin → List Entry → Prop :=
  List.Forall₂ fun o entry => Image components source o.2.levels o.1 o.2.node entry

structure Traced (components : Fields Json) (document : Json) (memo next : List (Json × String))
    (origins : Fields Origin) (entries : List Entry) (result : Source → Prop) : Prop where
  inside : ∀ o ∈ origins, o.2.node.Within document
  holds : ∀ source, Holds source origins → Remembers source memo →
    Remembers source next ∧ Images components source origins entries ∧ result source

def Leaves {α : Type} (components : Fields Json) (document : Json) (m : Build (α × List Entry))
    (p : Progress) (result : Source → α → Prop) : Prop :=
  Meets (fun _ => True) m p fun r q =>
    ∃ origins, Traced components document p.recursive q.recursive origins r.2 (result · r.1)

def Makes (components : Fields Json) (document : Json) (levels : Nat) (m : Build (List Entry))
    (node : Json) (name : String) (p : Progress) : Prop :=
  Meets (fun _ => True) m p fun entries q =>
    ∃ inner, Traced components document p.recursive q.recursive ((name, ⟨node, levels⟩) :: inner)
      entries fun source => source name ⟨node, levels⟩

section
variable {components : Fields Json} {document : Json} {memo next last : List (Json × String)}
  {p : Progress}

namespace Traced
variable {origins more : Fields Origin} {entries others : List Entry} {one other : Source → Prop}

theorem still (known : ∀ source, Remembers source memo → one source) :
    Traced components document memo memo [] [] one where
  inside := by simp
  holds source _ remembers := ⟨remembers, .nil, known source remembers⟩

theorem imp (traced : Traced components document memo next origins entries one)
    (weaken : ∀ source, one source → other source) :
    Traced components document memo next origins entries other where
  inside := traced.inside
  holds source holds remembers := by
    obtain ⟨after, images, known⟩ := traced.holds source holds remembers
    exact ⟨after, images, weaken source known⟩

theorem both {result : Source → Prop}
    (first : Traced components document memo next origins entries one)
    (second : Traced components document next last more others other)
    (join : ∀ source, one source → other source → result source) :
    Traced components document memo last (origins ++ more) (entries ++ others) result where
  inside o member := (List.mem_append.mp member).elim (first.inside o) (second.inside o)
  holds source holds remembers := by
    have ⟨early, late⟩ := List.forall_mem_append.mp holds
    obtain ⟨between, images, known⟩ := first.holds source early remembers
    obtain ⟨after, more, others⟩ := second.holds source late between
    exact ⟨after, List.rel_append images more, join source known others⟩

theorem noted {node name levels}
    (traced : Traced components document ((node, name) :: memo) next
      ((name, ⟨node, levels⟩) :: origins) entries one) :
    Traced components document memo next ((name, ⟨node, levels⟩) :: origins) entries one where
  inside := traced.inside
  holds source holds remembers := by
    have own : source name ⟨node, levels⟩ := holds _ List.mem_cons_self
    exact traced.holds source holds (List.forall_mem_cons.mpr ⟨⟨levels, own⟩, remembers⟩)

end Traced

namespace Leaves
variable {α β γ : Type}

theorem pure {a : α} {result : Source → α → Prop}
    (known : ∀ source, Remembers source p.recursive → result source a) :
    Leaves components document (pure (a, [])) p result :=
  Meets.pure ⟨[], .still known⟩

theorem map {m : Build (α × List Entry)} {f : α → β} {one both}
    (first : Leaves components document m p one)
    (join : ∀ source a, one source a → both source (f a)) :
    Leaves components document (do let (a, entries) ← m; return (f a, entries)) p both := by
  refine Meets.bind first fun made q ended => ?_
  obtain ⟨origins, traced⟩ := ended
  exact .pure ⟨origins, traced.imp fun source => join source made.1⟩

theorem both {m : Build (α × List Entry)} {k : Build (β × List Entry)} {f : α → β → γ}
    {one other both} (first : Leaves components document m p one)
    (second : ∀ q, Leaves components document k q other)
    (join : ∀ source a b, one source a → other source b → both source (f a b)) :
    Leaves components document
      (do let (a, entries) ← m; let (b, more) ← k; return (f a b, entries ++ more)) p both := by
  refine Meets.bind first fun made q ended => ?_
  obtain ⟨origins, traced⟩ := ended
  refine Meets.bind (second q) fun rest r last => ?_
  obtain ⟨more, others⟩ := last
  exact .pure ⟨origins ++ more, traced.both others fun source => join source made.1 rest.1⟩

end Leaves
end
end OpenApi.Schema.Build
