import OpenApi.Schema.Build
/-! What a build promises: from a given progress it breaks off only with an allowed breach, and else
it ends as said. -/
namespace OpenApi.Schema.Build
variable {α β : Type} {allowed : Breach → Prop} {p : Progress}

def Meets (allowed : Breach → Prop) (m : Build α) (p : Progress) (post : α → Progress → Prop) :
    Prop :=
  match m.run p with
  | .ok (a, q) => post a q
  | .error breach => allowed breach

namespace Meets

theorem ended {m : Build α} {post a q} (meets : Meets allowed m p post)
    (ok : m.run p = .ok (a, q)) : post a q := by
  simpa only [Meets, ok] using meets

theorem imp {m : Build α} {post last : α → Progress → Prop} (meets : Meets allowed m p post)
    (weaken : ∀ a q, post a q → last a q) : Meets allowed m p last := by
  unfold Meets at meets ⊢
  cases run : m.run p with
  | ok ended =>
    rw [run] at meets
    exact weaken ended.1 ended.2 meets
  | error breach =>
    rw [run] at meets
    exact meets

theorem pure {post : α → Progress → Prop} {a} (done : post a p) : Meets allowed (pure a) p post :=
  done

theorem throw {post : α → Progress → Prop} {breach} (may : allowed breach) :
    Meets allowed (throw breach) p post :=
  may

theorem got : Meets allowed get p fun a q => a = p ∧ q = p :=
  ⟨rfl, rfl⟩

theorem read {f : Progress → Build β} {post} (next : Meets allowed (f p) p post) :
    Meets allowed (get >>= f) p post :=
  next

theorem modify {f : Progress → Progress} {post : Unit → Progress → Prop} (done : post () (f p)) :
    Meets allowed (modify f) p post :=
  done

theorem bind {m : Build α} {f : α → Build β} {mid post} (first : Meets allowed m p mid)
    (next : ∀ a q, mid a q → Meets allowed (f a) q post) : Meets allowed (m >>= f) p post := by
  simp only [Meets, StateT.run_bind] at first ⊢
  cases run : m.run p with
  | ok ended =>
    rw [run] at first
    exact next ended.1 ended.2 first
  | error breach =>
    rw [run] at first
    exact first

theorem lift {x : Except Breach α} (may : ∀ breach, x = .error breach → allowed breach) :
    Meets allowed (liftM x) p fun a q => q = p ∧ x = .ok a := by
  cases x with
  | ok a => exact ⟨rfl, rfl⟩
  | error breach => exact may breach rfl

end Meets

theorem allocateMeets (base : String) :
    Meets allowed (allocate base) p fun name q =>
      name = p.names.fresh base ∧ q = { p with names := p.names.take name } :=
  ⟨rfl, rfl⟩

theorem startMeets {name : String} (empty : name.isEmpty → allowed .emptyName)
    (twice : name ∈ p.begun → allowed (.duplicateName name)) :
    Meets allowed (start name) p fun _ q =>
      ¬ name.isEmpty ∧ name ∉ p.begun ∧ q = { p with begun := name :: p.begun } := by
  unfold start
  split
  · rename_i is
    exact .throw (empty is)
  · rename_i named
    refine .read ?_
    by_cases begun : name ∈ p.begun
    · rw [if_pos begun]
      exact .throw (twice begun)
    · rw [if_neg begun]
      exact .modify ⟨named, begun, rfl⟩

theorem namedSlotMeets {components : Fields Json} {owner reference : String}
    (undeclared : declared? components reference = none →
      allowed (.residualReference owner reference)) :
    Meets allowed (namedSlot components owner reference) p fun slot q =>
      q = p ∧ ∃ name target, declared? components reference = some (name, target) ∧
        slot = .schema name := by
  unfold namedSlot
  split
  · rename_i name target declares
    exact .pure ⟨rfl, name, target, declares, rfl⟩
  · rename_i none
    exact .throw (undeclared none)

end OpenApi.Schema.Build
