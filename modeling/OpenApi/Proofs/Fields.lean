import OpenApi.Fields
/-! Named values and members without repetition. -/
namespace OpenApi

namespace Fields
variable {α β : Type}

theorem getMember {fields : Fields α} {key value} (found : get? key fields = some value) :
    (key, value) ∈ fields := by
  induction fields with
  | nil => simp [get?] at found
  | cons field rest ih =>
    simp only [get?] at found
    split at found
    · rename_i same
      cases Option.some.inj found
      exact List.mem_cons.mpr (.inl (by rw [← same]))
    · exact List.mem_cons_of_mem _ (ih found)

theorem getSome {key : String} {fields : Fields α} :
    (get? key fields).isSome ↔ key ∈ keys fields := by
  induction fields with
  | nil => simp [get?, keys]
  | cons field rest ih =>
    simp only [get?, keys, List.map_cons, List.mem_cons]
    split
    · rename_i same
      simp [same]
    · rename_i other
      rw [ih]
      exact ⟨.inr, fun is => is.resolve_left fun same => other same.symm⟩

theorem getOfMember {fields : Fields α} (distinct : (keys fields).Nodup) {key value}
    (member : (key, value) ∈ fields) : get? key fields = some value := by
  induction fields with
  | nil => cases member
  | cons field rest ih =>
    obtain ⟨apart, others⟩ := List.nodup_cons.mp distinct
    unfold get?
    obtain rfl | later := List.mem_cons.mp member
    · exact if_pos rfl
    · have other : field.1 ≠ key := fun same => apart (List.mem_map.mpr ⟨_, later, same.symm⟩)
      rw [if_neg other]
      exact ih others later

theorem getMap (f : String × α → β) (key : String) (fields : Fields α) :
    get? key (fields.map fun m => (m.1, f m)) =
      (get? key fields).map fun value => f (key, value) := by
  induction fields with
  | nil => rfl
  | cons field rest ih =>
    simp only [List.map_cons, get?]
    split
    · rename_i same
      rw [← same]; rfl
    · exact ih

theorem setMember {key : String} {value : α} {fields : Fields α} {m}
    (member : m ∈ set key value fields) : m = (key, value) ∨ m ∈ fields := by
  induction fields with
  | nil => exact .inl (List.mem_singleton.mp member)
  | cons field rest ih =>
    simp only [set] at member
    split at member
    · exact (List.mem_cons.mp member).imp_right (List.mem_cons_of_mem _)
    · obtain rfl | later := List.mem_cons.mp member
      · exact .inr List.mem_cons_self
      · exact (ih later).imp_right (List.mem_cons_of_mem _)

theorem setKeys {key : String} {value : α} {fields : Fields α} :
    keys (set key value fields) = addNew (keys fields) key := by
  induction fields with
  | nil => rfl
  | cons field rest ih =>
    simp only [set]
    split
    · rename_i same
      simp [keys, addNew, same]
    · rename_i other
      have listed : keys (field :: rest) = field.1 :: keys rest := rfl
      have apart : key ≠ field.1 := fun same => other same.symm
      rw [listed]
      simp only [addNew, List.contains_cons, beq_eq_false_iff_ne.mpr apart, Bool.false_or] at ih ⊢
      rw [keys, List.map_cons, ← keys, ih]
      split <;> rfl

theorem getAppend (key : String) (fields more : Fields α) :
    get? key (fields ++ more) = (get? key fields).or (get? key more) := by
  induction fields with
  | nil => rfl
  | cons field rest ih =>
    simp only [List.cons_append, get?]
    split
    · rfl
    · exact ih

theorem getSet (key name : String) (value : α) (fields : Fields α) :
    get? key (set name value fields) = if name = key then some value else get? key fields := by
  induction fields with
  | nil => rfl
  | cons field rest ih =>
    simp only [set]
    split
    · rename_i same
      simp only [get?, same]
      split <;> rfl
    · rename_i other
      simp only [get?, ih]
      by_cases here : field.1 = key
      · have apart : name ≠ key := fun same => other (here.trans same.symm)
        simp [here, apart]
      · simp [here]

theorem getErase {key gone : String} (other : key ≠ gone) (fields : Fields α) :
    get? key (erase gone fields) = get? key fields := by
  induction fields with
  | nil => rfl
  | cons field rest ih =>
    obtain ⟨name, value⟩ := field
    simp only [erase, ne_eq, decide_not] at ih ⊢
    by_cases same : name = gone
    · have differ : gone ≠ key := other.symm
      simp [same, get?, ih, differ]
    · simp [same, get?, ih]

theorem getErased (gone : String) (fields : Fields α) : get? gone (erase gone fields) = none := by
  refine Option.not_isSome_iff_eq_none.mp fun is => ?_
  obtain ⟨field, among, same⟩ := List.mem_map.mp (getSome.mp is)
  have kept := (List.mem_filter.mp among).2
  simp [same] at kept

end Fields

section
variable {α : Type} [BEq α] [LawfulBEq α]

theorem addNewMember {members : List α} {a b : α} :
    b ∈ addNew members a ↔ b ∈ members ∨ b = a := by
  unfold addNew
  split
  · rename_i held
    exact ⟨.inl, fun either => either.elim id fun same => by simpa [same] using held⟩
  · simp

theorem addAllMember {added members : List α} {b : α} :
    b ∈ added.foldl addNew members ↔ b ∈ members ∨ b ∈ added := by
  induction added generalizing members with
  | nil => simp
  | cons a rest ih => simp only [List.foldl_cons, ih, addNewMember, List.mem_cons, or_assoc]

theorem addNewNodup {members : List α} (distinct : members.Nodup) (a : α) :
    (addNew members a).Nodup := by
  unfold addNew
  split
  · exact distinct
  · rename_i apart
    refine List.nodup_append.mpr ⟨distinct, by simp, fun b held c new same => apart ?_⟩
    rw [List.mem_singleton.mp new] at same
    simpa [same] using held

theorem addAllNodup (added : List α) {members : List α} (distinct : members.Nodup) :
    (added.foldl addNew members).Nodup := by
  induction added generalizing members with
  | nil => exact distinct
  | cons a rest ih => exact ih (addNewNodup distinct a)

theorem addAllNew {added : List α} (distinct : added.Nodup) {members : List α}
    (apart : ∀ a ∈ added, a ∉ members) : added.foldl addNew members = members ++ added := by
  induction added generalizing members with
  | nil => simp
  | cons a rest ih =>
    obtain ⟨new, others⟩ := List.nodup_cons.mp distinct
    have ⟨first, later⟩ := List.forall_mem_cons.mp apart
    have appended : addNew members a = members ++ [a] := by simp [addNew, first]
    have still : ∀ b ∈ rest, b ∉ members ++ [a] := by
      intro b among held
      rcases List.mem_append.mp held with early | same
      · exact later b among early
      · exact new (List.mem_singleton.mp same ▸ among)
    rw [List.foldl_cons, appended, ih others still]
    simp

end

namespace Fields
variable {α : Type}

theorem setAllKeys (pairs : List (String × α)) {fields : Fields α} (distinct : (keys fields).Nodup) :
    (keys (pairs.foldl (fun fields p => set p.1 p.2 fields) fields)).Nodup := by
  induction pairs generalizing fields with
  | nil => exact distinct
  | cons p rest ih => exact ih (setKeys ▸ addNewNodup distinct p.1)

theorem getSetAll (key : String) (pairs : List (String × α)) (fields : Fields α) :
    get? key (pairs.foldl (fun fields p => set p.1 p.2 fields) fields) =
      (get? key pairs.reverse).or (get? key fields) := by
  induction pairs generalizing fields with
  | nil => rfl
  | cons p rest ih =>
    have last : get? key [p] = if p.1 = key then some p.2 else none := rfl
    rw [List.foldl_cons, ih, getSet, List.reverse_cons, getAppend, last]
    split <;> simp

theorem setAllMember {pairs : List (String × α)} {fields : Fields α} {m}
    (member : m ∈ pairs.foldl (fun fields p => set p.1 p.2 fields) fields) :
    m ∈ fields ∨ m ∈ pairs := by
  induction pairs generalizing fields with
  | nil => exact .inl member
  | cons p rest ih =>
    rcases ih member with held | later
    · rcases setMember held with new | old
      · exact .inr (List.mem_cons.mpr (.inl new))
      · exact .inl old
    · exact .inr (List.mem_cons_of_mem _ later)

theorem ofListDistinct (pairs : List (String × α)) : (keys (ofList pairs)).Nodup :=
  setAllKeys pairs List.nodup_nil

theorem ofListMember {pairs : List (String × α)} {m} (member : m ∈ ofList pairs) : m ∈ pairs :=
  (setAllMember member).resolve_left List.not_mem_nil

end Fields
end OpenApi
