import Csdl.Proofs.Registry.Inheritance

/-! The fields of a structure that extends another one. What the structure leaves out is left out
of all that its base has, whatever the bases of that are, as long as they do not lead back. -/
namespace Csdl.Registry

/-- Leaving out more names leaves them out of what is left. -/
theorem chainFields_eq_filter {hidden more all : List String} (chain : List Structure)
    (h : ∀ name, name ∈ all ↔ name ∈ hidden ∨ name ∈ more) :
    chainFields all chain = (chainFields hidden chain).filter fun field => field.name ∉ more := by
  induction chain generalizing hidden all with
  | nil => rfl
  | cons s farther ih =>
      have hFarther : ∀ name, name ∈ all ++ s.restricted ↔
          name ∈ hidden ++ s.restricted ∨ name ∈ more := by
        intro name
        rw [List.mem_append, List.mem_append, h]
        tauto
      have hOwn : s.fields.filter (fun field => !all.contains field.name) =
          (s.fields.filter fun field => !hidden.contains field.name).filter
            fun field => field.name ∉ more := by
        rw [List.filter_filter]
        refine List.filter_congr fun field _ => ?_
        simp [h, Bool.and_comm]
      rw [chainFields, chainFields, ih hFarther, hOwn, List.filter_append]

section Walk

variable {r : Registry} {id base : TypeId}

/-- A walk that does not come to a place goes on alike if that place has been seen. -/
theorem chainFrom_of_not_mem {seen seen' : List TypeId} {limit : Nat} {start : TypeId}
    (hSeen : ∀ place, place ∈ seen' ↔ place = id ∨ place ∈ seen)
    (h : id ∉ (r.chainFrom seen limit start).map (·.1)) :
    r.chainFrom seen' limit start = r.chainFrom seen limit start := by
  induction limit generalizing seen seen' start with
  | zero => rfl
  | succ limit ih =>
      rw [chainFrom, chainFrom] at *
      by_cases hStart : start ∈ seen
      · rw [if_pos hStart, if_pos ((hSeen start).2 (.inr hStart))]
      · rw [if_neg hStart] at h ⊢
        cases hStructure : r.structure? start with
        | none => simp
        | some s =>
            simp only [hStructure, List.map_cons, List.mem_cons, not_or] at h
            obtain ⟨hNe, hRest⟩ := h
            have hNew : start ∉ seen' := fun hMem =>
              ((hSeen start).1 hMem).elim (fun hSame => hNe hSame.symm) hStart
            rw [if_neg hNew]
            cases hBase : s.base with
            | none => simp only [hBase]
            | some next =>
                rw [hBase] at hRest
                have hNext : ∀ place, place ∈ start :: seen' ↔
                    place = id ∨ place ∈ start :: seen := by
                  intro place
                  rw [List.mem_cons, List.mem_cons, hSeen]
                  tauto
                simp only [hBase, ih hNext hRest]

/-- The chain of a structure goes on with that of its base, unless it leads back. -/
theorem baseChain_eq_cons {s : Structure} (hStructure : r.structure? id = some s)
    (hBase : s.base = some base) (hNew : id ∉ (r.baseChain base).map (·.1)) :
    r.baseChain id = (id, s) :: r.baseChain base := by
  have hLimit : (r.unseen []).card ≤ r.size := by simp [unseen]
  have hChain : r.chainFrom [id] r.size base = r.baseChain base :=
    chainFrom_of_not_mem (fun _ => List.mem_cons) hNew
  rw [baseChain, ← chainFrom_succ r [] r.size id hLimit, chainFrom, if_neg List.not_mem_nil,
    hStructure]
  simp only [hBase, hChain]

/-- A structure has the fields of its base that it does not leave out, and its own behind them. -/
theorem allFields_eq_append {s : Structure} (hStructure : r.structure? id = some s)
    (hBase : s.base = some base) (hNew : id ∉ (r.baseChain base).map (·.1)) :
    r.allFields id =
      (r.allFields base).filter (fun field => field.name ∉ s.restricted) ++ s.fields := by
  have hHidden : ∀ name, name ∈ [] ++ s.restricted ↔ name ∈ [] ∨ name ∈ s.restricted := by simp
  rw [allFields, baseChain_eq_cons hStructure hBase hNew, List.map_cons, chainFields,
    chainFields_eq_filter _ hHidden]
  simp [allFields]

/-- A structure that adds no primary key to its base has the one of the base. -/
theorem primaryKey?_of_allFields {fields : List Field}
    (hAll : r.allFields id = r.allFields base ++ fields)
    (hUnmarked : ∀ field ∈ fields, field.primaryKey = false) :
    r.primaryKey? id = r.primaryKey? base := by
  have hNone : fields.find? (·.primaryKey) = none :=
    List.find?_eq_none.2 fun field hField => by simp [hUnmarked field hField]
  rw [primaryKey?, hAll, List.find?_append, hNone, Option.or_none, primaryKey?]

end Walk

end Csdl.Registry
