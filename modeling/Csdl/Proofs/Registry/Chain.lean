import Csdl.Proofs.Registry.Soundness
import Mathlib.Data.List.Chain

/-! Chains of bases without their limit. There is one way from a structure along its bases that
comes to no place twice and stops only where it cannot go on, and the limited walk finds it. Along
structures that leave nothing out, the primary key is the one that is declared farthest away. -/
namespace Csdl.Registry

/-- The base of the structure at a place, if it has one. -/
def base? (r : Registry) (id : TypeId) : Option TypeId :=
  (r.structure? id).bind (·.base)

/-- The first field marked as primary key in the structure at a place. -/
def markedField? (r : Registry) (id : TypeId) : Option Field :=
  (r.structure? id).bind (·.fields.find? (·.primaryKey))

/-- A list of structures that starts at a place and goes on from each to its base. No place is in it
twice, and it ends only before a place that is in it already or is not a structure. -/
structure IsBaseChain (r : Registry) (id : TypeId) (chain : List TypeId) : Prop where
  head_eq : chain.head? = some id
  linked : chain.IsChain fun place next => r.base? place = some next
  structured : ∀ place ∈ chain, (r.structure? place).isSome
  nodup : chain.Nodup
  maximal : ∀ last base, chain.getLast? = some last → r.base? last = some base →
    base ∈ chain ∨ r.structure? base = none

/-- Of two ways from one start that always take the only step there is, one goes on where the other
ends. -/
theorem isPrefix_or_isPrefix {α : Type} {next : α → Option α} {xs ys : List α}
    (hHead : xs.head? = ys.head?) (hxs : xs.IsChain fun x y => next x = some y)
    (hys : ys.IsChain fun x y => next x = some y) : xs <+: ys ∨ ys <+: xs := by
  induction xs generalizing ys with
  | nil => exact .inl (List.nil_prefix)
  | cons x xs ih =>
      cases ys with
      | nil => exact .inr (List.nil_prefix)
      | cons y ys =>
          obtain rfl : x = y := Option.some.inj hHead
          have hNext : xs = [] ∨ ys = [] ∨ xs.head? = ys.head? := by
            cases xs with
            | nil => exact .inl rfl
            | cons x' xs =>
                cases ys with
                | nil => exact .inr (.inl rfl)
                | cons y' ys =>
                    rw [List.isChain_cons_cons] at hxs hys
                    exact .inr (.inr (hxs.1.symm.trans hys.1))
          rcases hNext with rfl | rfl | hSame
          · exact .inl (List.cons_prefix_cons.2 ⟨rfl, List.nil_prefix⟩)
          · exact .inr (List.cons_prefix_cons.2 ⟨rfl, List.nil_prefix⟩)
          · have hTails := ih hSame hxs.tail hys.tail
            rwa [List.cons_prefix_cons, List.cons_prefix_cons, and_iff_right rfl, and_iff_right rfl]

namespace IsBaseChain

variable {r : Registry} {id : TypeId} {chain chain' : List TypeId}

/-- A chain does not go on where another one has ended. -/
theorem eq_of_prefix (h : r.IsBaseChain id chain) (h' : r.IsBaseChain id chain')
    (hPrefix : chain <+: chain') : chain = chain' := by
  obtain ⟨rest, rfl⟩ := hPrefix
  cases rest with
  | nil => rw [List.append_nil]
  | cons base rest =>
      exfalso
      obtain ⟨last, hLast⟩ : ∃ last, chain.getLast? = some last := by
        cases hLast : chain.getLast? with
        | none =>
            rw [List.getLast?_eq_none_iff.1 hLast] at h
            cases h.head_eq
        | some last => exact ⟨last, rfl⟩
      have hBase : r.base? last = some base :=
        (List.isChain_append.1 h'.linked).2.2 last hLast base rfl
      rcases h.maximal last base hLast hBase with hMem | hNone
      · exact (List.nodup_append.1 h'.nodup).2.2 base hMem base List.mem_cons_self rfl
      · have hSome := h'.structured base (List.mem_append_right _ List.mem_cons_self)
        rw [hNone] at hSome
        cases hSome

theorem unique (h : r.IsBaseChain id chain) (h' : r.IsBaseChain id chain') : chain = chain' := by
  rcases isPrefix_or_isPrefix (h.head_eq.trans h'.head_eq.symm) h.linked h'.linked with
    hPrefix | hPrefix
  · exact h.eq_of_prefix h' hPrefix
  · exact (h'.eq_of_prefix h hPrefix).symm

end IsBaseChain

section Walk

variable {r : Registry} {seen : List TypeId} {limit : Nat} {id : TypeId}

/-- What one step of a walk does: it ends, or takes a structure and goes on with its base. -/
theorem chainFrom_cases (r : Registry) (seen : List TypeId) (limit : Nat) (id : TypeId) :
    ((id ∈ seen ∨ r.structure? id = none) ∧ r.chainFrom seen (limit + 1) id = []) ∨
    ∃ s rest, id ∉ seen ∧ r.structure? id = some s ∧
      r.chainFrom seen (limit + 1) id = (id, s) :: rest ∧
      ((r.base? id = none ∧ rest = []) ∨
        ∃ base, r.base? id = some base ∧ rest = r.chainFrom (id :: seen) limit base) := by
  rw [chainFrom]
  by_cases hSeen : id ∈ seen
  · exact .inl ⟨.inl hSeen, if_pos hSeen⟩
  · rw [if_neg hSeen]
    cases hStructure : r.structure? id with
    | none => exact .inl ⟨.inr rfl, rfl⟩
    | some s =>
        have hBase : r.base? id = s.base := congrArg (·.bind (·.base)) hStructure
        refine .inr ⟨s, _, hSeen, rfl, rfl, ?_⟩
        rw [hBase]
        cases s.base with
        | none => exact .inl ⟨rfl, rfl⟩
        | some base => exact .inr ⟨base, rfl, rfl⟩

/-- A chain stays outside of the places that have been seen. -/
theorem not_mem_of_mem_chainFrom {member : TypeId × Structure}
    (h : member ∈ r.chainFrom seen limit id) : member.1 ∉ seen := by
  induction limit generalizing seen id with
  | zero => cases h
  | succ limit ih =>
      rcases r.chainFrom_cases seen limit id with ⟨_, hNil⟩ | ⟨s, rest, hNew, _, hCons, hRest⟩
      · rw [hNil] at h
        cases h
      · rw [hCons] at h
        rcases List.mem_cons.1 h with rfl | hFarther
        · exact hNew
        · rcases hRest with ⟨_, rfl⟩ | ⟨base, _, rfl⟩
          · cases hFarther
          · exact fun hSeen => ih hFarther (List.mem_cons_of_mem _ hSeen)

/-- A walk stays where bases stay. -/
theorem closed_of_mem_chainFrom {P : TypeId → Prop}
    (hBases : ∀ place base, P place → r.base? place = some base → P base) (hStart : P id)
    {member : TypeId × Structure} (h : member ∈ r.chainFrom seen limit id) : P member.1 := by
  induction limit generalizing seen id with
  | zero => cases h
  | succ limit ih =>
      rcases r.chainFrom_cases seen limit id with ⟨_, hNil⟩ | ⟨s, rest, _, _, hCons, hRest⟩
      · rw [hNil] at h
        cases h
      · rw [hCons] at h
        rcases List.mem_cons.1 h with rfl | hFarther
        · exact hStart
        · rcases hRest with ⟨_, rfl⟩ | ⟨base, hBase, rfl⟩
          · cases hFarther
          · exact ih (hBases id base hStart hBase) hFarther

/-- A chain goes through no place twice. -/
theorem nodup_chainFrom (r : Registry) (seen : List TypeId) (limit : Nat) (id : TypeId) :
    ((r.chainFrom seen limit id).map (·.1)).Nodup := by
  induction limit generalizing seen id with
  | zero => exact List.nodup_nil
  | succ limit ih =>
      rcases r.chainFrom_cases seen limit id with ⟨_, hNil⟩ | ⟨s, rest, _, _, hCons, hRest⟩
      · rw [hNil]
        exact List.nodup_nil
      · rw [hCons, List.map_cons, List.nodup_cons]
        rcases hRest with ⟨_, rfl⟩ | ⟨base, _, rfl⟩
        · exact ⟨List.not_mem_nil, List.nodup_nil⟩
        · refine ⟨fun hMem => ?_, ih _ _⟩
          obtain ⟨member, hMember, hSame⟩ := List.mem_map.1 hMem
          exact not_mem_of_mem_chainFrom hMember (hSame ▸ List.mem_cons_self)

/-- A chain that is not empty begins at the place that it is asked from. -/
theorem head_chainFrom {first : TypeId}
    (h : ((r.chainFrom seen limit id).map (·.1)).head? = some first) : first = id := by
  cases limit with
  | zero => cases h
  | succ limit =>
      rcases r.chainFrom_cases seen limit id with ⟨_, hNil⟩ | ⟨s, rest, _, _, hCons, _⟩
      · rw [hNil] at h
        cases h
      · rw [hCons] at h
        exact (Option.some.inj h).symm

/-- Each structure of a chain has the next one as its base. -/
theorem isChain_chainFrom (r : Registry) (seen : List TypeId) (limit : Nat) (id : TypeId) :
    ((r.chainFrom seen limit id).map (·.1)).IsChain
      fun place next => r.base? place = some next := by
  induction limit generalizing seen id with
  | zero => exact .nil
  | succ limit ih =>
      rcases r.chainFrom_cases seen limit id with ⟨_, hNil⟩ | ⟨s, rest, _, _, hCons, hRest⟩
      · rw [hNil]
        exact .nil
      · rw [hCons]
        rcases hRest with ⟨_, rfl⟩ | ⟨base, hBase, rfl⟩
        · exact List.isChain_singleton id
        · rw [List.map_cons, List.isChain_cons]
          refine ⟨fun next hNext => ?_, ih _ _⟩
          rw [head_chainFrom hNext]
          exact hBase

theorem chainFrom_eq_nil (hLimit : (r.unseen seen).card ≤ limit)
    (h : r.chainFrom seen limit id = []) : id ∈ seen ∨ r.structure? id = none := by
  rw [← chainFrom_succ r seen limit id hLimit] at h
  rcases r.chainFrom_cases seen limit id with ⟨hEnd, _⟩ | ⟨s, rest, _, _, hCons, _⟩
  · exact hEnd
  · rw [hCons] at h
    cases h

/-- With a sufficient limit a walk ends only before what it has seen or what is no structure. -/
theorem maximal_chainFrom (hLimit : (r.unseen seen).card ≤ limit) {last base : TypeId}
    (hLast : ((r.chainFrom seen limit id).map (·.1)).getLast? = some last)
    (hBase : r.base? last = some base) :
    base ∈ seen ∨ base ∈ (r.chainFrom seen limit id).map (·.1) ∨ r.structure? base = none := by
  induction limit generalizing seen id with
  | zero => cases hLast
  | succ limit ih =>
      rcases r.chainFrom_cases seen limit id with
        ⟨_, hNil⟩ | ⟨s, rest, hNew, hStructure, hCons, hRest⟩
      · rw [hNil] at hLast
        cases hLast
      · rw [hCons, List.map_cons] at hLast ⊢
        have hLess := card_unseen_cons_lt (lt_size_of_get? (structure?_eq_some.1 hStructure)) hNew
        have hCovered : (r.unseen (id :: seen)).card ≤ limit := by omega
        -- what the rest of the walk has seen is `id`, which is on the chain, and `seen`
        have hSeen : ∀ next, next ∈ id :: seen ∨ next ∈ rest.map (·.1) ∨ r.structure? next = none →
            next ∈ seen ∨ next ∈ id :: rest.map (·.1) ∨ r.structure? next = none := by
          simp only [List.mem_cons]
          tauto
        apply hSeen
        rcases hRest with ⟨hNone, rfl⟩ | ⟨next, hNext, rfl⟩
        · obtain rfl : id = last := Option.some.inj hLast
          rw [hNone] at hBase
          cases hBase
        · cases hFarther : r.chainFrom (id :: seen) limit next with
          | nil =>
              rw [hFarther] at hLast
              obtain rfl : id = last := Option.some.inj hLast
              obtain rfl := Option.some.inj (hNext.symm.trans hBase)
              exact (chainFrom_eq_nil hCovered hFarther).imp_right .inr
          | cons member farther =>
              rw [← hFarther]
              refine ih hCovered ?_
              rw [hFarther] at hLast ⊢
              exact hLast

end Walk

/-- The chain of a structure is the one that there is. -/
theorem isBaseChain_iff {r : Registry} {id : TypeId} {s : Structure}
    (hStructure : r.structure? id = some s) {chain : List TypeId} :
    r.IsBaseChain id chain ↔ chain = (r.baseChain id).map (·.1) := by
  have hLimit : (r.unseen []).card ≤ r.size := by simp [unseen]
  have hStart : ((r.baseChain id).map (·.1)).head? = some id := by
    rw [baseChain, ← chainFrom_succ r [] r.size id hLimit]
    rcases r.chainFrom_cases [] r.size id with ⟨hEnd, _⟩ | ⟨_, _, _, _, hCons, _⟩
    · rcases hEnd with hMem | hNone
      · cases hMem
      · rw [hStructure] at hNone
        cases hNone
    · rw [hCons]
      rfl
  have hChain : r.IsBaseChain id ((r.baseChain id).map (·.1)) := by
    refine ⟨hStart, isChain_chainFrom .., fun place hMem => ?_, nodup_chainFrom ..,
      fun last base hLast hBase => ?_⟩
    · obtain ⟨member, hMember, rfl⟩ := List.mem_map.1 hMem
      rw [structure?_of_mem_chainFrom hMember]
      rfl
    · exact (maximal_chainFrom hLimit hLast hBase).resolve_left List.not_mem_nil
  constructor
  · intro h
    exact h.unique hChain
  · rintro rfl
    exact hChain

/-- Where nothing is left out, the fields of a chain are those of its structures, the farthest
first. -/
theorem chainFields_of_unrestricted {chain : List Structure}
    (h : ∀ s ∈ chain, s.restricted = []) :
    chainFields [] chain = chain.reverse.flatMap (·.fields) := by
  induction chain with
  | nil => rfl
  | cons s farther ih =>
      have hFarther := ih fun t ht => h t (List.mem_cons_of_mem _ ht)
      simp [chainFields, h s List.mem_cons_self, hFarther]

/-- Where nothing is left out, the primary key is the marked field of the farthest structure that
has one. -/
theorem primaryKey?_of_unrestricted {r : Registry} {id : TypeId}
    (h : ∀ member ∈ r.baseChain id, member.2.restricted = []) :
    r.primaryKey? id = ((r.baseChain id).map (·.1)).reverse.findSome? r.markedField? := by
  have hStructures : ∀ s ∈ (r.baseChain id).map (·.2), s.restricted = [] := by
    intro s hMem
    obtain ⟨member, hMember, rfl⟩ := List.mem_map.1 hMem
    exact h member hMember
  have hMarked : ∀ member ∈ (r.baseChain id).reverse,
      member.2.fields.find? (·.primaryKey) = r.markedField? member.1 := by
    intro member hMember
    rw [markedField?, structure?_of_mem_chainFrom (List.mem_reverse.1 hMember)]
    rfl
  rw [primaryKey?, allFields, chainFields_of_unrestricted hStructures, List.find?_flatMap,
    ← List.map_reverse, ← List.map_reverse, List.findSome?_map, List.findSome?_map,
    ← List.head?_filterMap, ← List.head?_filterMap]
  exact congrArg List.head? (List.filterMap_congr hMarked)

end Csdl.Registry
