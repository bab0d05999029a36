import Csdl.Types.Inheritance
import Csdl.Proofs.Registry.Growth
import Mathlib.Data.Finset.Card
import Mathlib.Data.Finset.Range

/-! Chains of bases. A chain never needs more steps than there are places it has not seen, so its
limit does not show, and a chain stays what it is while types are added behind it. Of the fields on
a chain only those marked primary, and what is left out, decide the primary key. -/
namespace Csdl

/-- The part of a structure that primary keys depend on. -/
def Structure.keyPart (s : Structure) : Option TypeId × List String × List Field :=
  (s.base, s.restricted, s.fields.filter (·.primaryKey))

namespace Registry

/-- The places of a registry that a chain has not seen yet. -/
def unseen (r : Registry) (seen : List TypeId) : Finset Nat :=
  (Finset.range r.size).filter fun i => TypeId.mk i ∉ seen

/-- Each new place leaves fewer places that have not been seen, which lets a chain end. -/
theorem card_unseen_cons_lt {r : Registry} {seen : List TypeId} {id : TypeId}
    (hSize : id.index < r.size) (hNew : id ∉ seen) :
    (r.unseen (id :: seen)).card < (r.unseen seen).card := by
  refine Finset.card_lt_card ⟨fun i hi => ?_, fun hSubset => ?_⟩
  · simp only [unseen, Finset.mem_filter, List.mem_cons, not_or] at hi ⊢
    exact ⟨hi.1, hi.2.2⟩
  · have hHere : id.index ∈ r.unseen seen := by simp [unseen, hSize, hNew]
    have hGone := hSubset hHere
    simp [unseen] at hGone

/-- A limit that covers the unseen places is as good as a larger one. -/
theorem chainFrom_succ (r : Registry) (seen : List TypeId) (limit : Nat) (id : TypeId)
    (h : (r.unseen seen).card ≤ limit) :
    r.chainFrom seen (limit + 1) id = r.chainFrom seen limit id := by
  induction limit generalizing seen id with
  | zero =>
      simp only [chainFrom]
      split
      · rfl
      · next hNew =>
          cases hStructure : r.structure? id with
          | none => rfl
          | some s =>
              have hSize := lt_size_of_get? (structure?_eq_some.1 hStructure)
              have := card_unseen_cons_lt hSize hNew
              omega
  | succ limit ih =>
      rw [chainFrom, chainFrom]
      split
      · rfl
      · next hNew =>
          cases hStructure : r.structure? id with
          | none => rfl
          | some s =>
              have hSize := lt_size_of_get? (structure?_eq_some.1 hStructure)
              have hLess := card_unseen_cons_lt hSize hNew
              cases hBase : s.base with
              | none => simp [hBase]
              | some base => simp only [hBase, ih (id :: seen) base (by omega)]

theorem chainFrom_of_size_le (r : Registry) (id : TypeId) {limit : Nat} (h : r.size ≤ limit) :
    r.chainFrom [] limit id = r.baseChain id := by
  induction limit, h using Nat.le_induction with
  | base => rfl
  | succ limit hLimit ih =>
      rw [chainFrom_succ r [] limit id, ih]
      simpa [unseen] using hLimit

/-- Only the key parts of a chain decide which primary keys are inherited. -/
theorem filter_chainFields_eq {chain chain' : List Structure} (hidden : List String)
    (h : chain'.map Structure.keyPart = chain.map Structure.keyPart) :
    (chainFields hidden chain').filter (·.primaryKey) =
      (chainFields hidden chain).filter (·.primaryKey) := by
  induction chain generalizing chain' hidden with
  | nil =>
      rw [List.map_eq_nil_iff.1 h]
  | cons s farther ih =>
      obtain ⟨s', farther', rfl, hHead, hTail⟩ := List.map_eq_cons_iff.1 h
      simp only [Structure.keyPart, Prod.mk.injEq] at hHead
      obtain ⟨_, hRestricted, hFields⟩ := hHead
      have hOwn : ∀ t : Structure,
          (t.fields.filter fun field => !hidden.contains field.name).filter (·.primaryKey) =
            (t.fields.filter (·.primaryKey)).filter fun field => !hidden.contains field.name :=
        fun t => by simp only [List.filter_filter, Bool.and_comm]
      simp only [chainFields, List.filter_append, hOwn, hFields, hRestricted, ih _ hTail]

section Agreement

variable {r r' : Registry}

/-- Chains that start among the old types agree, if the old types do. -/
theorem map_chainFrom_eq
    (hBases : ∀ id s base, r.structure? id = some s → s.base = some base → base.index < r.size)
    (hParts : ∀ id, id.index < r.size →
      (r'.structure? id).map Structure.keyPart = (r.structure? id).map Structure.keyPart)
    (limit : Nat) (seen : List TypeId) {id : TypeId} (hId : id.index < r.size) :
    (r'.chainFrom seen limit id).map (·.2.keyPart) =
      (r.chainFrom seen limit id).map (·.2.keyPart) := by
  induction limit generalizing seen id with
  | zero => rfl
  | succ limit ih =>
      rw [chainFrom, chainFrom]
      split
      · rfl
      · have hHere := hParts id hId
        cases hOld : r.structure? id with
        | none =>
            rw [hOld, Option.map_none, Option.map_eq_none_iff] at hHere
            rw [hHere]
        | some s =>
            rw [hOld, Option.map_some] at hHere
            obtain ⟨s', hNew, hPart⟩ := Option.map_eq_some_iff.1 hHere
            have hBase : s'.base = s.base := congrArg Prod.fst hPart
            rw [hNew]
            simp only [List.map_cons, hPart, hBase]
            cases hNext : s.base with
            | none => rfl
            | some base => rw [ih (id :: seen) (hBases id s base hOld hNext)]

/-- Adding types, and fields that are not primary, changes no primary key. -/
theorem primaryKey?_eq_of_keyPart (hSize : r.size ≤ r'.size)
    (hBases : ∀ id s base, r.structure? id = some s → s.base = some base → base.index < r.size)
    (hParts : ∀ id, id.index < r.size →
      (r'.structure? id).map Structure.keyPart = (r.structure? id).map Structure.keyPart)
    {id : TypeId} (hId : id.index < r.size) : r'.primaryKey? id = r.primaryKey? id := by
  have hChain : ((r'.baseChain id).map (·.2)).map Structure.keyPart =
      ((r.baseChain id).map (·.2)).map Structure.keyPart := by
    rw [← chainFrom_of_size_le r id hSize, baseChain, List.map_map, List.map_map]
    exact map_chainFrom_eq hBases hParts r'.size [] hId
  have hFields := filter_chainFields_eq [] hChain
  simp only [primaryKey?, allFields, ← List.head?_filter, hFields]

end Agreement

end Registry

end Csdl
