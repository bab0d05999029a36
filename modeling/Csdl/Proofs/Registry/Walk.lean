import Csdl.Proofs.Registry.Chain

/-! Walks along bases without a limit. A walk is a relation with one rule for each way in which a
round of it goes, so whatever it answers is the answer of a walk that ends. The limited walks answer
what the unlimited ones do, whatever the bases are. -/
namespace Csdl.Registry

/-- The walk that gathers structures. It knows the places that it has come from, and the place that
it has come to, if there is one. -/
inductive Gathers (r : Registry) :
    List TypeId → Option TypeId → List (TypeId × Structure) → Prop where
  | ended (seen : List TypeId) : Gathers r seen none []
  | repeated {seen : List TypeId} {id : TypeId} (hSeen : id ∈ seen) : Gathers r seen (some id) []
  | unstructured {seen : List TypeId} {id : TypeId} (hNew : id ∉ seen)
      (hNone : r.structure? id = none) : Gathers r seen (some id) []
  | next {seen : List TypeId} {id : TypeId} {s : Structure} {chain : List (TypeId × Structure)}
      (hNew : id ∉ seen) (hStructure : r.structure? id = some s)
      (rest : Gathers r (id :: seen) s.base chain) : Gathers r seen (some id) ((id, s) :: chain)

/-- The walk that looks for a place. It looks at a place before it asks whether it has been there,
and a place without a structure has no base. -/
inductive Searches (r : Registry) (ancestor : TypeId) :
    List TypeId → Option TypeId → Bool → Prop where
  | ended (seen : List TypeId) : Searches r ancestor seen none false
  | found (seen : List TypeId) : Searches r ancestor seen (some ancestor) true
  | repeated {seen : List TypeId} {id : TypeId} (hOther : id ≠ ancestor) (hSeen : id ∈ seen) :
      Searches r ancestor seen (some id) false
  | next {seen : List TypeId} {id : TypeId} {answer : Bool} (hOther : id ≠ ancestor)
      (hNew : id ∉ seen) (rest : Searches r ancestor (id :: seen) (r.base? id) answer) :
      Searches r ancestor seen (some id) answer

variable {r : Registry} {seen : List TypeId} {limit : Nat} {id ancestor : TypeId}

/-- A walk gathers one chain only. -/
theorem Gathers.unique {current : Option TypeId} {chain chain' : List (TypeId × Structure)}
    (h : r.Gathers seen current chain) (h' : r.Gathers seen current chain') : chain' = chain := by
  induction h generalizing chain' with
  | ended seen =>
      cases h'
      rfl
  | repeated hSeen =>
      cases h' with
      | repeated _ => rfl
      | unstructured hNew _ => exact absurd hSeen hNew
      | next hNew _ _ => exact absurd hSeen hNew
  | unstructured hNew hNone =>
      cases h' with
      | repeated hSeen => exact absurd hSeen hNew
      | unstructured _ _ => rfl
      | next _ hStructure _ => cases hNone.symm.trans hStructure
  | next hNew hStructure rest ih =>
      cases h' with
      | repeated hSeen => exact absurd hSeen hNew
      | unstructured _ hNone => cases hStructure.symm.trans hNone
      | next _ hSame rest' =>
          obtain rfl := Option.some.inj (hStructure.symm.trans hSame)
          rw [ih rest']

/-- A walk gives one answer only. -/
theorem Searches.unique {current : Option TypeId} {answer answer' : Bool}
    (h : r.Searches ancestor seen current answer) (h' : r.Searches ancestor seen current answer') :
    answer' = answer := by
  induction h with
  | ended seen =>
      cases h'
      rfl
  | found seen =>
      cases h' with
      | found _ => rfl
      | repeated hOther _ => exact absurd rfl hOther
      | next hOther _ _ => exact absurd rfl hOther
  | repeated hOther hSeen =>
      cases h' with
      | found _ => exact absurd rfl hOther
      | repeated _ _ => rfl
      | next _ hNew _ => exact absurd hSeen hNew
  | next hOther hNew rest ih =>
      cases h' with
      | found _ => exact absurd rfl hOther
      | repeated _ hSeen => exact absurd hSeen hNew
      | next _ _ rest' => exact ih rest'

/-- Where all places have been seen, a place is a repeated one or holds no structure. -/
theorem mem_or_structure?_eq_none (hLimit : (r.unseen seen).card ≤ 0) (id : TypeId) :
    id ∈ seen ∨ r.structure? id = none := by
  refine or_iff_not_imp_left.2 fun hNew => ?_
  cases hStructure : r.structure? id with
  | none => rfl
  | some s =>
      have hSize := lt_size_of_get? (structure?_eq_some.1 hStructure)
      have hLess := card_unseen_cons_lt hSize hNew
      omega

theorem card_unseen_cons_le {s : Structure} (hNew : id ∉ seen)
    (hStructure : r.structure? id = some s) (hLimit : (r.unseen seen).card ≤ limit + 1) :
    (r.unseen (id :: seen)).card ≤ limit := by
  have hSize := lt_size_of_get? (structure?_eq_some.1 hStructure)
  have hLess := card_unseen_cons_lt hSize hNew
  omega

/-- With a sufficient limit, a walk gathers what the limited one does. -/
theorem gathers_chainFrom (hLimit : (r.unseen seen).card ≤ limit) (id : TypeId) :
    r.Gathers seen (some id) (r.chainFrom seen limit id) := by
  induction limit generalizing seen id with
  | zero =>
      rw [chainFrom]
      rcases mem_or_structure?_eq_none hLimit id with hSeen | hNone
      · exact .repeated hSeen
      · by_cases hSeen : id ∈ seen
        · exact .repeated hSeen
        · exact .unstructured hSeen hNone
  | succ limit ih =>
      rw [chainFrom]
      split
      · next hSeen => exact .repeated hSeen
      · next hNew =>
          cases hStructure : r.structure? id with
          | none => exact .unstructured hNew hStructure
          | some s =>
              refine .next hNew hStructure ?_
              cases s.base with
              | none => exact .ended _
              | some base => exact ih (card_unseen_cons_le hNew hStructure hLimit) base

/-- With a sufficient limit, a walk finds what the limited one does. -/
theorem searches_leadsTo (hLimit : (r.unseen seen).card ≤ limit) (id : TypeId) :
    r.Searches ancestor seen (some id) (r.leadsTo ancestor seen limit id) := by
  induction limit generalizing seen id with
  | zero =>
      rw [leadsTo]
      split
      · next hEq => exact hEq ▸ .found seen
      · next hOther =>
          by_cases hSeen : id ∈ seen
          · exact .repeated hOther hSeen
          · have hBase : r.base? id = none := by
              rw [base?, (mem_or_structure?_eq_none hLimit id).resolve_left hSeen]
              rfl
            exact .next hOther hSeen (hBase ▸ .ended _)
  | succ limit ih =>
      rw [leadsTo]
      split
      · next hEq => exact hEq ▸ .found seen
      · next hOther =>
          split
          · next hSeen => exact .repeated hOther hSeen
          · next hNew =>
              refine .next hOther hNew ?_
              rw [← base?]
              cases hBase : r.base? id with
              | none => exact .ended _
              | some base =>
                  obtain ⟨s, hStructure, _⟩ := Option.bind_eq_some_iff.1 hBase
                  exact ih (card_unseen_cons_le hNew hStructure hLimit) base

theorem card_unseen_nil_le (r : Registry) : (r.unseen []).card ≤ r.size := by
  simp [unseen]

/-- The unlimited walk from a place ends, and what it gathers is the chain of the place. -/
theorem gathers_iff (r : Registry) (id : TypeId) (chain : List (TypeId × Structure)) :
    r.Gathers [] (some id) chain ↔ chain = r.baseChain id := by
  have hWalk : r.Gathers [] (some id) (r.baseChain id) := gathers_chainFrom r.card_unseen_nil_le id
  constructor
  · exact hWalk.unique
  · rintro rfl
    exact hWalk

/-- The unlimited walk from a place ends, and it finds the types that the place is a subtype of. -/
theorem searches_iff (r : Registry) (id ancestor : TypeId) (answer : Bool) :
    r.Searches ancestor [] (some id) answer ↔ answer = r.isSubtypeOf id ancestor := by
  have hWalk : r.Searches ancestor [] (some id) (r.isSubtypeOf id ancestor) :=
    searches_leadsTo r.card_unseen_nil_le id
  constructor
  · exact hWalk.unique
  · rintro rfl
    exact hWalk

/-- A structure of a sample with its base, its fields and what it leaves out. -/
def sampleStructure (name : String) (base : Nat) (fields restricted : List String) : NamedType :=
  .structured {
    namespaceName := "Shop"
    name
    id := "types." ++ name
    base := some ⟨base⟩
    fields := fields.map (Field.scalar · .string)
    restricted }

/-- An order extends a sale. Sales and deals are the bases of each other, and the base of a place is
no structure. -/
def sampleBases : Registry where
  types := #[
    sampleStructure "Order" 1 ["seller", "number"] ["key"],
    sampleStructure "Sale" 2 ["key", "seller"] [],
    sampleStructure "Deal" 1 ["key", "date"] ["seller"],
    .enumeration ⟨"Shop", "Color", ["Red"]⟩,
    sampleStructure "Place" 3 ["street"] []]

end Csdl.Registry
