import Csdl.Proofs.Registry.Walk

/-! Subtypes. Two walks go along the same bases with different guards: one stops before a place that
is no structure or repeats, the other one looks at each place before it asks whether it repeats. Both
come to all that bases lead to, also where bases go round in a cycle. -/
namespace Csdl.Registry

/-- Following bases, zero or more times, leads from one place to another. -/
def Reaches (r : Registry) : TypeId → TypeId → Prop :=
  Relation.ReflTransGen fun place base => r.base? place = some base

/-- A list of places of which each is the base of the one before it, and the first one that of the
last one. -/
structure IsBaseCycle (r : Registry) (cycle : List TypeId) : Prop where
  linked : cycle.IsChain fun place base => r.base? place = some base
  closed : ∀ first last, cycle.head? = some first → cycle.getLast? = some last →
    r.base? last = some first

variable {r : Registry} {seen : List TypeId} {id ancestor : TypeId}

/-- What a walk finds is reached. -/
theorem Searches.reaches {current : Option TypeId} {answer : Bool}
    (h : r.Searches ancestor seen current answer) (hFound : answer = true) :
    ∃ id, current = some id ∧ r.Reaches id ancestor := by
  induction h with
  | ended seen => cases hFound
  | found seen => exact ⟨ancestor, rfl, .refl⟩
  | repeated _ _ => cases hFound
  | @next seen id answer _ _ rest ih =>
      obtain ⟨base, hBase, hReaches⟩ := ih hFound
      exact ⟨id, rfl, hReaches.head hBase⟩

/-- A walk that finds nothing has come to places that bases do not lead out of. The walk is anywhere
on its way: the bases of the places that it has come from are such places or the current one. -/
theorem Searches.exists_closed {current : Option TypeId} {answer : Bool}
    (h : r.Searches ancestor seen current answer) (hMissed : answer = false)
    (hOther : ancestor ∉ seen)
    (hSeen : ∀ place ∈ seen, ∀ base, r.base? place = some base → base ∈ seen ∨ current = some base) :
    ∃ Visited : TypeId → Prop, ¬ Visited ancestor ∧
      (∀ place ∈ seen, Visited place) ∧ (∀ id, current = some id → Visited id) ∧
      ∀ place base, Visited place → r.base? place = some base → Visited base := by
  induction h with
  | ended seen =>
      refine ⟨(· ∈ seen), hOther, fun _ h => h, fun id hNone => ?_, fun place base hPlace hBase => ?_⟩
      · cases hNone
      · exact (hSeen place hPlace base hBase).resolve_right (Option.some_ne_none base).symm
  | found seen => cases hMissed
  | @repeated seen id _ hRepeated =>
      refine ⟨(· ∈ seen), hOther, fun _ h => h, fun other hSame => ?_,
        fun place base hPlace hBase => ?_⟩
      · exact Option.some.inj hSame ▸ hRepeated
      · rcases hSeen place hPlace base hBase with hMem | hSame
        · exact hMem
        · exact Option.some.inj hSame ▸ hRepeated
  | @next seen id answer hNe hNew rest ih =>
      obtain ⟨Visited, hApart, hAll, _, hClosed⟩ := ih hMissed
        (fun hMem => (List.mem_cons.1 hMem).elim (fun hSame => hNe hSame.symm) hOther)
        (fun place hPlace base hBase => by
          rcases List.mem_cons.1 hPlace with rfl | hMem
          · exact .inr hBase
          · rcases hSeen place hMem base hBase with hBefore | hHere
            · exact .inl (List.mem_cons_of_mem _ hBefore)
            · exact .inl (Option.some.inj hHere ▸ List.mem_cons_self))
      refine ⟨Visited, hApart, fun place hMem => hAll place (List.mem_cons_of_mem _ hMem),
        fun other hSame => ?_, hClosed⟩
      exact Option.some.inj hSame ▸ hAll id List.mem_cons_self

/-- What is closed under bases is not left by following them. -/
theorem Reaches.closed {P : TypeId → Prop} {a b : TypeId} (h : r.Reaches a b)
    (hClosed : ∀ place base, P place → r.base? place = some base → P base) (hStart : P a) : P b := by
  induction h with
  | refl => exact hStart
  | tail _ hBase ih => exact hClosed _ _ ih hBase

/-- A type is a subtype of what its bases lead to. -/
theorem isSubtypeOf_eq_true_iff {a b : TypeId} : r.isSubtypeOf a b = true ↔ r.Reaches a b := by
  have hWalk := (r.searches_iff a b _).2 rfl
  constructor
  · intro hFound
    obtain ⟨id, hSame, hReaches⟩ := hWalk.reaches hFound
    exact Option.some.inj hSame ▸ hReaches
  · intro hReaches
    by_contra hMissed
    obtain ⟨Visited, hApart, _, hStart, hClosed⟩ := hWalk.exists_closed (Bool.not_eq_true _ ▸ hMissed)
      List.not_mem_nil fun _ hMem => absurd hMem List.not_mem_nil
    exact hApart (hReaches.closed hClosed (hStart a rfl))

/-- The base of a structure on the way of a walk is on its way too, or it is no structure. -/
theorem Gathers.base_mem {current : Option TypeId} {chain : List (TypeId × Structure)}
    (h : r.Gathers seen current chain)
    (hSeen : ∀ place ∈ seen, ∀ base, r.base? place = some base → base ∈ seen ∨ current = some base)
    {place base : TypeId} (hPlace : place ∈ seen ∨ place ∈ chain.map (·.1))
    (hBase : r.base? place = some base) :
    base ∈ seen ∨ base ∈ chain.map (·.1) ∨ r.structure? base = none := by
  induction h with
  | ended seen =>
      have hMem := hPlace.resolve_right List.not_mem_nil
      exact .inl ((hSeen place hMem base hBase).resolve_right (Option.some_ne_none base).symm)
  | @repeated seen id hRepeated =>
      rcases hSeen place (hPlace.resolve_right List.not_mem_nil) base hBase with hMem | hSame
      · exact .inl hMem
      · exact .inl (Option.some.inj hSame ▸ hRepeated)
  | @unstructured seen id _ hNone =>
      rcases hSeen place (hPlace.resolve_right List.not_mem_nil) base hBase with hMem | hSame
      · exact .inl hMem
      · exact .inr (.inr (Option.some.inj hSame ▸ hNone))
  | @next seen id s chain _ hStructure rest ih =>
      have hOwn : r.base? id = s.base := congrArg (·.bind (·.base)) hStructure
      have hLater := ih
        (fun other hMem next hNext => by
          rcases List.mem_cons.1 hMem with rfl | hBefore
          · exact .inr (hOwn.symm.trans hNext)
          · rcases hSeen other hBefore next hNext with hSeen | hHere
            · exact .inl (List.mem_cons_of_mem _ hSeen)
            · exact .inl (Option.some.inj hHere ▸ List.mem_cons_self))
        (by
          simp only [List.map_cons, List.mem_cons] at hPlace ⊢
          tauto)
      simp only [List.map_cons, List.mem_cons] at hLater ⊢
      tauto

/-- The chain of a type consists of the structures that its bases lead to. -/
theorem mem_baseChain_iff_reaches {a b : TypeId} (hStructure : (r.structure? b).isSome) :
    b ∈ (r.baseChain a).map (·.1) ↔ r.Reaches a b := by
  constructor
  · intro hMem
    obtain ⟨member, hMember, rfl⟩ := List.mem_map.1 hMem
    exact closed_of_mem_chainFrom (P := r.Reaches a) (fun _ _ hPlace hBase => hPlace.tail hBase)
      .refl hMember
  · intro hReaches
    have hWalk : r.Gathers [] (some a) (r.baseChain a) := (r.gathers_iff a _).2 rfl
    have hStart : a ∈ (r.baseChain a).map (·.1) ∨ r.structure? a = none := by
      generalize r.baseChain a = chain at hWalk ⊢
      cases hWalk with
      | repeated hMem => cases hMem
      | unstructured _ hNone => exact .inr hNone
      | next _ _ _ => exact .inl List.mem_cons_self
    have hClosed : ∀ place base, (place ∈ (r.baseChain a).map (·.1) ∨ r.structure? place = none) →
        r.base? place = some base →
        (base ∈ (r.baseChain a).map (·.1) ∨ r.structure? base = none) := by
      rintro place base (hPlace | hNone) hBase
      · exact (hWalk.base_mem (fun _ hMem => absurd hMem List.not_mem_nil) (.inr hPlace)
          hBase).resolve_left List.not_mem_nil
      · rw [base?, hNone] at hBase
        cases hBase
    refine (hReaches.closed hClosed hStart).resolve_right fun hNone => ?_
    rw [hNone] at hStructure
    cases hStructure

/-- On a cycle each place leads to each other one. -/
theorem IsBaseCycle.reaches {cycle : List TypeId} (h : r.IsBaseCycle cycle) {a b : TypeId}
    (ha : a ∈ cycle) (hb : b ∈ cycle) : r.Reaches a b := by
  obtain ⟨before, after, hCut⟩ := List.append_of_mem ha
  obtain ⟨before', after', hCut'⟩ := List.append_of_mem hb
  have hLast : cycle.getLast? = some ((a :: after).getLast (List.cons_ne_nil _ _)) := by
    rw [hCut, List.getLast?_append_of_ne_nil _ (List.cons_ne_nil _ _), List.getLast?_eq_some_getLast]
  obtain ⟨first, rest, hFirst⟩ : ∃ first rest, before' ++ [b] = first :: rest :=
    List.exists_cons_of_ne_nil (by simp)
  have hHead : cycle.head? = some first := by
    rw [hCut', List.append_cons, hFirst]
    rfl
  have hToLast : r.Reaches a ((a :: after).getLast (List.cons_ne_nil _ _)) :=
    List.relationReflTransGen_of_exists_isChain_cons after
      ((hCut ▸ h.linked).right_of_append) rfl
  have hFromFirst : r.Reaches first b := by
    have hLinked := h.linked
    rw [hCut', List.append_cons, hFirst] at hLinked
    refine List.relationReflTransGen_of_exists_isChain_cons rest hLinked.left_of_append ?_
    simp only [← hFirst, List.getLast_append_singleton]
  exact (hToLast.tail (h.closed _ _ hHead hLast)).trans hFromFirst

/-- Whatever the bases are, the walk along them ends with one answer, and a type is a subtype of
exactly those that its bases lead to. So each type is a subtype of itself and of what its supertypes
are subtypes of, types on a cycle are subtypes of each other, and among structures the subtypes of a
type are those that have its fields on their chains. -/
theorem isSubtypeOf_of_bases (r : Registry) :
    (∀ a b answer, r.Searches b [] (some a) answer ↔ answer = r.isSubtypeOf a b) ∧
    (∀ a b, r.isSubtypeOf a b = true ↔
      Relation.ReflTransGen (fun place base => r.base? place = some base) a b) ∧
    (∀ a, r.isSubtypeOf a a = true) ∧
    (∀ a b c, r.isSubtypeOf a b = true → r.isSubtypeOf b c = true → r.isSubtypeOf a c = true) ∧
    (∀ cycle, r.IsBaseCycle cycle → ∀ a ∈ cycle, ∀ b ∈ cycle, r.isSubtypeOf a b = true) ∧
    ∀ a t, (r.structure? a).isSome → (r.structure? t).isSome →
      (r.isSubtypeOf a t = true ↔ t ∈ (r.baseChain a).map (·.1)) := by
  refine ⟨r.searches_iff, fun _ _ => isSubtypeOf_eq_true_iff,
    fun _ => isSubtypeOf_eq_true_iff.2 .refl, fun a b c hab hbc => ?_,
    fun cycle hCycle a ha b hb => isSubtypeOf_eq_true_iff.2 (hCycle.reaches ha hb),
    fun a t _ ht => isSubtypeOf_eq_true_iff.trans (mem_baseChain_iff_reaches ht).symm⟩
  exact isSubtypeOf_eq_true_iff.2
    ((isSubtypeOf_eq_true_iff.1 hab).trans (isSubtypeOf_eq_true_iff.1 hbc))

/-- Sales and deals are subtypes of each other and not of orders, and a place is a subtype of its
base, although that is no structure. -/
theorem isSubtypeOf_of_sales :
    sampleBases.isSubtypeOf ⟨1⟩ ⟨2⟩ = true ∧ sampleBases.isSubtypeOf ⟨2⟩ ⟨1⟩ = true ∧
    sampleBases.isSubtypeOf ⟨0⟩ ⟨2⟩ = true ∧ sampleBases.isSubtypeOf ⟨2⟩ ⟨0⟩ = false ∧
    sampleBases.isSubtypeOf ⟨4⟩ ⟨3⟩ = true ∧
    (⟨3⟩ : TypeId) ∉ (sampleBases.baseChain ⟨4⟩).map (·.1) := by
  have hCycle : sampleBases.IsBaseCycle [⟨1⟩, ⟨2⟩] := by
    refine ⟨by decide, fun first last hFirst hLast => ?_⟩
    cases hFirst
    cases hLast
    decide
  obtain ⟨_, hReaches, _, hTrans, hCycles, _⟩ := isSubtypeOf_of_bases sampleBases
  have hDeal := hCycles _ hCycle ⟨1⟩ (by simp) ⟨2⟩ (by simp)
  refine ⟨hDeal, hCycles _ hCycle ⟨2⟩ (by simp) ⟨1⟩ (by simp),
    hTrans ⟨0⟩ ⟨1⟩ ⟨2⟩ ((hReaches _ _).2 (.single (by decide))) hDeal, by decide,
    (hReaches _ _).2 (.single (by decide)), by decide⟩

end Csdl.Registry
