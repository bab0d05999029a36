import Csdl.Capability
import Csdl.Proofs.Outcome

/-! The cache of queries does not show in answers. Each entry is what its text reads as, so a
computation through any cache gives what it gives through an empty one. -/
namespace Csdl

namespace Query

/-- What is in a cache under a text is the query that the text is read to. -/
theorem Cache.of_lookup {cache : Cache} {text : String} {query : Query}
    (h : cache.entries.lookup text = some query) : parse text = .ok query := by
  obtain ⟨before, after, hEntries, _⟩ := List.lookup_eq_some_iff.1 h
  exact cache.valid (text, query) (by rw [hEntries]; simp)

/-- A text is compiled to what it reads as, whatever has been read before. -/
theorem Cache.fst_compile (cache : Cache) (text : String) :
    (cache.compile text).1 = parse text := by
  unfold compile
  split
  · next query hFound => exact (of_lookup hFound).symm
  · split
    · next query hRead => exact hRead.symm
    · next error hRead => exact hRead.symm

namespace Evaluation

variable {α β : Type}

/-- A computation whose answer is the same through every cache. -/
def Transparent (x : Evaluation α) : Prop :=
  ∀ cache cache' : Cache, (x cache).1 = (x cache').1

theorem transparent_pure (a : α) : Transparent (pure a) := fun _ _ => rfl

theorem transparent_throw (error : Error) : Transparent (throw error : Evaluation α) :=
  fun _ _ => rfl

/-- The second computation runs through the cache that the first one leaves. -/
theorem bind_apply (x : Evaluation α) (f : α → Evaluation β) (cache : Cache) :
    (x >>= f) cache = match x cache with
      | (.ok a, later) => f a later
      | (.error error, later) => (.error error, later) := by
  show ExceptT.bindCont f (x cache).1 (x cache).2 = _
  rcases x cache with ⟨_ | a, later⟩ <;> rfl

/-- Computations through which the cache does not show are so one after the other. -/
theorem transparent_bind {x : Evaluation α} {f : α → Evaluation β} (hx : Transparent x)
    (hf : ∀ a, Transparent (f a)) : Transparent (x >>= f) := by
  intro cache cache'
  have hFirst := hx cache cache'
  rw [bind_apply, bind_apply]
  generalize x cache = here at hFirst ⊢
  generalize x cache' = there at hFirst ⊢
  obtain ⟨first, later⟩ := here
  obtain ⟨_, later'⟩ := there
  obtain rfl := hFirst
  cases first with
  | error error => rfl
  | ok a => exact hf a later later'

theorem transparent_select (start : Cursor) (text : String) : Transparent (select start text) := by
  refine transparent_bind (fun cache cache' => ?_) fun _ => transparent_pure _
  exact (cache.fst_compile text).trans (cache'.fst_compile text).symm

/-- The cache does not show in the elements that are selected. -/
theorem transparent_elements (start : Cursor) (text : String) :
    Transparent (elements start text) := by
  refine transparent_bind (transparent_select start text) fun selection => ?_
  cases selection with
  | elements found => exact transparent_pure found
  | values found => exact transparent_throw _

theorem transparent_strings (start : Cursor) (text : String) :
    Transparent (strings start text) :=
  transparent_bind (transparent_select start text) fun _ => transparent_pure _

theorem transparent_stringOr (start : Cursor) (text fallback : String) :
    Transparent (stringOr start text fallback) :=
  transparent_bind (transparent_bind (transparent_strings start text) fun _ => transparent_pure _)
    fun _ => transparent_pure _

end Evaluation

end Query

namespace Capabilities

open Query Query.Evaluation

/-- Whether everything is allowed does not depend on what is in the cache, though not everything may
be asked. -/
theorem transparent_allAllow (start : Cursor) (sources : List String) :
    Transparent (allAllow start sources) := by
  induction sources with
  | nil => exact transparent_pure true
  | cons source sources ih =>
      refine transparent_bind (transparent_bind (transparent_stringOr start source "true")
        fun _ => transparent_pure _) fun allowed => ?_
      cases allowed with
      | true => exact ih
      | false => exact transparent_pure false

theorem transparent_allowedOnSet (start : Cursor) (kind : MemberKind) (sources : List String) :
    Transparent (allowedOnSet start kind sources) := by
  cases kind with
  | entitySet => exact transparent_allAllow start sources
  | singleton => exact transparent_pure false

/-- The cache does not show in the flags of a member. -/
theorem transparent_readFlags (start : Cursor) (kind : MemberKind) :
    Transparent (readFlags start kind) := by
  unfold readFlags
  repeat' first
    | refine transparent_bind (transparent_allowedOnSet start kind _) fun _ => ?_
    | refine transparent_bind (transparent_allAllow start _) fun _ => ?_
  exact transparent_pure _

/-- The capabilities of a member do not depend on the members read before it. -/
theorem transparent_read (start : Cursor) (kind : MemberKind) :
    Transparent (read start kind) := by
  refine transparent_bind (transparent_readFlags start kind) fun _ => ?_
  refine transparent_bind (transparent_elements start bindingQuery) fun _ => ?_
  repeat' refine transparent_bind (transparent_strings start _) fun _ => ?_
  exact transparent_pure _

end Capabilities

end Csdl
