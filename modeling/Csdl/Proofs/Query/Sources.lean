import Csdl.Proofs.Query.Totality

/-! The texts of the queries that are asked of a member. They are fixed, each of them can be read,
and no other text comes into the cache. A text that has been read is found there. -/
namespace Csdl

open Query Query.Evaluation

namespace Query

/-- What a text has just been compiled to is in the cache, and nothing is if it cannot be read. -/
theorem Cache.lookup_compile (cache : Cache) (text : String) :
    (cache.compile text).2.entries.lookup text = (cache.compile text).1.toOption := by
  unfold compile
  split
  · next hFound => exact hFound
  · next hNone =>
      split
      · exact List.lookup_cons_self
      · exact hNone

namespace Evaluation

variable {α β : Type} {texts : List String} {start : Cursor} {text : String}

/-- A computation that brings no other text into the cache than given ones. -/
def Asks (x : Evaluation α) (texts : List String) : Prop :=
  ∀ cache : Cache, ∀ entry ∈ (x cache).2.entries, entry ∈ cache.entries ∨ entry.1 ∈ texts

theorem asks_pure (a : α) : Asks (pure a) texts :=
  fun _ _ h => .inl h

theorem asks_throw (error : Error) : Asks (throw error : Evaluation α) texts :=
  fun _ _ h => .inl h

/-- Computations that bring only given texts into the cache do so one after the other. -/
theorem Asks.bind {x : Evaluation α} {f : α → Evaluation β} (hx : Asks x texts)
    (hf : ∀ a, Asks (f a) texts) : Asks (x >>= f) texts := by
  intro cache entry hEntry
  rw [bind_apply] at hEntry
  have hFirst := hx cache
  generalize x cache = here at hFirst hEntry
  obtain ⟨answer, later⟩ := here
  cases answer with
  | error error => exact hFirst entry hEntry
  | ok a =>
      rcases hf a later entry hEntry with hLater | hText
      · exact hFirst entry hLater
      · exact .inr hText

/-- Selecting brings in no text but its own. -/
theorem asks_select (h : text ∈ texts) : Asks (select start text) texts := by
  have hCompiled : Asks (compiled text) texts := by
    intro cache entry hEntry
    change entry ∈ (cache.compile text).2.entries at hEntry
    unfold Cache.compile at hEntry
    split at hEntry
    · exact .inl hEntry
    · split at hEntry
      · rcases List.mem_cons.1 hEntry with rfl | hOld
        · exact .inr h
        · exact .inl hOld
      · exact .inl hEntry
  exact hCompiled.bind fun _ => asks_pure _

theorem asks_elements (h : text ∈ texts) : Asks (elements start text) texts := by
  refine (asks_select h).bind fun selection => ?_
  cases selection with
  | elements found => exact asks_pure found
  | values found => exact asks_throw _

theorem asks_strings (h : text ∈ texts) : Asks (strings start text) texts :=
  (asks_select h).bind fun _ => asks_pure _

end Evaluation

end Query

namespace Capabilities

variable {start : Cursor} {texts : List String}

/-- The texts of all queries that are asked of members. -/
def sources : List String := [
  recordFlag "InsertRestrictions" "Insertable",
  pathList "InsertRestrictions" "NonInsertableProperties" "PropertyPath",
  pathList "InsertRestrictions" "NonInsertableNavigationProperties" "NavigationPropertyPath",
  recordFlag "SearchRestrictions" "Searchable",
  recordFlag "SelectSupport" "Searchable",
  recordFlag "SelectSupport" "Filterable",
  recordFlag "SelectSupport" "Sortable",
  ownFlag "SkipSupported",
  recordFlag "SelectSupport" "SkipSupported",
  ownFlag "TopSupported",
  recordFlag "SelectSupport" "TopSupported",
  recordFlag "CountRestrictions" "Countable",
  recordFlag "SelectSupport" "CountSupported",
  recordFlag "DeleteRestrictions" "Deletable",
  recordFlag "UpdateRestrictions" "Updatable",
  pathList "UpdateRestrictions" "NonUpdatableProperties" "PropertyPath",
  pathList "UpdateRestrictions" "NonUpdatableNavigationProperties" "NavigationPropertyPath",
  bindingQuery]

/-- Asking whether everything is allowed brings in no texts but those of its list, even if it ends
early. -/
theorem asks_allAllow {asked : List String} (h : asked ⊆ texts) :
    Asks (allAllow start asked) texts := by
  induction asked with
  | nil => exact asks_pure true
  | cons source asked ih =>
      obtain ⟨hHead, hTail⟩ := List.cons_subset.1 h
      have hStrings : Asks (strings start source) texts := asks_strings hHead
      refine (((hStrings.bind fun _ => asks_pure _).bind fun _ => asks_pure _).bind fun _ =>
        asks_pure _).bind fun allowed => ?_
      cases allowed with
      | true => exact ih hTail
      | false => exact asks_pure false

theorem asks_allowedOnSet {asked : List String} (h : asked ⊆ texts) (kind : MemberKind) :
    Asks (allowedOnSet start kind asked) texts := by
  cases kind with
  | entitySet => exact asks_allAllow h
  | singleton => exact asks_pure false

/-- Reading all flags of a member brings in no texts but the fixed ones. -/
theorem asks_readFlags (kind : MemberKind) : Asks (readFlags start kind) sources := by
  unfold readFlags
  refine (asks_allowedOnSet (by simp [sources]) kind).bind fun _ => ?_
  refine (asks_allowedOnSet (by simp [sources]) kind).bind fun _ => ?_
  refine (asks_allowedOnSet (by simp [sources]) kind).bind fun _ => ?_
  refine (asks_allowedOnSet (by simp [sources]) kind).bind fun _ => ?_
  refine (asks_allowedOnSet (by simp [sources]) kind).bind fun _ => ?_
  refine (asks_allowedOnSet (by simp [sources]) kind).bind fun _ => ?_
  refine (asks_allowedOnSet (by simp [sources]) kind).bind fun _ => ?_
  refine (asks_allowedOnSet (by simp [sources]) kind).bind fun _ => ?_
  refine (asks_allAllow (by simp [sources])).bind fun _ => ?_
  exact asks_pure _

/-- No other queries are asked of a member. -/
theorem asks_read (kind : MemberKind) : Asks (read start kind) sources := by
  unfold read
  refine (asks_readFlags kind).bind fun _ => ?_
  refine (asks_elements (by simp [sources])).bind fun _ => ?_
  refine (asks_strings (by simp [sources])).bind fun _ => ?_
  refine (asks_strings (by simp [sources])).bind fun _ => ?_
  refine (asks_strings (by simp [sources])).bind fun _ => ?_
  refine (asks_strings (by simp [sources])).bind fun _ => ?_
  exact asks_pure _

/-- All of them can be read. -/
theorem exists_parse_sources : ∀ text ∈ sources, ∃ query, parse text = .ok query := by
  have hRecord : ∀ {term name : String}, '\'' ∉ term.toList → '\'' ∉ name.toList →
      ∃ query, parse (recordFlag term name) = .ok query :=
    fun hTerm hName => ⟨_, parse_recordFlag hTerm hName⟩
  have hOwn : ∀ {term : String}, '\'' ∉ term.toList → ∃ query, parse (ownFlag term) = .ok query :=
    fun hTerm => ⟨_, parse_ownFlag hTerm⟩
  have hPath : ∀ {term name kind : String}, '\'' ∉ term.toList → '\'' ∉ name.toList →
      Spells ("edm:" ++ kind).toList kind → ∃ query, parse (pathList term name kind) = .ok query :=
    fun hTerm hName hKind => ⟨_, parse_pathList hTerm hName hKind⟩
  simp only [sources, List.forall_mem_cons]
  exact ⟨hRecord (by decide) (by decide), hPath (by decide) (by decide) spells_propertyPath,
    hPath (by decide) (by decide) spells_navigationPropertyPath, hRecord (by decide) (by decide),
    hRecord (by decide) (by decide), hRecord (by decide) (by decide),
    hRecord (by decide) (by decide), hOwn (by decide), hRecord (by decide) (by decide),
    hOwn (by decide), hRecord (by decide) (by decide), hRecord (by decide) (by decide),
    hRecord (by decide) (by decide), hRecord (by decide) (by decide),
    hRecord (by decide) (by decide), hPath (by decide) (by decide) spells_propertyPath,
    hPath (by decide) (by decide) spells_navigationPropertyPath, ⟨_, parse_bindingQuery⟩,
    List.forall_mem_nil _⟩

end Capabilities

end Csdl
