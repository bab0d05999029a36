import Csdl.Proofs.Query.Sources
import Mathlib.Data.List.Dedup

/-! A cache in use. Requests are answered one after the other through the cache that the earlier
ones have left, in whatever way each looks at what its query selects. The answers are those of a
cache that is new for each request, and the cache has one entry for each text that could be read. -/
namespace Csdl.Query

/-- Whether a text is a query. -/
def isReadable (text : String) : Bool :=
  (parse text).toOption.isSome

namespace Cache

variable {cache : Cache} {text : String}

/-- The texts that have been read. -/
def texts (cache : Cache) : List String :=
  cache.entries.map (·.1)

/-- The cache after a text has been compiled. -/
def after (cache : Cache) (text : String) : Cache :=
  (cache.compile text).2

/-- The cache after some texts have been compiled in turn. -/
def afterAll (cache : Cache) (texts : List String) : Cache :=
  texts.foldl after cache

/-- Nothing is found for a text exactly if it has not been read. -/
theorem lookup_eq_none_iff : cache.entries.lookup text = none ↔ text ∉ cache.texts := by
  rw [List.lookup_eq_none_iff, texts, List.mem_map]
  constructor
  · rintro h ⟨entry, hEntry, rfl⟩
    exact absurd (h entry hEntry) (by simp)
  · intro h entry hEntry
    rw [bne_iff_ne]
    rintro rfl
    exact h ⟨entry, hEntry, rfl⟩

/-- A text that is refused leaves the cache as it is. -/
theorem after_of_refused {error : Error} (h : parse text = .error error) :
    cache.after text = cache := by
  unfold after compile
  split
  · rfl
  · split
    · next hRead =>
        rw [h] at hRead
        cases hRead
    · rfl

/-- A text that is known leaves the cache as it is. -/
theorem after_of_mem (h : text ∈ cache.texts) : cache.after text = cache := by
  unfold after compile
  split
  · rfl
  · next hNone => exact absurd h (lookup_eq_none_iff.1 hNone)

/-- A text that is new and can be read gets the first entry. -/
theorem texts_after_of_new {query : Query} (h : parse text = .ok query)
    (hNew : text ∉ cache.texts) : (cache.after text).texts = text :: cache.texts := by
  unfold after compile
  split
  · next hFound =>
      rw [lookup_eq_none_iff.2 hNew] at hFound
      cases hFound
  · split
    · rfl
    · next hRead =>
        rw [h] at hRead
        cases hRead

/-- A request adds its text to those that have been read, if it can be read. -/
theorem mem_texts_after {other : String} :
    other ∈ (cache.after text).texts ↔
      other ∈ cache.texts ∨ other = text ∧ isReadable text = true := by
  unfold isReadable
  cases hRead : parse text with
  | error error =>
      rw [after_of_refused hRead]
      simp [Except.toOption]
  | ok query =>
      by_cases hKnown : text ∈ cache.texts
      · rw [after_of_mem hKnown]
        refine ⟨.inl, fun h => h.elim id ?_⟩
        rintro ⟨rfl, _⟩
        exact hKnown
      · rw [texts_after_of_new hRead hKnown, List.mem_cons]
        simp [Except.toOption, or_comm]

/-- No text gets two entries. -/
theorem nodup_texts_after (h : cache.texts.Nodup) : (cache.after text).texts.Nodup := by
  cases hRead : parse text with
  | error error => rwa [after_of_refused hRead]
  | ok query =>
      by_cases hKnown : text ∈ cache.texts
      · rwa [after_of_mem hKnown]
      · rw [texts_after_of_new hRead hKnown]
        exact h.cons hKnown

/-- After some texts, those of them that can be read are known, and those known before. -/
theorem mem_texts_afterAll {asked : List String} {other : String} :
    other ∈ (cache.afterAll asked).texts ↔
      other ∈ cache.texts ∨ other ∈ asked.filter isReadable := by
  induction asked generalizing cache with
  | nil => simp [afterAll]
  | cons text asked ih =>
      change other ∈ ((cache.after text).afterAll asked).texts ↔ _
      rw [ih, mem_texts_after, List.mem_filter, List.mem_filter, List.mem_cons, or_assoc]
      refine or_congr_right ⟨?_, ?_⟩
      · rintro (⟨rfl, hReadable⟩ | ⟨hAsked, hReadable⟩)
        · exact ⟨.inl rfl, hReadable⟩
        · exact ⟨.inr hAsked, hReadable⟩
      · rintro ⟨rfl | hAsked, hReadable⟩
        · exact .inl ⟨rfl, hReadable⟩
        · exact .inr ⟨hAsked, hReadable⟩

theorem nodup_texts_afterAll {asked : List String} (h : cache.texts.Nodup) :
    (cache.afterAll asked).texts.Nodup := by
  induction asked generalizing cache with
  | nil => exact h
  | cons text asked ih => exact ih (nodup_texts_after h)

/-- A new cache has as many entries after some texts as there are different ones among those of them
that can be read. -/
theorem size_afterAll (asked : List String) :
    (afterAll {} asked).size = (asked.filter isReadable).dedup.length := by
  have hNodup : (afterAll {} asked).texts.Nodup := nodup_texts_afterAll List.nodup_nil
  have hSame : ∀ text, text ∈ (afterAll {} asked).texts ↔
      text ∈ (asked.filter isReadable).dedup := by
    intro text
    rw [mem_texts_afterAll, List.mem_dedup]
    exact or_iff_right List.not_mem_nil
  have hPerm := (List.perm_ext_iff_of_nodup hNodup (List.nodup_dedup _)).2 hSame
  rw [← hPerm.length_eq, texts, List.length_map, size]

end Cache

namespace Evaluation

variable {α β : Type}

/-- A computation that compiles given texts in turn, whether it succeeds or not. -/
def Compiles (x : Evaluation α) (texts : List String) : Prop :=
  ∀ cache : Cache, (x cache).2 = cache.afterAll texts

theorem compiles_pure (a : α) : Compiles (pure a) [] :=
  fun _ => rfl

theorem compiles_throw (error : Error) : Compiles (throw error : Evaluation α) [] :=
  fun _ => rfl

theorem compiles_compiled (text : String) : Compiles (compiled text) [text] :=
  fun _ => rfl

/-- What follows a computation that succeeds compiles its texts behind those of that one. -/
theorem Compiles.bind {x : Evaluation α} {f : α → Evaluation β} {P : α → Prop}
    {texts more : List String} (hx : Compiles x texts) (hGives : Gives x P)
    (hf : ∀ a, P a → Compiles (f a) more) : Compiles (x >>= f) (texts ++ more) := by
  intro cache
  obtain ⟨a, hAnswer, hProperty⟩ := hGives cache
  have hFirst := hx cache
  rw [bind_apply]
  generalize x cache = here at hAnswer hFirst ⊢
  obtain ⟨_, later⟩ := here
  obtain rfl := hAnswer
  obtain rfl := hFirst
  exact (hf a hProperty _).trans List.foldl_append.symm

/-- What only looks at an answer compiles nothing, so the first computation may fail as well. -/
theorem Compiles.bind_nil {x : Evaluation α} {f : α → Evaluation β} {texts : List String}
    (hx : Compiles x texts) (hf : ∀ a, Compiles (f a) []) : Compiles (x >>= f) texts := by
  intro cache
  have hFirst := hx cache
  rw [bind_apply]
  generalize x cache = here at hFirst ⊢
  obtain ⟨answer, later⟩ := here
  obtain rfl := hFirst
  cases answer with
  | error error => rfl
  | ok a => exact hf a _

theorem compiles_select (start : Cursor) (text : String) : Compiles (select start text) [text] :=
  (compiles_compiled text).bind_nil fun _ => compiles_pure _

theorem compiles_elements (start : Cursor) (text : String) :
    Compiles (elements start text) [text] := by
  refine (compiles_select start text).bind_nil fun selection => ?_
  cases selection with
  | elements found => exact compiles_pure found
  | values found => exact compiles_throw _

theorem compiles_strings (start : Cursor) (text : String) : Compiles (strings start text) [text] :=
  (compiles_select start text).bind_nil fun _ => compiles_pure _

theorem compiles_string? (start : Cursor) (text : String) : Compiles (string? start text) [text] :=
  (compiles_strings start text).bind_nil fun _ => compiles_pure _

theorem compiles_stringOr (start : Cursor) (text fallback : String) :
    Compiles (stringOr start text fallback) [text] :=
  (compiles_string? start text).bind_nil fun _ => compiles_pure _

end Evaluation

/-- A way to look at what a query selects. -/
inductive View where
  | selection
  | elements
  | strings
  | string
  | stringOr (fallback : String)
  deriving DecidableEq, Repr

/-- What is seen of what a query selects. -/
inductive Answer where
  | selection (selected : Selection)
  | elements (found : List Cursor)
  | strings (found : List String)
  | string (found : Option String)
  | stringOr (found : String)
  deriving Repr

/-- A text to be evaluated from a node on, and the way to look at it. -/
structure Request where
  view : View
  start : Cursor
  text : String
  deriving Repr

/-- Evaluates the text of a request. -/
def Request.answer (request : Request) : Evaluation Answer :=
  match request.view with
  | .selection => .selection <$> Evaluation.select request.start request.text
  | .elements => .elements <$> Evaluation.elements request.start request.text
  | .strings => .strings <$> Evaluation.strings request.start request.text
  | .string => .string <$> Evaluation.string? request.start request.text
  | .stringOr fallback =>
    .stringOr <$> Evaluation.stringOr request.start request.text fallback

/-- Answers requests in turn through one cache. A refused one does not stop the others. -/
def answerAll (cache : Cache) : List Request → List (Except Error Answer) × Cache
  | [] => ([], cache)
  | request :: requests =>
    let here := request.answer cache
    let rest := answerAll here.2 requests
    (here.1 :: rest.1, rest.2)

namespace Request

open Evaluation

/-- A request is answered alike through every cache. -/
theorem transparent_answer (request : Request) : Transparent request.answer := by
  have hMap : ∀ {α : Type} {x : Evaluation α} (f : α → Answer), Transparent x →
      Transparent (f <$> x) :=
    fun f hx => transparent_bind hx fun a => transparent_pure (f a)
  unfold answer
  split
  · exact hMap _ (transparent_select _ _)
  · exact hMap _ (transparent_elements _ _)
  · exact hMap _ (transparent_strings _ _)
  · exact hMap _ (transparent_bind (transparent_strings _ _) fun _ => transparent_pure _)
  · exact hMap _ (transparent_stringOr _ _ _)

/-- A request compiles its text, whatever becomes of it. -/
theorem compiles_answer (request : Request) : Compiles request.answer [request.text] := by
  have hMap : ∀ {α : Type} {x : Evaluation α} (f : α → Answer), Compiles x [request.text] →
      Compiles (f <$> x) [request.text] :=
    fun f hx => hx.bind_nil fun a => compiles_pure (f a)
  unfold answer
  split
  · exact hMap _ (compiles_select _ _)
  · exact hMap _ (compiles_elements _ _)
  · exact hMap _ (compiles_strings _ _)
  · exact hMap _ (compiles_string? _ _)
  · exact hMap _ (compiles_stringOr _ _ _)

end Request

/-- Requests in turn are answered each as through a new cache, and compile their texts in turn. -/
theorem answerAll_eq (cache : Cache) (requests : List Request) :
    answerAll cache requests = (requests.map fun request => (request.answer {}).1,
      cache.afterAll (requests.map (·.text))) := by
  induction requests generalizing cache with
  | nil => rfl
  | cons request requests ih =>
      have hAnswer : (request.answer cache).1 = (request.answer {}).1 :=
        request.transparent_answer cache {}
      have hLater : (request.answer cache).2 = cache.after request.text :=
        request.compiles_answer cache
      simp only [answerAll, ih, hAnswer, hLater, List.map_cons]
      rfl

/-- After any requests, the answers have been those of a new cache for each of them, and the cache
has an entry for each different text that could be read. A further request is answered as through a
new cache again; if its text cannot be read nothing changes, and else its text is known from then
on, also where the view refuses what the query selects. -/
theorem requests_answered (requests : List Request) :
    ∃ cache, answerAll {} requests = (requests.map fun request => (request.answer {}).1, cache) ∧
      cache.size = ((requests.map (·.text)).filter isReadable).dedup.length ∧
      ∀ next : Request, (next.answer cache).1 = (next.answer {}).1 ∧
        (isReadable next.text = false → (next.answer cache).2 = cache) ∧
        (isReadable next.text = true → ∃ query, parse next.text = .ok query ∧
          (next.answer cache).2.entries.lookup next.text = some query) := by
  refine ⟨_, answerAll_eq {} requests, Cache.size_afterAll _, fun next => ?_⟩
  generalize Cache.afterAll {} (requests.map (·.text)) = cache
  have hLater : (next.answer cache).2 = cache.after next.text := next.compiles_answer cache
  rw [hLater]
  refine ⟨next.transparent_answer cache {}, fun hRefused => ?_, fun hReadable => ?_⟩
  · cases hRead : parse next.text with
    | error error => exact Cache.after_of_refused hRead
    | ok query => simp [isReadable, hRead, Except.toOption] at hRefused
  · cases hRead : parse next.text with
    | error error => simp [isReadable, hRead, Except.toOption] at hReadable
    | ok query =>
        refine ⟨query, rfl, ?_⟩
        rw [Cache.after, cache.lookup_compile, cache.fst_compile, hRead]
        rfl

/-- Neither a text that is refused nor one that is asked again gets an entry; one whose values a
view refuses does. -/
example (start : Cursor) :
    (answerAll {} [⟨.strings, start, "Item"⟩, ⟨.strings, start, "Item["⟩,
      ⟨.elements, start, "Item/@Code"⟩, ⟨.string, start, "Item"⟩]).2.size = 2 := by
  rw [answerAll_eq, Cache.size_afterAll]
  change (["Item", "Item[", "Item/@Code", "Item"].filter isReadable).dedup.length = 2
  decide +kernel

end Csdl.Query
