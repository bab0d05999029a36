import Csdl.Query.Parser

/-!
Evaluating query texts with a cache of the queries read so far. Each entry is what its text reads
as, so the cache never changes an answer. A text that cannot be read leaves the cache as it is.
-/

namespace Csdl.Query

theorem parse_of_mem_nil : ∀ entry ∈ ([] : List (String × Query)), parse entry.1 = .ok entry.2 := by
  simp

/-- The texts read so far with their queries. -/
structure Cache where
  entries : List (String × Query) := []
  valid : ∀ entry ∈ entries, parse entry.1 = .ok entry.2 := by
    exact Csdl.Query.parse_of_mem_nil

namespace Cache

/-- The number of texts read so far. -/
def size (cache : Cache) : Nat :=
  cache.entries.length

/-- The cache with a text that has been read. -/
def insert (cache : Cache) (text : String) (query : Query) (h : parse text = .ok query) : Cache where
  entries := (text, query) :: cache.entries
  valid := by
    intro entry hMember
    rcases List.mem_cons.1 hMember with rfl | hMember
    · exact h
    · exact cache.valid entry hMember

/-- The query of a text, read at the first use. -/
def compile (cache : Cache) (text : String) : Except Error Query × Cache :=
  match cache.entries.lookup text with
  | some query => (.ok query, cache)
  | none =>
    match hRead : parse text with
    | .ok query => (.ok query, cache.insert text query hRead)
    | .error error => (.error error, cache)

end Cache

/-- A computation that reads queries through a cache and may fail. The cache stays what it has
become when it fails. -/
abbrev Evaluation := ExceptT Error (StateM Cache)

namespace Evaluation

/-- The query of a text. -/
def compiled (text : String) : Evaluation Query :=
  fun cache => cache.compile text

/-- What the query of a text selects from a node on. -/
def select (start : Cursor) (text : String) : Evaluation Selection := do
  let query ← compiled text
  return query.evaluate start

/-- The elements that a query selects. One that selects values is refused. -/
def elements (start : Cursor) (text : String) : Evaluation (List Cursor) := do
  match ← select start text with
  | .elements found => return found
  | .values _ => throw (.query text .selectsValues)

/-- What a query selects, as texts without the blanks around them. -/
def strings (start : Cursor) (text : String) : Evaluation (List String) := do
  return (← select start text).strings

/-- The first text that a query selects. -/
def string? (start : Cursor) (text : String) : Evaluation (Option String) := do
  return (← strings start text).head?

/-- The first text that a query selects, or another one if it selects nothing. -/
def stringOr (start : Cursor) (text fallback : String) : Evaluation String := do
  return (← string? start text).getD fallback

end Evaluation

end Csdl.Query
