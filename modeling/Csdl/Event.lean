import Csdl.Text.Quoted

/-!
What is worth telling while a document is read: events, their level and their wording.
-/

namespace Csdl

/-- How important an event is, from the most important on. -/
inductive Level where
  | warn
  | info
  | debug
  deriving DecidableEq, Repr

namespace Level

/-- The word that opens the line of an event. -/
def name : Level → String
  | warn => "WARN"
  | info => "INFO"
  | debug => "DEBUG"

/-- The place of a level in the order of importance. -/
def rank : Level → Nat
  | warn => 0
  | info => 1
  | debug => 2

end Level

/-- Something that happened while a document was read. -/
inductive Event where
  | missingVersion
  | idOwned (id namespaceName name : String)
  | unknownKey (key owner : String)
  | registered (types schemas aliases : Nat)
  | generated (functions navigations : Nat)
  | inspecting (documents : Nat)
  | readingEnumeration (name : String) (members : List String)
  | announcingStructure (name : String)
  | readingStructure (name : String)
  | readingField (name type : String)
  | compositeKey (owner : String)
  | linked (links : Nat)
  | derivedMember (member : String) (operations : List String)
  deriving DecidableEq, Repr

namespace Event

/-- The level of an event. -/
def level : Event → Level
  | missingVersion | idOwned .. | unknownKey .. => .warn
  | registered .. | generated .. | inspecting _ => .info
  | readingEnumeration .. | announcingStructure _ | readingStructure _ | readingField ..
  | compositeKey _ | linked _ | derivedMember .. => .debug

/-- The wording of an event. The line of a field is indented under its structure. -/
def message : Event → String
  | missingVersion => "Edmx root has no Version attribute"
  | idOwned id namespaceName name =>
    s!"Qualified id {id} of {namespaceName}.{name} is already owned by another type"
  | unknownKey key owner => s!"Key {key} of {owner} does not name a declared property"
  | registered types schemas aliases =>
    s!"Registered {types} types across {schemas} schemas ({aliases} aliases)"
  | generated functions navigations =>
    s!"Generated {functions} functions for {navigations} navigation properties"
  | inspecting documents => s!"Inspecting {documents} metadata documents"
  | readingEnumeration name members => s!"Parsing enum {name}: {Text.quoteList members}"
  | announcingStructure name => s!"Preparsing complex type {name}"
  | readingStructure name => s!"Parsing complex type {name}"
  | readingField name type => s!"\tParsing child {name} of type {type}"
  | compositeKey owner => s!"{owner} has a composite key, no primary key is marked"
  | linked links => s!"Resolved {links} deferred navigation links"
  | derivedMember member operations =>
    "Entity set " ++ member ++ ": " ++ String.intercalate ", " operations

/-- The line of an event. -/
def line (event : Event) : String :=
  event.level.name ++ " " ++ event.message

/-- Whether an event is shown when events up to a level are. -/
def shownAt (level : Level) (event : Event) : Bool :=
  event.level.rank ≤ level.rank

end Event

end Csdl
