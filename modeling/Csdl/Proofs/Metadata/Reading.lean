import Csdl.Proofs.Metadata.Attachment
import Csdl.Proofs.Metadata.Derivation

/-! A whole reading of a document, stage by stage. A document defines something exactly if all stages
succeed, and all that is known of its definition is known of the stages. -/
namespace Csdl

open Query (bind_eq_ok)

namespace Metadata

/-- All that the stages before the last one have found and made of some schemas. `completed` is the
registry once all structures have their content, and `linked` the one once links have been made. -/
structure Typing (settings : Settings) where
  schemas : List Schema
  enumerations : List Enumeration
  announcements : List Announcement
  stubs : Registry
  contents : List Content
  completed : Registry
  linked : Registry
  declares : Declares settings schemas enumerations announcements stubs
    (announcements.map (·.declarationIn stubs))
  contents_read : (announcements.map (·.declarationIn stubs)).mapM
    (fun declaration => (Content.read ⟨Schema.aliases schemas, stubs⟩ declaration).result) =
      .ok contents
  completed_eq : Content.fillAll stubs contents = .ok completed
  linked_eq : (Link.attachments completed contents).foldlM Link.attach completed = .ok linked

/-- All that the stages of a successful reading have found and made. -/
structure Reading (settings : Settings) (document : Xml.Document) extends Typing settings where
  outcomes : List MemberOutcome
  final : Derivation
  root_eq : document.root.label = "Edmx"
  schemas_read : Metadata.schemas document.root = .ok schemas
  derives : Derivation.DerivesAll settings (Schema.aliases schemas) (Content.navigations contents)
    { registry := linked } (schemas.flatMap Schema.members) outcomes final

/-- What a reading defines. -/
def Reading.definition {settings : Settings} {document : Xml.Document}
    (reading : Reading settings document) (location : Location) : Definition where
  version := (document.root.attribute? "Version").getD ""
  location
  registry := reading.final.registry
  functions := reading.final.functions
  navigations := Content.navigations reading.contents

/-- Structures are completed exactly if each can be read, filled and linked, in this order. -/
theorem complete_eq_ok {aliases : AliasTable} {stubs linked : Registry}
    {declarations : List Declaration} {navigations : List Navigation} :
    (complete aliases stubs declarations).result = .ok (linked, navigations) ↔
      ∃ contents completed,
        declarations.mapM (fun d => (Content.read ⟨aliases, stubs⟩ d).result) = .ok contents ∧
        Content.fillAll stubs contents = .ok completed ∧
        (Link.attachments completed contents).foldlM Link.attach completed = .ok linked ∧
        navigations = Content.navigations contents := by
  simp only [complete, Logged.result_bind, Logged.result_mapM, Logged.result_ofExcept,
    Logged.result_pure, bind_eq_ok, Link.attachAll_eq_ok]
  constructor
  · rintro ⟨contents, hContents, completed, hCompleted, later, hLinked, hEq⟩
    cases hEq
    exact ⟨contents, completed, hContents, hCompleted, hLinked, rfl⟩
  · rintro ⟨contents, completed, hContents, hCompleted, hLinked, rfl⟩
    exact ⟨contents, hContents, completed, hCompleted, linked, hLinked, rfl⟩

/-- Functions are derived exactly if all members can be derived one after the other. -/
theorem derive_eq_ok {settings : Settings} {schemas : List Schema} {linked registry : Registry}
    {navigations : List Navigation} {functions : List ServiceFunction} :
    (derive settings schemas linked navigations).result = .ok (registry, functions) ↔
      ∃ outcomes final, Derivation.DerivesAll settings (Schema.aliases schemas) navigations
        { registry := linked } (schemas.flatMap Schema.members) outcomes final ∧
        registry = final.registry ∧ functions = final.functions := by
  simp only [derive, Logged.result_bind, Logged.result_tell, Logged.result_pure, bind_eq_ok,
    Derivation.foldlM_step_eq_ok]
  constructor
  · rintro ⟨final, ⟨outcomes, hDerives⟩, _, _, hEq⟩
    cases hEq
    exact ⟨outcomes, final, hDerives, rfl, rfl⟩
  · rintro ⟨outcomes, final, hDerives, rfl, rfl⟩
    exact ⟨final, ⟨outcomes, hDerives⟩, (), trivial, rfl⟩

/-- A document defines what some reading of it defines, and nothing else. -/
theorem walk_eq_ok {settings : Settings} {location : Location} {document : Xml.Document}
    {definition : Definition} :
    (walk settings location document).result = .ok definition ↔
      ∃ reading : Reading settings document, definition = reading.definition location := by
  have hVersion : ∀ (version : String) (next : Logged Definition),
      (if version.isEmpty then Logged.tell .missingVersion >>= fun _ => next else next).result =
        next.result := fun version next => by
    split
    · rw [Logged.result_bind]
      rfl
    · rfl
  unfold walk
  by_cases hRoot : document.root.label = "Edmx"
  · simp only [hRoot, ne_eq, not_true_eq_false, if_false, hVersion, Logged.result_bind,
      Logged.result_ofExcept, Logged.result_pure, bind_eq_ok]
    constructor
    · rintro ⟨schemas, hSchemas, ⟨stubs, declarations⟩, hDeclare, ⟨linked, navigations⟩, hComplete,
        ⟨registry, functions⟩, hDerive, hEq⟩
      obtain ⟨enumerations, announcements, hDeclares⟩ := declare_eq_ok.1 hDeclare
      obtain rfl := hDeclares.declarations_eq
      obtain ⟨contents, completed, hContents, hCompleted, hLinked, rfl⟩ :=
        complete_eq_ok.1 hComplete
      obtain ⟨outcomes, final, hDerives, rfl, rfl⟩ := derive_eq_ok.1 hDerive
      cases hEq
      exact ⟨⟨⟨schemas, enumerations, announcements, stubs, contents, completed, linked, hDeclares,
        hContents, hCompleted, hLinked⟩, outcomes, final, hRoot, hSchemas, hDerives⟩, rfl⟩
    · rintro ⟨reading, rfl⟩
      exact ⟨reading.schemas, reading.schemas_read, (_, _),
        declare_eq_ok.2 ⟨_, _, reading.declares⟩, (_, _),
        complete_eq_ok.2 ⟨_, _, reading.contents_read, reading.completed_eq, reading.linked_eq,
          rfl⟩, (_, _), derive_eq_ok.2 ⟨_, _, reading.derives, rfl, rfl⟩, rfl⟩
  · simp only [hRoot, ne_eq, not_false_eq_true, if_true, Logged.result_fail]
    constructor
    · intro h
      cases h
    · rintro ⟨reading, _⟩
      exact absurd reading.root_eq hRoot

/-- Some schemas are read in one way only, up to the members of their containers. -/
theorem Typing.eq_of_schemas_eq {settings : Settings} {typing typing' : Typing settings}
    (h : typing'.schemas = typing.schemas) : typing' = typing := by
  obtain ⟨schemas, enumerations, announcements, stubs, contents, completed, linked, hDeclares,
    hContents, hCompleted, hLinked⟩ := typing
  obtain ⟨_, enumerations', announcements', stubs', contents', completed', linked', hDeclares',
    hContents', hCompleted', hLinked'⟩ := typing'
  dsimp only at h
  subst h
  obtain rfl := Except.ok.inj (hDeclares'.enumerations_read.symm.trans hDeclares.enumerations_read)
  obtain rfl :=
    Except.ok.inj (hDeclares'.announcements_read.symm.trans hDeclares.announcements_read)
  obtain rfl : stubs' = stubs := hDeclares'.stubs_eq.trans hDeclares.stubs_eq.symm
  obtain rfl := Except.ok.inj (hContents'.symm.trans hContents)
  obtain rfl := Except.ok.inj (hCompleted'.symm.trans hCompleted)
  obtain rfl := Except.ok.inj (hLinked'.symm.trans hLinked)
  rfl

/-- Once its types are there, a document defines something exactly if all members can be derived. -/
theorem exists_walk_iff {settings : Settings} {location : Location} {document : Xml.Document}
    (typing : Typing settings) (hRoot : document.root.label = "Edmx")
    (hSchemas : Metadata.schemas document.root = .ok typing.schemas) :
    (∃ definition, (walk settings location document).result = .ok definition) ↔
      ∃ outcomes final, Derivation.DerivesAll settings (Schema.aliases typing.schemas)
        (Content.navigations typing.contents) { registry := typing.linked }
        (typing.schemas.flatMap Schema.members) outcomes final := by
  constructor
  · rintro ⟨definition, hWalk⟩
    obtain ⟨reading, _⟩ := walk_eq_ok.1 hWalk
    have hSame : reading.toTyping = typing := Typing.eq_of_schemas_eq
      (Except.ok.inj (reading.schemas_read.symm.trans hSchemas))
    exact ⟨_, _, hSame ▸ reading.derives⟩
  · rintro ⟨outcomes, final, hDerives⟩
    exact ⟨_, walk_eq_ok.2 ⟨⟨typing, outcomes, final, hRoot, hSchemas, hDerives⟩, rfl⟩⟩

end Metadata

end Csdl
