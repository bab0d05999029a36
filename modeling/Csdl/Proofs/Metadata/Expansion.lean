import Csdl.Proofs.Member.Expansion
import Csdl.Proofs.Metadata.Payload

/-! What is read of the members of a document. When the structure that is read is made, the type of
the member has the name of the member, and both keep all that they are but this name, which later
members may change. No navigation is marked as a primary key, so what is read has the key of the
type. -/
namespace Csdl

/-- The names of the members that are bound to a structure, in their order. -/
def MemberOutcome.namesAt (outcomes : List MemberOutcome) (id : TypeId) : List String :=
  (outcomes.filter (·.member.entity = id)).map (·.member.name)

/-- A structure at a place with the collection name that members leave to it: the name of the last
member that is bound to it, or the one that it had. -/
def Structure.namedBy (outcomes : List MemberOutcome) (id : TypeId) (s : Structure) : Structure :=
  { s with collectionName := ((MemberOutcome.namesAt outcomes id).getLast?).or s.collectionName }

/-- A member with the structure that is read of it. This structure and the type of the member are
given as they were when the one was made of the other; `later` are the members behind it. -/
structure MemberOutcome.ReadAs (definition : Definition) (expansions : List Expansion)
    (outcome : MemberOutcome) (later : List MemberOutcome) (entity : Structure) (id : TypeId)
    (s : Structure) : Prop where
  bound_eq : outcome.bound.structure? outcome.member.entity = some entity
  named : entity.collectionName = some outcome.member.name
  reads : outcome.member.Reads definition.navigations expansions entity s
  lookup_eq : definition.registry.lookup outcome.member.namespaceName
    (outcome.member.name ++ "Select") = some id
  structure?_eq : definition.registry.structure? id = some (s.namedBy later id)
  entity_eq : definition.registry.structure? outcome.member.entity =
    some (entity.namedBy later outcome.member.entity)
  primaryKey?_eq : definition.registry.primaryKey? id =
    definition.registry.primaryKey? outcome.member.entity

/-- Members leave one after the other what they leave together. -/
theorem Structure.namedBy_cons (outcome : MemberOutcome) (outcomes : List MemberOutcome)
    (id : TypeId) (s : Structure) :
    s.namedBy (outcome :: outcomes) id = (s.namedBy [outcome] id).namedBy outcomes id := by
  have hLast : ∀ (last : Option String) (name : String) (old : Option String),
      (some (last.getD name)).or old = last.or ((some name).or old) := by
    intro last name old
    cases last <;> rfl
  simp only [namedBy, MemberOutcome.namesAt, List.filter_cons, List.filter_nil]
  split
  · rw [List.map_cons, List.getLast?_cons, hLast]
    rfl
  · rfl

namespace Derivation

variable {settings : Settings} {aliases : AliasTable} {navigations : List Navigation}

/-- A member gives a collection name to the structure that it is bound to, and changes no other. -/
theorem Derives.structure?_next {state next : Derivation} {node : MemberNode}
    {outcome : MemberOutcome} (h : Derives settings aliases navigations state node outcome next)
    (hDistinct : state.registry.Distinct) {id : TypeId} {s : Structure}
    (hStructure : state.registry.structure? id = some s) :
    next.registry.structure? id = some (s.namedBy [outcome] id) := by
  obtain ⟨_, _, hNext, _⟩ := h.exists_entity hDistinct
  obtain ⟨found, hFound, hGet⟩ := Registry.get?_of_edit h.bound_eq
  have hHere := Registry.structure?_eq_some.1 hStructure
  have hLt := Registry.lt_size_of_get? hHere
  have hExtended : (state.registry.extendFor (.named outcome.member.entity)).get? id =
      some (.structured s) := by
    rcases Registry.extendFor_cases h.refer_eq with ⟨_, hSame⟩ | ⟨_, _, _, hPush⟩
    · rw [hSame, hHere]
    · rw [hPush, ← Registry.append_singleton, Registry.get?_append_of_lt hLt, hHere]
  rw [Registry.structure?_eq_some, hNext,
    Registry.get?_append_of_lt (Nat.lt_of_lt_of_le hLt h.keeps_bound.size_le), hGet]
  by_cases hId : outcome.member.entity = id
  · subst hId
    rw [Registry.structure?_eq_some, hExtended, Option.some.injEq,
      NamedType.structured.injEq] at hFound
    simp [hFound, nameCollection, Structure.namedBy, MemberOutcome.namesAt]
  · rw [if_neg (Ne.symm hId), hExtended]
    simp [hId, Structure.namedBy, MemberOutcome.namesAt]

/-- Along a run a structure keeps all but its collection name, which the last member that is bound to
it gives. -/
theorem DerivesAll.structure?_last {state last : Derivation} {nodes : List MemberNode}
    {outcomes : List MemberOutcome}
    (h : DerivesAll settings aliases navigations state nodes outcomes last)
    (hDistinct : state.registry.Distinct) {id : TypeId} {s : Structure}
    (hStructure : state.registry.structure? id = some s) :
    last.registry.structure? id = some (s.namedBy outcomes id) := by
  induction h generalizing s with
  | nil state => exact hStructure
  | cons first rest ih =>
      rw [ih (first.distinct hDistinct) (first.structure?_next hDistinct hStructure),
        ← Structure.namedBy_cons]

/-- A run in which some member has an outcome derives that member, and then those behind it. -/
theorem DerivesAll.exists_derives {last : Derivation} {outcome : MemberOutcome}
    {earlier later : List MemberOutcome} {state : Derivation} {nodes : List MemberNode}
    (h : DerivesAll settings aliases navigations state nodes (earlier ++ outcome :: later) last)
    (hDistinct : state.registry.Distinct) (hSound : state.registry.Sound navigations) :
    ∃ before node after rest, Derives settings aliases navigations before node outcome after ∧
      before.registry.Distinct ∧ before.registry.Sound navigations ∧
      DerivesAll settings aliases navigations after rest later last := by
  induction earlier generalizing state nodes with
  | nil =>
      cases h with
      | cons first rest => exact ⟨_, _, _, _, first, hDistinct, hSound, rest⟩
  | cons head earlier ih =>
      cases h with
      | cons first rest =>
          exact ih rest (first.distinct hDistinct) (first.sound hDistinct hSound).1

/-- What is read of a member has the primary key of its type, because it adds navigations only. -/
theorem Derives.primaryKey?_select {state next : Derivation} {node : MemberNode}
    {outcome : MemberOutcome} (h : Derives settings aliases navigations state node outcome next)
    (hDistinct : state.registry.Distinct) (hSound : state.registry.Sound navigations)
    (hUnmarked : ∀ n ∈ navigations, n.field.primaryKey = false) {r : Registry}
    (hBound : outcome.bound.Retains r) (hLater : next.registry.Retains r) (hFinal : r.Distinct)
    {id : TypeId} (hLookup : r.lookup outcome.member.namespaceName
      (outcome.member.name ++ "Select") = some id) :
    r.primaryKey? id = r.primaryKey? outcome.member.entity := by
  obtain ⟨entity, hEntity, _⟩ := h.exists_entity hDistinct
  have hMem : Member.selectExtension navigations settings.expansions outcome.member entity ∈
      outcome.extensions navigations settings.expansions entity := by
    simp [MemberOutcome.extensions, Member.extensions]
  obtain ⟨found, _, _, hFound, hAll⟩ :=
    h.extension_later hDistinct hSound hBound hLater hFinal hEntity hMem
  obtain rfl : found = id := Option.some.inj (hFound.symm.trans hLookup)
  have hKept : (r.allFields outcome.member.entity).filter (fun field => field.name ∉
      (Member.selectExtension navigations settings.expansions outcome.member entity).restricted) =
        r.allFields outcome.member.entity :=
    List.filter_eq_self.2 fun field _ => decide_eq_true List.not_mem_nil
  rw [hKept] at hAll
  refine Registry.primaryKey?_of_allFields hAll fun field hField => ?_
  obtain ⟨n, hDeclared, rfl⟩ := Member.exists_navigation_of_mem_expandedFields hField
  exact hUnmarked n hDeclared

/-- What is read of a member is there in the end, with the primary key of its type. -/
theorem Derives.exists_readAs {state next last : Derivation} {node : MemberNode}
    {outcome : MemberOutcome} (h : Derives settings aliases navigations state node outcome next)
    (hDistinct : state.registry.Distinct) (hSound : state.registry.Sound navigations)
    (hUnmarked : ∀ n ∈ navigations, n.field.primaryKey = false) {nodes : List MemberNode}
    {later : List MemberOutcome}
    (hLater : DerivesAll settings aliases navigations next nodes later last)
    {definition : Definition} (hNavigations : definition.navigations = navigations)
    (hRegistry : definition.registry = last.registry) :
    ∃ entity id s, outcome.ReadAs definition settings.expansions later entity id s := by
  subst hNavigations
  obtain ⟨entity, hEntity, hNext, hNextDistinct, _⟩ := h.exists_entity hDistinct
  obtain ⟨id, select, _, hPlace, hSelect, hReads⟩ :=
    Member.exists_reads_of_generate hEntity h.generated
  have hBound : outcome.bound.Retains next.registry := hNext ▸ Registry.retains_append _ _
  have hRetains := hLater.retains hNextDistinct
  have hFinal := hLater.distinct hNextDistinct
  have hLookup := (hLater.keeps hNextDistinct).lookup hFinal hPlace
  have hEntityNext : next.registry.structure? outcome.member.entity = some entity := by
    rw [Registry.structure?_eq_some] at hEntity ⊢
    rw [hNext, Registry.get?_append_of_lt (Registry.lt_size_of_get? hEntity), hEntity]
  have hKey := h.primaryKey?_select hDistinct hSound hUnmarked (hBound.trans hRetains) hRetains
    hFinal hLookup
  exact ⟨entity, id, select, {
    bound_eq := hEntity
    named := h.collectionName_eq hEntity
    reads := hReads
    lookup_eq := hRegistry ▸ hLookup
    structure?_eq := hRegistry ▸ hLater.structure?_last hNextDistinct hSelect
    entity_eq := hRegistry ▸ hLater.structure?_last hNextDistinct hEntityNext
    primaryKey?_eq := hRegistry ▸ hKey }⟩

end Derivation

namespace Metadata

/-- Expansions that are rearranged for all entity types define the same. -/
theorem walk_of_rearranged (baseId : Option String) {expansions expansions' : List Expansion}
    (h : ∀ entity names, Expansion.Rearranged entity names expansions expansions')
    (location : Location) (document : Xml.Document) :
    walk ⟨baseId, expansions⟩ location document = walk ⟨baseId, expansions'⟩ location document := by
  have hGenerate : ∀ registry navigations member capabilities,
      Member.generate registry navigations expansions member capabilities =
        Member.generate registry navigations expansions' member capabilities :=
    fun _ _ _ capabilities => Member.generate_of_rearranged capabilities fun entity _ => h entity _
  have hStep : Derivation.step ⟨baseId, expansions⟩ = Derivation.step ⟨baseId, expansions'⟩ := by
    funext aliases navigations state node
    simp only [Derivation.step, hGenerate]
  have hDerive : derive ⟨baseId, expansions⟩ = derive ⟨baseId, expansions'⟩ := by
    funext schemas registry navigations
    rw [derive, derive, hStep]
  have hDeclare : declare ⟨baseId, expansions⟩ = declare ⟨baseId, expansions'⟩ := rfl
  simp only [walk, hDerive, hDeclare]

/-- What is read of a member has the type of the member as its base and the collection name that the
type has, and beside what it inherits only the fields of those navigations of the type that are
asked for. If expansions are rearranged, or ask for what is no navigation of the type, nothing
changes. In what a document defines, the type had the name of the member when this was made, and
the structure that is read has the primary key of the type. -/
theorem reads_of_members :
    (∀ (r : Registry) (navigations : List Navigation) (expansions : List Expansion)
      (member : Member) (capabilities : Capabilities) (entity : Structure),
      r.structure? member.entity = some entity →
      (∀ functions r', (Member.generate r navigations expansions member capabilities).result =
          .ok (functions, r') →
        ∃ id s, r.lookup member.namespaceName (member.name ++ "Select") = none ∧
          r'.lookup member.namespaceName (member.name ++ "Select") = some id ∧
          r'.structure? id = some s ∧ member.Reads navigations expansions entity s) ∧
      ∀ expansions', Expansion.Rearranged entity
          ((ownNavigations navigations member.entity).map (·.name)) expansions expansions' →
        Member.generate r navigations expansions' member capabilities =
          Member.generate r navigations expansions member capabilities) ∧
    ∀ (settings : Settings) (location : Location) (document : Xml.Document)
      (definition : Definition), (walk settings location document).result = .ok definition →
      ∃ (schemas : List Schema) (outcomes : List MemberOutcome),
        Metadata.schemas document.root = .ok schemas ∧
        List.Forall₂ (MemberOutcome.Describes settings (Schema.aliases schemas) definition)
          (schemas.flatMap Schema.members) outcomes ∧
        ∀ earlier outcome later, outcomes = earlier ++ outcome :: later →
          ∃ entity id s, outcome.ReadAs definition settings.expansions later entity id s := by
  refine ⟨fun r navigations expansions member capabilities entity hEntity => ⟨?_, ?_⟩, ?_⟩
  · intro functions r' hGenerate
    exact Member.exists_reads_of_generate hEntity hGenerate
  · intro expansions' hRearranged
    refine Member.generate_of_rearranged capabilities fun found hFound => ?_
    obtain rfl : found = entity := Option.some.inj (hFound.symm.trans hEntity)
    exact hRearranged.symm
  · intro settings location document definition h
    obtain ⟨reading, rfl⟩ := walk_eq_ok.1 h
    have hUnmarked := unmarked_of_complete (complete_eq_ok.2 ⟨reading.contents, reading.completed,
      reading.contents_read, reading.completed_eq, reading.linked_eq, rfl⟩)
    refine ⟨reading.schemas, reading.outcomes, reading.schemas_read, reading.describes location, ?_⟩
    intro earlier outcome later hOutcomes
    obtain ⟨before, _, after, _, hDerives, hDistinct, hSound, hLater⟩ :=
      (hOutcomes ▸ reading.derives).exists_derives reading.distinct_linked reading.linked_sound
    exact hDerives.exists_readAs hDistinct hSound hUnmarked hLater rfl rfl

/-- Expansions of an order under its id and under its qualified name. One navigation is asked for
twice, and one name is that of a property. -/
def sampleExpansions : List Expansion :=
  [⟨"entities.Order", ["parts", "place"]⟩, ⟨"Shop.Order", ["from", "parts"]⟩]

/-- The type that is read of the orders in the sample, read off the walk itself. -/
theorem names_of_orders :
    (walk { expansions := sampleExpansions } ⟨"https", "localhost", "/"⟩
      sampleStore).result.toOption.map (fun definition =>
        (definition.registry.lookup "Shop" "OrdersSelect").bind fun id =>
          (definition.registry.structure? id).map fun s =>
            (s.collectionName, s.fields.map (·.name), s.duplicates)) =
      some (some (some "Orders", ["from", "parts"], ["from", "parts"])) := by
  rw [result_walk]
  decide +kernel

/-- An order is read from the store with its origin and its parts, in the order of their
declaration. -/
theorem reads_of_orders :
    ∃ (definition : Definition) (schemas : List Schema) (outcomes : List MemberOutcome),
      (walk { expansions := sampleExpansions } ⟨"https", "localhost", "/"⟩ sampleStore).result =
        .ok definition ∧
      ((definition.registry.lookup "Shop" "OrdersSelect").bind fun id =>
        (definition.registry.structure? id).map fun s =>
          (s.collectionName, s.fields.map (·.name), s.duplicates)) =
        some (some "Orders", ["from", "parts"], ["from", "parts"]) ∧
      Metadata.schemas sampleStore.root = .ok schemas ∧
      List.Forall₂ (MemberOutcome.Describes { expansions := sampleExpansions }
        (Schema.aliases schemas) definition) (schemas.flatMap Schema.members) outcomes ∧
      ∀ earlier outcome later, outcomes = earlier ++ outcome :: later →
        ∃ entity id s, outcome.ReadAs definition sampleExpansions later entity id s := by
  obtain ⟨definition, hDefinition, hNames⟩ := Option.map_eq_some_iff.1 names_of_orders
  have hWalk := toOption_eq_some.1 hDefinition
  obtain ⟨schemas, outcomes, hSchemas, hDescribes, hReads⟩ := reads_of_members.2 _ _ _ _ hWalk
  exact ⟨definition, schemas, outcomes, hWalk, hNames, hSchemas, hDescribes, hReads⟩

end Metadata

end Csdl
