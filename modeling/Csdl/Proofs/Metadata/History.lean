import Csdl.Proofs.Metadata.Integrity
import Csdl.Proofs.Registry.Tables

/-! How the registry of a document comes about. Each stage registers types, uses the point record
or edits structures, so what holds of every run of such changes holds of each document. -/
namespace Csdl

open Query (bind_eq_ok)

namespace Registry

variable {r r' r'' : Registry}

/-- A registry that some changes of another one lead to. -/
def Evolves (r r' : Registry) : Prop :=
  ∃ changes, r' = r.run changes

theorem Evolves.refl (r : Registry) : r.Evolves r :=
  ⟨[], rfl⟩

theorem Evolves.trans (h : r.Evolves r') (h' : r'.Evolves r'') : r.Evolves r'' := by
  obtain ⟨first, rfl⟩ := h
  obtain ⟨second, rfl⟩ := h'
  exact ⟨first ++ second, (run_append r first second).symm⟩

theorem evolves_step (r : Registry) (change : Change) : r.Evolves (r.step change) :=
  ⟨[change], rfl⟩

/-- Registrations in a row are changes. -/
theorem Registers.evolves {types : List NamedType} (h : r.Registers types r') : r.Evolves r' := by
  induction h with
  | nil r => exact .refl r
  | @cons r r' type types hFree rest ih =>
      have hStep : r.step (.register type) = r.push type := by
        rw [step_register, hFree]
        rfl
      exact (hStep ▸ r.evolves_step (.register type)).trans ih

/-- Types that are added under new names are registered one after the other. -/
theorem evolves_append {types : List NamedType} (h : (r.append types).Distinct) :
    r.Evolves (r.append types) :=
  (((keeps_append r types).distinct h).registers_iff.2 ⟨rfl, h⟩).evolves

theorem evolves_extendFor (r : Registry) (type : TypeRef) : r.Evolves (r.extendFor type) := by
  unfold extendFor
  split
  · exact r.evolves_step .usePoint
  · exact .refl r

/-- The registry with a structure in a place. -/
def put (r : Registry) (id : TypeId) (s : Structure) : Registry :=
  ⟨r.types.setIfInBounds id.index (.structured s)⟩

theorem edit_eq_put {id : TypeId} {s : Structure} (h : r.structure? id = some s)
    (change : Structure → Structure) : r.edit id change = .ok (r.put id (change s)) := by
  rw [edit, h, put]

theorem structure?_put {id : TypeId} {s : Structure} (h : r.structure? id = some s)
    (s' : Structure) : (r.put id s').structure? id = some s' := by
  obtain ⟨_, _, hGet⟩ := get?_of_edit (edit_eq_put h fun _ => s')
  exact structure?_eq_some.2 ((hGet id).trans (if_pos rfl))

theorem put_put (r : Registry) (id : TypeId) (s s' : Structure) :
    (r.put id s).put id s' = r.put id s' := by
  simp [put]

/-- A change of a structure that leaves its names alone is made of edits. -/
theorem evolves_of_edit {id : TypeId} {change : Structure → Structure}
    (h : r.edit id change = .ok r')
    (hChange : ∀ s, change s = { s with
      base := (change s).base
      collectionName := (change s).collectionName
      fields := (change s).fields }) : r.Evolves r' := by
  obtain ⟨s, hStructure, _⟩ := get?_of_edit h
  rw [edit_eq_put hStructure, Except.ok.injEq] at h
  have hStep : ∀ {r : Registry} {s : Structure} (e : Edit), r.structure? id = some s →
      r.step (.edit id e) = r.put id (e.apply s) := fun e hs => by
    rw [step_edit, edit_eq_put hs]
  let base := Edit.base (change s).base
  let fields := Edit.fields (change s).fields
  let collectionName := Edit.collectionName (change s).collectionName
  have hEdits : collectionName.apply (fields.apply (base.apply s)) = change s := by
    rw [hChange s]
    rfl
  refine ⟨[.edit id base, .edit id fields, .edit id collectionName], ?_⟩
  show r' = ((r.step _).step _).step _
  have hBase := structure?_put hStructure (base.apply s)
  have hFields := structure?_put hBase (fields.apply (base.apply s))
  rw [hStep base hStructure, hStep fields hBase, hStep collectionName hFields, put_put, put_put,
    hEdits, h]

end Registry

namespace Derivation

variable {settings : Settings} {aliases : AliasTable} {navigations : List Navigation}

/-- A member uses the point record, names a structure and registers extensions. -/
theorem Derives.evolves {state next : Derivation} {node : MemberNode} {outcome : MemberOutcome}
    (h : Derives settings aliases navigations state node outcome next)
    (hDistinct : state.registry.Distinct) : state.registry.Evolves next.registry := by
  obtain ⟨entity, _, hNext, hLater, _⟩ := h.exists_entity hDistinct
  rw [hNext] at hLater ⊢
  exact ((Registry.evolves_extendFor _ _).trans (Registry.evolves_of_edit h.bound_eq
    fun _ => rfl)).trans (Registry.evolves_append hLater)

/-- A registry evolves while all members are derived, member by member. -/
theorem DerivesAll.evolves {state last : Derivation} {nodes : List MemberNode}
    {outcomes : List MemberOutcome}
    (h : DerivesAll settings aliases navigations state nodes outcomes last)
    (hDistinct : state.registry.Distinct) : state.registry.Evolves last.registry := by
  induction h with
  | nil state => exact .refl _
  | cons first rest ih => exact (first.evolves hDistinct).trans (ih (first.distinct hDistinct))

end Derivation

namespace Metadata

variable {settings : Settings}

namespace Typing

variable (typing : Typing settings)

/-- A registry evolves from nothing to what is announced. -/
theorem evolves_stubs : ({} : Registry).Evolves typing.stubs := by
  have hDistinct := typing.declares.distinct
  rw [typing.declares.stubs_eq] at hDistinct ⊢
  exact Registry.evolves_append hDistinct

/-- Structures get their content by edits, one structure after the other, so the completed registry is
what changes of the announced one lead to. -/
theorem evolves_completed : typing.stubs.Evolves typing.completed := by
  obtain ⟨filled, hFilled, hEq⟩ := Content.fillAll_eq_ok.1 typing.completed_eq
  have hFills : typing.stubs.Evolves filled := foldlM_preserves (P := typing.stubs.Evolves)
    (fun _ _ _ _ hBefore hStep => hBefore.trans (Registry.evolves_of_edit hStep fun _ => rfl))
    (.refl _) hFilled
  rw [hEq]
  split
  · exact hFills.trans (filled.evolves_step .usePoint)
  · exact hFills

/-- A registry evolves while structures are linked. -/
theorem evolves_linked : typing.completed.Evolves typing.linked :=
  foldlM_preserves (P := typing.completed.Evolves)
    (fun _ _ _ _ hBefore hStep => hBefore.trans (Registry.evolves_of_edit hStep fun _ => rfl))
    (.refl _) typing.linked_eq

end Typing

/-- What a document registers is registered, used and edited step by step. -/
theorem evolves_of_walk {location : Location} {document : Xml.Document} {definition : Definition}
    (h : (walk settings location document).result = .ok definition) :
    ({} : Registry).Evolves definition.registry := by
  obtain ⟨reading, rfl⟩ := walk_eq_ok.1 h
  exact ((reading.evolves_stubs.trans reading.evolves_completed).trans
    reading.evolves_linked).trans (reading.derives.evolves reading.distinct_linked)

/-- After any changes, failing ones included, the two indexes lead exactly to the type of a name and
to the first structure of an id. A change that fails has no effect, and later changes leave all
types in their places and all that was found where it was. The registry of a document comes about
by such changes, and the indexes lead where a search through its types leads. -/
theorem indexed_of_run (changes more : List Change) :
    (Tables.run {} changes).Represents (Registry.run {} changes) ∧
    (Tables.run {} changes).Indexed ∧
    (∀ change error, ((Tables.run {} changes).change change).1 = .error error →
      ((Tables.run {} changes).change change).2 = Tables.run {} changes) ∧
    (Tables.run {} changes).Extends (Tables.run {} (changes ++ more)) ∧
    ∀ settings location document definition,
      (walk settings location document).result = .ok definition →
      ∃ history, definition.registry = Registry.run {} history ∧
        (Tables.run {} history).Represents definition.registry := by
  have hRun : ∀ changes, (Tables.run {} changes).Represents (Registry.run {} changes) :=
    Tables.Represents.empty.run
  have hDistinct : ∀ changes, (Registry.run {} changes).Distinct :=
    Registry.distinct_empty.run
  refine ⟨hRun changes, (hRun changes).indexed (hDistinct changes),
    fun _ _ => Tables.change_eq_of_error, ?_, ?_⟩
  · refine (hRun changes).extends (hRun (changes ++ more)) ?_ (hDistinct (changes ++ more))
    rw [Registry.run_append]
    exact Registry.keeps_run _ more
  · intro settings location document definition h
    obtain ⟨history, hHistory⟩ := evolves_of_walk h
    exact ⟨history, hHistory, hHistory ▸ hRun history⟩

/-- Two products of one id, a third one whose name is taken, and a change of the first. -/
def sampleHistory : List Change :=
  [.register (.structured ⟨"A", "Product", "entities.Product", none, none, [], [], []⟩),
    .register (.structured ⟨"B", "Product", "entities.Product", none, none, [], [], []⟩),
    .register (.enumeration ⟨"A", "Product", []⟩),
    .usePoint,
    .edit ⟨0⟩ (.base (some ⟨1⟩))]

/-- Both products are found by their names, the first one owns the id for good, and a third one is
refused without effect. The registry of the sample comes about in such a way. -/
theorem indexed_of_sampleHistory :
    (Tables.run {} sampleHistory).lookup "A" "Product" = some ⟨0⟩ ∧
    (Tables.run {} sampleHistory).lookup "B" "Product" = some ⟨1⟩ ∧
    (Tables.run {} (sampleHistory ++ [.usePoint])).lookupId "entities.Product" = some ⟨0⟩ ∧
    ((Tables.run {} sampleHistory).change (.register (.enumeration ⟨"B", "Product", []⟩))).2 =
      Tables.run {} sampleHistory ∧
    ∃ definition history, definition.summary = ⟨1, 5, 3, 2, 2⟩ ∧
      (walk {} ⟨"https", "localhost", "/"⟩ sample).result = .ok definition ∧
      definition.registry = Registry.run {} history := by
  obtain ⟨hRun, _, hFailing, hMore, hWalks⟩ := indexed_of_run sampleHistory [.usePoint]
  have hOwner : (Tables.run {} sampleHistory).lookupId "entities.Product" = some ⟨0⟩ :=
    (hRun.lookupId_eq _).trans (by decide +kernel)
  have hRefused : ((Tables.run {} sampleHistory).change
      (.register (.enumeration ⟨"B", "Product", []⟩))).1 =
        .error (.format (.declaredTwice "B" "Product")) :=
    (hRun.change _).1.trans (by decide +kernel)
  obtain ⟨definition, hDefinition, hSummary⟩ := Option.map_eq_some_iff.1 summary_sample
  have hWalk := toOption_eq_some.1 hDefinition
  obtain ⟨history, hHistory, _⟩ := hWalks _ _ _ _ hWalk
  exact ⟨(hRun.lookup_eq _ _).trans (by decide +kernel),
    (hRun.lookup_eq _ _).trans (by decide +kernel), hMore.lookupId _ _ hOwner,
    hFailing _ _ hRefused, definition, history, hSummary, hWalk, hHistory⟩

end Metadata

end Csdl
