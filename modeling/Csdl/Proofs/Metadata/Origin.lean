import Csdl.Proofs.Metadata.Keys

/-! Where the ids of structures come from. An id is minted for a declared structure, or it is the one
of the built-in point record, and an extension takes its id from the structure that it extends. So
whether a structure is built in can be told from its id. -/
namespace Csdl

/-- The ids that settings mint, of names of either kind. -/
def Settings.Mints (settings : Settings) (id : String) : Prop :=
  ∃ (kind : StructureKind) (name : String), id = settings.mintId kind.idPart name

namespace Registry

/-- The place of the point record that no document declares, or of an extension of it. -/
inductive BuiltIn (r : Registry) : TypeId → Prop where
  | record {id : TypeId} {s : Structure} (hStructure : r.structure? id = some s)
      (hRecord : { s with collectionName := none } = pointRecord) : BuiltIn r id
  | extension {id base : TypeId} {s t : Structure} {suffix : String} (hBuiltIn : BuiltIn r base)
      (hBase : r.structure? base = some t) (hStructure : r.structure? id = some s)
      (hExtends : s.base = some base) (hSuffix : suffix ∈ ["Insert", "Select", "Update"])
      (hId : s.id = t.id ++ suffix) : BuiltIn r id

/-- A registry whose structures are built in or have ids that have been minted. -/
def Accounted (settings : Settings) (r : Registry) : Prop :=
  ∀ id s, r.structure? id = some s → r.BuiltIn id ∨ settings.Mints s.id

variable {r r' : Registry} {settings : Settings}

/-- What is built in stays so. -/
theorem BuiltIn.later {id : TypeId} (h : r.BuiltIn id) (hRetains : r.Retains r') :
    r'.BuiltIn id := by
  induction h with
  | record hStructure hRecord =>
      obtain ⟨_, hLater⟩ := hRetains.structure? hStructure
      exact .record hLater hRecord
  | extension _ hBase hStructure hExtends hSuffix hId ih =>
      obtain ⟨_, hBaseLater⟩ := hRetains.structure? hBase
      obtain ⟨_, hLater⟩ := hRetains.structure? hStructure
      exact .extension ih hBaseLater hLater hExtends hSuffix hId

/-- A registry stays accounted for if what is added is. -/
theorem Accounted.grow (h : r.Accounted settings) (hRetains : r.Retains r')
    (hNew : ∀ id s, r.size ≤ id.index → r'.structure? id = some s →
      r'.BuiltIn id ∨ settings.Mints s.id) : r'.Accounted settings := by
  intro id s hStructure
  rcases hRetains.structure?_cases hStructure with hSize | ⟨old, name, hOld, rfl⟩
  · exact hNew id s hSize hStructure
  · exact (h id old hOld).imp_left fun hBuiltIn => hBuiltIn.later hRetains

/-- The point record that is added is built in. -/
theorem Accounted.withPoint (h : r.Accounted settings) : r.withPoint.Accounted settings := by
  refine h.grow (retains_withPoint r) fun id s hSize hNew => .inl (.record hNew ?_)
  rw [eq_pointRecord_of_withPoint hSize hNew]
  rfl

theorem Accounted.extendFor (h : r.Accounted settings) (type : TypeRef) :
    (r.extendFor type).Accounted settings := by
  unfold Registry.extendFor
  split
  · exact h.withPoint
  · exact h

theorem Accounted.named (h : r.Accounted settings) {id : TypeId} {name : String}
    (hEdit : r.edit id (Derivation.nameCollection name) = .ok r') : r'.Accounted settings := by
  refine h.grow (retains_of_edit hEdit) fun id s hSize hStructure => ?_
  have hLt := lt_size_of_get? (structure?_eq_some.1 hStructure)
  rw [size_of_edit hEdit] at hLt
  omega

end Registry

/-- A foreign key of a definition, on a field of a structure or on one that a function takes or
gives. -/
def Definition.HasKey (definition : Definition) (key : ForeignKey) : Prop :=
  (∃ id s, definition.registry.structure? id = some s ∧
    ∃ field ∈ s.fields, field.foreignKey = some key) ∨
  ∃ f ∈ definition.functions, ∃ field ∈ f.input.fields ++ f.output.fields,
    field.foreignKey = some key

/-- What has been minted for a name is minted for a longer name too. -/
theorem Settings.Mints.append {settings : Settings} {id : String} (h : settings.Mints id)
    (suffix : String) : settings.Mints (id ++ suffix) := by
  obtain ⟨kind, name, rfl⟩ := h
  refine ⟨kind, name ++ suffix, ?_⟩
  unfold mintId
  cases settings.idPrefix? <;> simp only [String.append_assoc]

/-- All structures are accounted for once links have been made. -/
theorem Metadata.Typing.accounted_linked {settings : Settings} (typing : Typing settings) :
    typing.linked.Accounted settings := by
  intro id s hStructure
  rcases typing.linked_cases hStructure with ⟨a, _, _, _, _, _, rfl⟩ | rfl
  · exact .inr ⟨a.kind, a.name, rfl⟩
  · exact .inl (.record hStructure rfl)

namespace Derivation

variable {settings : Settings} {aliases : AliasTable} {navigations : List Navigation}

/-- Deriving a member keeps all structures accounted for. -/
theorem Derives.accounted {state next : Derivation} {node : MemberNode} {outcome : MemberOutcome}
    (h : Derives settings aliases navigations state node outcome next)
    (hDistinct : state.registry.Distinct) (hAccounted : state.registry.Accounted settings) :
    next.registry.Accounted settings := by
  have hBound : outcome.bound.Accounted settings := (hAccounted.extendFor _).named h.bound_eq
  obtain ⟨entity, hEntity, hNext, _⟩ := h.exists_entity hDistinct
  have hRetains : outcome.bound.Retains next.registry := hNext ▸ Registry.retains_append _ _
  refine hBound.grow hRetains fun id s hSize hNew => ?_
  have hExtension := h.mem_extensions hDistinct hEntity hSize hNew
  obtain ⟨suffix, hSuffix, hId⟩ := Member.id_of_mem_extensions hExtension
  rcases hBound _ entity hEntity with hBuiltIn | hMints
  · obtain ⟨_, hLater⟩ := hRetains.structure? hEntity
    exact .inl (.extension (hBuiltIn.later hRetains) hLater hNew
      (Member.base_and_fields_of_mem_extensions hExtension).1 hSuffix hId)
  · exact .inr (hId ▸ hMints.append suffix)

/-- A registry in which the origin of each type is known stays so while all members are derived. -/
theorem DerivesAll.accounted {state last : Derivation} {nodes : List MemberNode}
    {outcomes : List MemberOutcome}
    (h : DerivesAll settings aliases navigations state nodes outcomes last)
    (hDistinct : state.registry.Distinct) (hAccounted : state.registry.Accounted settings) :
    last.registry.Accounted settings := by
  induction h with
  | nil state => exact hAccounted
  | cons first rest ih => exact ih (first.distinct hDistinct) (first.accounted hDistinct hAccounted)

end Derivation

namespace Metadata.Reading

variable {settings : Settings} {document : Xml.Document} (reading : Reading settings document)

/-- In what a document defines, each structure is built in or its id has been minted. -/
theorem accounted_final : reading.final.registry.Accounted settings :=
  reading.derives.accounted reading.distinct_linked reading.accounted_linked

/-- The foreign key of a function leads to a structure, as do those of structures. -/
theorem exists_target_of_function {f : ServiceFunction} (hMem : f ∈ reading.final.functions)
    {field : Field} (hField : field ∈ f.input.fields ++ f.output.fields) {key : ForeignKey}
    (hKey : field.foreignKey = some key) :
    ∃ id s, reading.final.registry.structure? id = some s ∧ s.id = key.targetId := by
  rw [reading.derives.functions_eq, List.nil_append] at hMem
  obtain ⟨outcome, hOutcome, hFunction⟩ := List.mem_flatMap.1 hMem
  obtain ⟨node, _, before, after, hDerives, hDistinct, hSound, hRetains, _⟩ :=
    exists_left_of_forall₂
      (reading.derives.forall₂_retains reading.distinct_linked reading.linked_sound) hOutcome
  obtain ⟨entity, _, _, _, hFunctions⟩ := hDerives.exists_entity hDistinct
  obtain ⟨owner, hOwner, hSame⟩ :=
    Member.exists_key_of_mem_functionsAt (hFunctions ▸ hFunction) hField hKey
  obtain ⟨holder, s, hHolder, hOwned⟩ := Registry.exists_of_primaryKey? hOwner
  obtain ⟨_, _, _, _, target, t, _, hTarget, hId⟩ :=
    ((hDerives.bound_sound hSound).structures holder s hHolder).keys_sound owner hOwned key hSame
  obtain ⟨_, hLater⟩ := hRetains.structure? hTarget
  exact ⟨target, _, hLater, hId⟩

/-- All foreign keys name ids of structures. -/
theorem exists_target_of_key {location : Location} {key : ForeignKey}
    (h : (reading.definition location).HasKey key) :
    ∃ id s, reading.final.registry.structure? id = some s ∧ s.id = key.targetId := by
  rcases h with ⟨holder, s, hHolder, field, hField, hKey⟩ | ⟨f, hMem, field, hField, hKey⟩
  · obtain ⟨_, _, _, _, target, t, _, hTarget, hId⟩ :=
      (reading.final_sound.1.structures holder s hHolder).keys_sound field hField key hKey
    exact ⟨target, t, hTarget, hId⟩
  · exact reading.exists_target_of_function hMem hField hKey

end Metadata.Reading

end Csdl
