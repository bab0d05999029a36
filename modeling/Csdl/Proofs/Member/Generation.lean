import Csdl.Member.Functions
import Csdl.Proofs.Registry.Registration

/-! What a member of a container adds: its extensions at the end of the registry, and functions that
refer to them by their places. Generation fails only where the name of an extension is taken. -/
namespace Csdl.Member

open Query (bind_eq_ok)

/-- The extensions of a member, in the order in which they are registered. -/
def extensions (navigations : List Navigation) (expansions : List Expansion)
    (capabilities : Capabilities) (member : Member) (entity : Structure) (key : Option Field) :
    List Structure :=
  (if capabilities.flags.insertable then
    [insertExtension navigations capabilities member entity] else []) ++
  [selectExtension navigations expansions member entity] ++
  if capabilities.flags.updatable && key.isSome then
    [updateExtension navigations capabilities member entity] else []

/-- What the names of a member's extensions end in. -/
def suffixes (flags : CapabilityFlags) (keyed : Bool) : List String :=
  (if flags.insertable then ["Insert"] else []) ++ ["Select"] ++
    if flags.updatable && keyed then ["Update"] else []

theorem suffixes_sublist (flags : CapabilityFlags) (keyed : Bool) :
    (suffixes flags keyed).Sublist ["Insert", "Select", "Update"] := by
  unfold suffixes
  cases flags.insertable <;> cases (flags.updatable && keyed) <;> decide

/-- The functions of a member whose extensions begin at a place. -/
def functionsAt (member : Member) (flags : CapabilityFlags) (key : Option Field) (place : Nat) :
    List ServiceFunction :=
  let select := place + if flags.insertable then 1 else 0
  (if flags.insertable then [member.createFunction ⟨place⟩ key] else []) ++
  (if flags.listable then [member.listFunction ⟨select⟩ flags] else []) ++
  match key with
  | none => []
  | some key => member.keyFunctions flags ⟨select⟩ key ++
      if flags.updatable then [member.updateFunction ⟨select + 1⟩ key] else []

/-- Whether a member with given flags has a function for an operation. Its entities may have a
key. -/
def offers (flags : CapabilityFlags) (keyed : Bool) : Operation → Bool
  | .create => flags.insertable
  | .list => flags.listable
  | .get => flags.gettable && keyed
  | .delete => flags.deletable && keyed
  | .update => flags.updatable && keyed

/-- A member has one function for each operation that it offers, in the order of the operations. -/
theorem map_operation_functionsAt (member : Member) (flags : CapabilityFlags) (key : Option Field)
    (place : Nat) :
    (member.functionsAt flags key place).map (·.operation) =
      Operation.all.filter (offers flags key.isSome) := by
  -- the operations depend on these flags and on whether there is a key, and on nothing else
  obtain ⟨insertable, _, _, _, _, _, _, deletable, updatable, listable, gettable⟩ := flags
  cases key <;> cases insertable <;> cases listable <;> cases gettable <;> cases deletable <;>
    cases updatable <;> rfl

/-- The functions of a member, one by one. -/
theorem mem_functionsAt {member : Member} {flags : CapabilityFlags} {key : Option Field}
    {place : Nat} {f : ServiceFunction} :
    f ∈ member.functionsAt flags key place ↔
      (flags.insertable = true ∧ f = member.createFunction ⟨place⟩ key) ∨
      (flags.listable = true ∧
        f = member.listFunction ⟨place + if flags.insertable then 1 else 0⟩ flags) ∨
      ∃ field, key = some field ∧
        ((flags.gettable = true ∧
          f = member.getFunction ⟨place + if flags.insertable then 1 else 0⟩ field) ∨
        (flags.deletable = true ∧ f = member.deleteFunction field) ∨
        (flags.updatable = true ∧
          f = member.updateFunction ⟨place + (if flags.insertable then 1 else 0) + 1⟩ field)) := by
  cases key <;> simp [functionsAt, keyFunctions]

/-- A scalar that is no foreign key. -/
def IsPlain (field : Field) : Prop :=
  (∃ kind, field.type = .primitive kind) ∧ field.foreignKey = none

theorem forall_supported {P : Field → Prop} {options : List (Bool × Field)}
    (h : ∀ option ∈ options, P option.2) : ∀ field ∈ supported options, P field := by
  intro field hField
  obtain ⟨option, hOption, rfl⟩ := List.mem_map.1 hField
  exact h option (List.mem_filter.1 hOption).1

/-- All that a list takes is plain. -/
theorem plain_of_listInput (member : Member) (select : TypeId) (flags : CapabilityFlags) :
    ∀ field ∈ (member.listFunction select flags).input.fields, IsPlain field := by
  refine forall_supported ?_
  simp only [listOptions, List.forall_mem_cons, List.not_mem_nil, false_implies, implies_true,
    and_true]
  exact ⟨⟨⟨_, rfl⟩, rfl⟩, ⟨⟨_, rfl⟩, rfl⟩, ⟨⟨_, rfl⟩, rfl⟩, ⟨⟨_, rfl⟩, rfl⟩, ⟨⟨_, rfl⟩, rfl⟩,
    ⟨⟨_, rfl⟩, rfl⟩⟩

/-- All that a list gives behind the entities is plain. -/
theorem plain_of_listOutput (member : Member) (select : TypeId) (flags : CapabilityFlags) :
    ∀ field ∈ (member.listFunction select flags).output.fields.tail, IsPlain field :=
  forall_supported (List.forall_mem_singleton.2 ⟨⟨_, rfl⟩, rfl⟩)

/-- A change of fields that leaves plain ones alone changes nothing but the field of the entities
that a list gives. -/
theorem map_fields_listFunction {change : Field → Field}
    (hPlain : ∀ field, IsPlain field → change field = field) (member : Member) (select : TypeId)
    (flags : CapabilityFlags) :
    (member.listFunction select flags).input.fields.map change =
        (member.listFunction select flags).input.fields ∧
      (member.listFunction select flags).output.fields.map change =
        change ((Field.ofType "results" select).asUnbounded.withWireName "value") ::
          (member.listFunction select flags).output.fields.tail := by
  have hSame : ∀ fields : List Field, (∀ field ∈ fields, IsPlain field) →
      fields.map change = fields := fun fields hFields =>
    (List.map_congr_left fun field hField => hPlain field (hFields field hField)).trans fields.map_id
  exact ⟨hSame _ (plain_of_listInput member select flags),
    congrArg (_ :: ·) (hSame _ (plain_of_listOutput member select flags))⟩

/-- The fields of a function that lists entities have no foreign keys. -/
theorem unmarked_of_listFunction (member : Member) (select : TypeId) (flags : CapabilityFlags) :
    ∀ field ∈ (member.listFunction select flags).input.fields ++
      (member.listFunction select flags).output.fields, field.foreignKey = none := by
  intro field hField
  rcases List.mem_append.1 hField with hInput | hOutput
  · exact (plain_of_listInput member select flags field hInput).2
  · rcases List.mem_cons.1 hOutput with rfl | hCount
    · rfl
    · exact (plain_of_listOutput member select flags field hCount).2

/-- The foreign keys that the functions of a member carry are those of its key. -/
theorem exists_key_of_mem_functionsAt {member : Member} {flags : CapabilityFlags}
    {key : Option Field} {place : Nat} {f : ServiceFunction}
    (h : f ∈ member.functionsAt flags key place) {field : Field}
    (hField : field ∈ f.input.fields ++ f.output.fields) {mark : ForeignKey}
    (hMark : field.foreignKey = some mark) :
    ∃ owner, key = some owner ∧ owner.foreignKey = some mark := by
  have hMarked : field.foreignKey ≠ none := hMark ▸ Option.some_ne_none mark
  have hOwn : ∀ {owner : Field}, field = owner.asRequired → owner.foreignKey = some mark := by
    rintro owner rfl
    exact hMark
  rw [mem_functionsAt] at h
  rcases h with ⟨_, rfl⟩ | ⟨_, rfl⟩ | ⟨owner, hKey, ⟨_, rfl⟩ | ⟨_, rfl⟩ | ⟨_, rfl⟩⟩
  · rcases List.mem_cons.1 hField with rfl | hOutput
    · exact absurd rfl hMarked
    · exact ⟨field, Option.mem_toList.1 hOutput, hMark⟩
  · exact absurd (unmarked_of_listFunction member _ flags field hField) hMarked
  · rcases List.mem_cons.1 hField with hInput | hOutput
    · exact ⟨owner, hKey, hOwn hInput⟩
    · exact absurd (List.mem_singleton.1 hOutput ▸ rfl) hMarked
  · exact ⟨owner, hKey, hOwn (List.mem_singleton.1 hField)⟩
  · rcases List.mem_cons.1 hField with hInput | hUpdate
    · exact ⟨owner, hKey, hOwn hInput⟩
    · exact absurd (List.mem_singleton.1 hUpdate ▸ rfl) hMarked

/-- A wanted extension is registered, and its function refers to its place. -/
theorem derive_eq_ok {wanted : Bool} {r r' : Registry} {extension : Structure}
    {make : TypeId → ServiceFunction} {functions : List ServiceFunction} :
    (derive wanted r extension make).result = .ok (functions, r') ↔
      r.Registers (if wanted then [.structured extension] else []) r' ∧
        functions = if wanted then [make r.nextId] else [] := by
  cases wanted with
  | false =>
      simp only [derive, Bool.false_eq_true, if_false, Logged.result_pure, Except.ok.injEq,
        Prod.mk.injEq, Registry.registers_nil]
      constructor
      · rintro ⟨rfl, rfl⟩
        exact ⟨rfl, rfl⟩
      · rintro ⟨rfl, rfl⟩
        exact ⟨rfl, rfl⟩
  | true =>
      simp only [derive, if_true, Logged.result_bind, Logged.result_pure, bind_eq_ok,
        Registry.registers_singleton]
      constructor
      · rintro ⟨⟨id, next⟩, hRegister, hEq⟩
        obtain ⟨hFresh, rfl, rfl⟩ := Registry.register_eq_ok.1 hRegister
        cases hEq
        exact ⟨⟨hFresh, rfl⟩, rfl⟩
      · rintro ⟨⟨hFresh, rfl⟩, rfl⟩
        exact ⟨(r.nextId, _), Registry.register_eq_ok.2 ⟨hFresh, rfl, rfl⟩, rfl⟩

theorem entityType_eq_ok {member : Member} {r : Registry} {entity : Structure} :
    member.entityType r = .ok entity ↔ r.structure? member.entity = some entity := by
  unfold entityType
  cases r.structure? member.entity <;> simp

/-- The functions that need a key are derived exactly if the type for updates can be registered
where one is wanted; without a key there are none. -/
theorem deriveKeyed_eq_ok {member : Member} {flags : CapabilityFlags} {r r' : Registry}
    {select : TypeId} {update : Structure} {key : Option Field}
    {functions : List ServiceFunction} :
    (member.deriveKeyed flags r select update key).result = .ok (functions, r') ↔
      r.Registers (if flags.updatable && key.isSome then [.structured update] else []) r' ∧
        functions = match key with
          | none => []
          | some key => member.keyFunctions flags select key ++
              if flags.updatable then [member.updateFunction r.nextId key] else [] := by
  cases key with
  | none =>
      simp only [deriveKeyed, Logged.result_pure, Except.ok.injEq, Prod.mk.injEq, Option.isSome_none,
        Bool.and_false, Bool.false_eq_true, if_false, Registry.registers_nil]
      constructor
      · rintro ⟨rfl, rfl⟩
        exact ⟨rfl, rfl⟩
      · rintro ⟨rfl, rfl⟩
        exact ⟨rfl, rfl⟩
  | some key =>
      simp only [deriveKeyed, Logged.result_bind, Logged.result_pure, bind_eq_ok,
        Option.isSome_some, Bool.and_true]
      constructor
      · rintro ⟨⟨updated, next⟩, hDerive, hEq⟩
        cases hEq
        obtain ⟨hUpdate, rfl⟩ := derive_eq_ok.1 hDerive
        exact ⟨hUpdate, rfl⟩
      · rintro ⟨hUpdate, rfl⟩
        exact ⟨(_, r'), derive_eq_ok.2 ⟨hUpdate, rfl⟩, rfl⟩

/-- Generation registers exactly the extensions, and it succeeds exactly if their names are free. -/
theorem generate_eq_ok_iff_registers {r r' : Registry} {navigations : List Navigation}
    {expansions : List Expansion} {member : Member} {capabilities : Capabilities}
    {functions : List ServiceFunction} :
    (generate r navigations expansions member capabilities).result = .ok (functions, r') ↔
      ∃ entity, r.structure? member.entity = some entity ∧
        r.Registers ((extensions navigations expansions capabilities member entity
          (r.primaryKey? member.entity)).map .structured) r' ∧
        functions = member.functionsAt capabilities.flags (r.primaryKey? member.entity) r.size := by
  generalize hKey : r.primaryKey? member.entity = key
  simp only [generate, Logged.result_bind, Logged.result_ofExcept, Logged.result_tell,
    Logged.result_pure, bind_eq_ok, entityType_eq_ok, hKey]
  -- the three steps in which the extensions are registered
  have hSteps : ∀ entity, r.Registers ((extensions navigations expansions capabilities member entity
      key).map .structured) r' ↔ ∃ inserted,
        r.Registers (if capabilities.flags.insertable then
          [.structured (insertExtension navigations capabilities member entity)] else []) inserted ∧
        inserted.lookup member.namespaceName (member.name ++ "Select") = none ∧
        (inserted.push (.structured (selectExtension navigations expansions member entity))).Registers
          (if capabilities.flags.updatable && key.isSome then
            [.structured (updateExtension navigations capabilities member entity)] else []) r' := by
    intro entity
    have hMap : ∀ (wanted : Bool) (extension : Structure),
        (if wanted then [extension] else []).map NamedType.structured =
          if wanted then [.structured extension] else [] := by
      intro wanted extension
      cases wanted <;> rfl
    rw [extensions, List.map_append, List.map_append, hMap, hMap, Registry.registers_append]
    simp only [Registry.registers_append, List.map_cons, List.map_nil, Registry.registers_singleton]
    constructor
    · rintro ⟨_, ⟨inserted, hInsert, hFree, rfl⟩, hUpdate⟩
      exact ⟨inserted, hInsert, hFree, hUpdate⟩
    · rintro ⟨inserted, hInsert, hFree, hUpdate⟩
      exact ⟨_, ⟨inserted, hInsert, hFree, rfl⟩, hUpdate⟩
  -- the places of the extensions are counted from the size of the registry before them
  have hPlace : ∀ {inserted : Registry} {extension : NamedType},
      r.Registers (if capabilities.flags.insertable then [extension] else []) inserted →
        inserted.nextId = ⟨r.size + if capabilities.flags.insertable then 1 else 0⟩ := by
    intro inserted extension hInsert
    rw [hInsert.eq_append, Registry.nextId, Registry.size_append]
    cases capabilities.flags.insertable <;> rfl
  have hNext : ∀ (later : Registry) (type : NamedType),
      (later.push type).nextId = ⟨later.nextId.index + 1⟩ := fun later type => by
    simp [Registry.nextId]
  constructor
  · rintro ⟨entity, hEntity, ⟨created, inserted⟩, hCreated, ⟨select, selected⟩, hSelect,
      ⟨keyed, updated⟩, hKeyed, _, _, hEq⟩
    cases hEq
    obtain ⟨hInsert, rfl⟩ := derive_eq_ok.1 hCreated
    obtain ⟨hFree, rfl, rfl⟩ := Registry.register_eq_ok.1 hSelect
    obtain ⟨hUpdate, rfl⟩ := deriveKeyed_eq_ok.1 hKeyed
    refine ⟨entity, hEntity, (hSteps entity).2 ⟨inserted, hInsert, hFree, hUpdate⟩, ?_⟩
    rw [hNext, hPlace hInsert]
    rfl
  · rintro ⟨entity, hEntity, hRegisters, rfl⟩
    obtain ⟨inserted, hInsert, hFree, hUpdate⟩ := (hSteps entity).1 hRegisters
    refine ⟨entity, hEntity, (_, inserted), derive_eq_ok.2 ⟨hInsert, rfl⟩, (_, _),
      Registry.register_eq_ok.2 ⟨hFree, rfl, rfl⟩, (_, r'), deriveKeyed_eq_ok.2 ⟨hUpdate, rfl⟩, (),
      trivial, ?_⟩
    rw [hNext, hPlace hInsert]
    rfl

/-- Among distinct types, generation adds exactly the extensions, and it succeeds exactly if they
leave the types distinct. -/
theorem generate_eq_ok {r r' : Registry} (hDistinct : r.Distinct) {navigations : List Navigation}
    {expansions : List Expansion} {member : Member} {capabilities : Capabilities}
    {functions : List ServiceFunction} :
    (generate r navigations expansions member capabilities).result = .ok (functions, r') ↔
      ∃ entity, r.structure? member.entity = some entity ∧
        r' = r.append ((extensions navigations expansions capabilities member entity
          (r.primaryKey? member.entity)).map .structured) ∧ r'.Distinct ∧
        functions = member.functionsAt capabilities.flags (r.primaryKey? member.entity) r.size := by
  simp only [generate_eq_ok_iff_registers, hDistinct.registers_iff, and_assoc]

theorem length_extensions (navigations : List Navigation) (expansions : List Expansion)
    (capabilities : Capabilities) (member : Member) (entity : Structure) (key : Option Field) :
    (extensions navigations expansions capabilities member entity key).length =
      capabilities.flags.insertable.toNat + 1 +
        (capabilities.flags.updatable && key.isSome).toNat := by
  unfold extensions
  cases capabilities.flags.insertable <;> cases capabilities.flags.updatable && key.isSome <;> rfl

/-- What is expanded are fields of navigations, noted as duplicates. -/
theorem exists_navigation_of_mem_expandedFields {navigations : List Navigation}
    {expansions : List Expansion} {member : Member} {entity : Structure} {field : Field}
    (h : field ∈ expandedFields navigations expansions member entity) :
    ∃ n ∈ navigations, field = { n.field with duplicate := true } := by
  obtain ⟨n, hExpanded, rfl⟩ := List.mem_map.1 h
  exact ⟨n, (List.mem_filter.1 (List.mem_filter.1 hExpanded).1).1, rfl⟩

/-- What is written besides own fields comes from navigations: the types that they contain, and the
ids that they bind. -/
theorem mem_payloadExtension {navigations : List Navigation} {capabilities : Capabilities}
    {member : Member} {entity : Structure} {suffix : String}
    {properties navigationNames : List String} {field : Field}
    (h : field ∈ (payloadExtension navigations capabilities member entity suffix
      properties navigationNames).fields) :
    (∃ n ∈ navigations, field.type = n.field.type ∧ field.foreignKey = n.field.foreignKey) ∨
      ∃ n, field = bindField n := by
  obtain ⟨n, hWritten, hField⟩ := List.mem_flatMap.1 h
  have hMem : n ∈ navigations := (List.mem_filter.1 (List.mem_filter.1 hWritten).1).1
  simp only [writtenFields, List.mem_cons, List.not_mem_nil, or_false] at hField
  rcases hField with rfl | rfl
  · exact .inl ⟨n, hMem, rfl, rfl⟩
  · exact .inr ⟨n, rfl⟩

/-- The extensions of a member, one by one. -/
theorem eq_of_mem_extensions {navigations : List Navigation} {expansions : List Expansion}
    {capabilities : Capabilities} {member : Member} {entity : Structure} {key : Option Field}
    {s : Structure} (h : s ∈ extensions navigations expansions capabilities member entity key) :
    s = insertExtension navigations capabilities member entity ∨
      s = selectExtension navigations expansions member entity ∨
      s = updateExtension navigations capabilities member entity := by
  simp only [extensions, List.append_assoc, List.mem_append, List.mem_ite_nil_right,
    List.mem_singleton] at h
  exact h.imp And.right (Or.imp_right And.right)

/-- Extensions have the type of the member as base, and fields that navigations or bindings give. -/
theorem base_and_fields_of_mem_extensions {navigations : List Navigation}
    {expansions : List Expansion} {capabilities : Capabilities} {member : Member}
    {entity : Structure} {key : Option Field} {s : Structure}
    (h : s ∈ extensions navigations expansions capabilities member entity key) :
    s.base = some member.entity ∧ ∀ field ∈ s.fields,
      (∃ n ∈ navigations, field.type = n.field.type ∧ field.foreignKey = n.field.foreignKey) ∨
        ∃ n, field = bindField n := by
  rcases eq_of_mem_extensions h with rfl | rfl | rfl
  · exact ⟨rfl, fun field hField => mem_payloadExtension hField⟩
  · refine ⟨rfl, fun field hField => .inl ?_⟩
    obtain ⟨n, hMem, rfl⟩ := exists_navigation_of_mem_expandedFields hField
    exact ⟨n, hMem, rfl, rfl⟩
  · exact ⟨rfl, fun field hField => mem_payloadExtension hField⟩

/-- Extensions have the id of what they extend, with a suffix. -/
theorem id_of_mem_extensions {navigations : List Navigation} {expansions : List Expansion}
    {capabilities : Capabilities} {member : Member} {entity : Structure} {key : Option Field}
    {s : Structure} (h : s ∈ extensions navigations expansions capabilities member entity key) :
    ∃ suffix ∈ ["Insert", "Select", "Update"], s.id = entity.id ++ suffix := by
  rcases eq_of_mem_extensions h with rfl | rfl | rfl
  · exact ⟨"Insert", by simp, rfl⟩
  · exact ⟨"Select", by simp, rfl⟩
  · exact ⟨"Update", by simp, rfl⟩

end Csdl.Member
