import Csdl.Proofs.Member.Generation
import Csdl.Proofs.Registry.Subtype

/-! What generation gives for a member of a container, told by its flags and by the key of its
entities: which functions there are, what each takes and gives, and the types that are registered for
them, each a subtype of the type that the member is bound to. -/
namespace Csdl.Member

/-- What a list takes: the options whose flags are set. -/
def listInput (flags : CapabilityFlags) : List Field :=
  (if flags.searchable then [{ name := "search", type := .primitive .string }] else []) ++
  (if flags.filterable then [{ name := "filter", type := .primitive .string }] else []) ++
  (if flags.sortable then
    [{ name := "orderBy", type := .primitive .string, cardinality := .unbounded }] else []) ++
  (if flags.topSupported then [{ name := "limit", type := .primitive .int32 }] else []) ++
  (if flags.skipSupported then [{ name := "offset", type := .primitive .int64 }] else []) ++
  (if flags.countSupported then [{ name := "totalCount", type := .primitive .boolean }] else [])

/-- How the operations on a member are invoked, whether they change something, and what they take and
give. The types that are read and written are found by their names. -/
inductive Signature (r : Registry) (member : Member) (flags : CapabilityFlags)
    (key : Option Field) : Operation → Method → Bool → List Field → List Field → Prop where
  | create {insert : TypeId}
      (hInsert : r.lookup member.namespaceName (member.name ++ "Insert") = some insert) :
      Signature r member flags key .create .post true
        [{ name := "create", type := .named insert, required := true }] key.toList
  | list {select : TypeId}
      (hSelect : r.lookup member.namespaceName (member.name ++ "Select") = some select) :
      Signature r member flags key .list .get false (listInput flags)
        ({ name := "results", type := .named select, cardinality := .unbounded,
           wireName := some "value" } ::
          if flags.countSupported then
            [{ name := "count", type := .primitive .int64, wireName := some "@odata.count" }] else [])
  | get {select : TypeId} {field : Field} (hKey : key = some field)
      (hSelect : r.lookup member.namespaceName (member.name ++ "Select") = some select) :
      Signature r member flags key .get .get false [{ field with required := true }]
        [{ name := "result", type := .named select, required := false }]
  | delete {field : Field} (hKey : key = some field) :
      Signature r member flags key .delete .delete true [{ field with required := true }] []
  | update {update : TypeId} {field : Field} (hKey : key = some field)
      (hUpdate : r.lookup member.namespaceName (member.name ++ "Update") = some update) :
      Signature r member flags key .update .patch true
        [{ field with required := true },
         { name := "update", type := .named update, required := true }] []

/-- What generation makes of a registry: functions, and types behind those that were there. -/
structure Generated (r r' : Registry) (member : Member) (flags : CapabilityFlags)
    (entity : Structure) (key : Option Field) (functions : List ServiceFunction) : Prop where
  operations_eq : functions.map (·.operation) = Operation.all.filter (offers flags key.isSome)
  signature : ∀ f ∈ functions, f.context = member.name ∧
    f.input = .anonymous "input" f.input.fields ∧ f.output = .anonymous "output" f.output.fields ∧
    Signature r' member flags key f.operation f.method f.isAction f.input.fields f.output.fields
  registered : ∃ added : List Structure, r' = r.append (added.map .structured) ∧
    added.map (fun s => (s.namespaceName, s.name, s.id, s.base)) =
      (suffixes flags key.isSome).map fun suffix =>
        (member.namespaceName, member.name ++ suffix, entity.id ++ suffix, some member.entity)
  /-- Each name was free before, and leads to the type registered under it now. -/
  lookup_eq : ∀ i suffix, (suffixes flags key.isSome)[i]? = some suffix →
    r.lookup member.namespaceName (member.name ++ suffix) = none ∧
      r'.lookup member.namespaceName (member.name ++ suffix) = some ⟨r.size + i⟩
  subtype : ∀ id : TypeId, r.size ≤ id.index → id.index < r'.size →
    r'.isSubtypeOf id member.entity = true

/-- The names, ids and bases of a member's extensions. -/
theorem map_heading_extensions (navigations : List Navigation) (expansions : List Expansion)
    (capabilities : Capabilities) (member : Member) (entity : Structure) (key : Option Field) :
    (extensions navigations expansions capabilities member entity key).map
        (fun s => (s.namespaceName, s.name, s.id, s.base)) =
      (suffixes capabilities.flags key.isSome).map fun suffix =>
        (member.namespaceName, member.name ++ suffix, entity.id ++ suffix, some member.entity) := by
  unfold extensions suffixes
  cases capabilities.flags.insertable <;>
    cases (capabilities.flags.updatable && key.isSome) <;> rfl

theorem supported_listOptions (flags : CapabilityFlags) :
    supported (listOptions flags) = listInput flags := by
  obtain ⟨_, searchable, filterable, sortable, skip, top, count, _, _, _, _⟩ := flags
  cases searchable <;> cases filterable <;> cases sortable <;> cases skip <;> cases top <;>
    cases count <;> rfl

section Registered

variable {r r' : Registry} {navigations : List Navigation} {expansions : List Expansion}
  {capabilities : Capabilities} {member : Member} {entity : Structure} {key : Option Field}
  (h : r.Registers ((extensions navigations expansions capabilities member entity key).map
    .structured) r')

include h

/-- An extension is found by its name at its place, and its name was free. -/
theorem lookup_suffix {i : Nat} {suffix : String}
    (hSuffix : (suffixes capabilities.flags key.isSome)[i]? = some suffix) :
    r.lookup member.namespaceName (member.name ++ suffix) = none ∧
      r'.lookup member.namespaceName (member.name ++ suffix) = some ⟨r.size + i⟩ := by
  have hHeading := congrArg (·[i]?) (map_heading_extensions navigations expansions capabilities
    member entity key)
  simp only [List.getElem?_map, hSuffix, Option.map_some, Option.map_eq_some_iff] at hHeading
  obtain ⟨extension, hExtension, hEq⟩ := hHeading
  simp only [Prod.mk.injEq] at hEq
  obtain ⟨hSpace, hName, _⟩ := hEq
  have hPlace : ((extensions navigations expansions capabilities member entity key).map
      NamedType.structured)[i]? = some (.structured extension) := by
    rw [List.getElem?_map, hExtension]
    rfl
  have hFound := h.lookup hPlace
  rwa [NamedType.namespaceName, NamedType.name, hSpace, hName] at hFound

/-- What is registered for a member is a subtype of its type. -/
theorem isSubtypeOf_registered {id : TypeId} (hOld : r.size ≤ id.index)
    (hNew : id.index < r'.size) : r'.isSubtypeOf id member.entity = true := by
  obtain ⟨type, hType⟩ := Registry.exists_get?_of_lt hNew
  have hHere := hType
  rw [h.eq_append, Registry.get?_append_of_le hOld, List.getElem?_map,
    Option.map_eq_some_iff] at hHere
  obtain ⟨extension, hExtension, rfl⟩ := hHere
  have hBase : r'.base? id = some member.entity := by
    rw [Registry.base?, Registry.structure?_eq_some.2 hType]
    exact (base_and_fields_of_mem_extensions (List.mem_of_getElem? hExtension)).1
  exact Registry.isSubtypeOf_eq_true_iff.2 (.single hBase)

/-- Each function of a member refers to the extensions by their places, where their names lead. -/
theorem signature_of_mem_functionsAt {f : ServiceFunction}
    (hMem : f ∈ member.functionsAt capabilities.flags key r.size) :
    f.context = member.name ∧ f.input = .anonymous "input" f.input.fields ∧
      f.output = .anonymous "output" f.output.fields ∧
      Signature r' member capabilities.flags key f.operation f.method f.isAction f.input.fields
        f.output.fields := by
  have hSelect : (suffixes capabilities.flags key.isSome)[if capabilities.flags.insertable then 1
      else 0]? = some "Select" := by
    unfold suffixes
    cases capabilities.flags.insertable <;> rfl
  rcases mem_functionsAt.1 hMem with ⟨hInsertable, rfl⟩ | ⟨_, rfl⟩ |
    ⟨field, hKey, ⟨_, rfl⟩ | ⟨_, rfl⟩ | ⟨hUpdatable, rfl⟩⟩
  · have hInsert : (suffixes capabilities.flags key.isSome)[0]? = some "Insert" := by
      rw [suffixes, hInsertable]
      rfl
    exact ⟨rfl, rfl, rfl, .create (lookup_suffix h hInsert).2⟩
  · refine ⟨rfl, rfl, rfl, ?_⟩
    have hList : Signature r' member capabilities.flags key .list .get false _ _ :=
      .list (lookup_suffix h hSelect).2
    have hCount : ∀ (wanted : Bool) (field : Field),
        supported [(wanted, field)] = if wanted then [field] else [] := by
      intro wanted field
      cases wanted <;> rfl
    rw [← supported_listOptions, ← hCount] at hList
    exact hList
  · exact ⟨rfl, rfl, rfl, .get hKey (lookup_suffix h hSelect).2⟩
  · exact ⟨rfl, rfl, rfl, .delete hKey⟩
  · have hUpdate : (suffixes capabilities.flags key.isSome)[(if capabilities.flags.insertable then 1
        else 0) + 1]? = some "Update" := by
      rw [suffixes, hUpdatable, hKey]
      cases capabilities.flags.insertable <;> rfl
    refine ⟨rfl, rfl, rfl, .update hKey ?_⟩
    rw [(lookup_suffix h hUpdate).2, Nat.add_assoc]

end Registered

/-- If generation for a member that is bound to a structure succeeds, it gives exactly the functions
that its flags and the key of its entities allow, and registers exactly the types that these refer
to, in their order. -/
theorem generated_of_generate {r r' : Registry} {navigations : List Navigation}
    {expansions : List Expansion} {member : Member} {capabilities : Capabilities}
    {entity : Structure} (hEntity : r.structure? member.entity = some entity)
    {functions : List ServiceFunction}
    (h : (generate r navigations expansions member capabilities).result = .ok (functions, r')) :
    Generated r r' member capabilities.flags entity (r.primaryKey? member.entity) functions := by
  obtain ⟨found, hFound, hRegisters, rfl⟩ := generate_eq_ok_iff_registers.1 h
  obtain rfl : found = entity := Option.some.inj (hFound.symm.trans hEntity)
  exact {
    operations_eq := map_operation_functionsAt ..
    signature := fun f hMem => signature_of_mem_functionsAt hRegisters hMem
    registered := ⟨_, hRegisters.eq_append, map_heading_extensions ..⟩
    lookup_eq := fun i suffix hSuffix => lookup_suffix hRegisters hSuffix
    subtype := fun id hOld hNew => isSubtypeOf_registered hRegisters hOld hNew }

/-- A product with a number as its key. -/
def sampleProduct : Structure where
  namespaceName := "Shop"
  name := "Product"
  id := "entities.Product"
  fields := [{ name := "number", type := .primitive .int32, primaryKey := true }]

/-- The set of products in the container of a service. -/
def sampleProducts : Member where
  name := "Products"
  namespaceName := "Service"
  entity := ⟨0⟩
  kind := .entitySet

/-- Products that cannot be deleted or filtered have four functions, and three types behind their
own. -/
theorem generated_of_products :
    ∃ functions r', (generate ⟨#[.structured sampleProduct]⟩ [] [] sampleProducts
        { flags := { deletable := false, filterable := false } }).result = .ok (functions, r') ∧
      functions.map (·.operation) = [.create, .list, .get, .update] ∧
      r'.lookup "Service" "ProductsUpdate" = some ⟨3⟩ ∧ r'.isSubtypeOf ⟨3⟩ ⟨0⟩ = true ∧
      Generated ⟨#[.structured sampleProduct]⟩ r' sampleProducts
        { deletable := false, filterable := false } sampleProduct sampleProduct.fields.head?
        functions := by
  obtain ⟨⟨functions, r'⟩, hMade⟩ : ∃ made, (generate ⟨#[.structured sampleProduct]⟩ [] []
      sampleProducts
        { flags := { deletable := false, filterable := false } }).result.toOption = some made :=
    Option.isSome_iff_exists.1 (by decide +kernel)
  have hGenerate := toOption_eq_some.1 hMade
  have hGenerated := generated_of_generate rfl hGenerate
  have hSize : r'.size = 4 := by
    obtain ⟨added, rfl, hAdded⟩ := hGenerated.registered
    rw [Registry.size_append, List.length_map, ← List.length_map, hAdded]
    rfl
  exact ⟨functions, r', hGenerate, hGenerated.operations_eq,
    (hGenerated.lookup_eq 2 "Update" rfl).2,
    hGenerated.subtype ⟨3⟩ (by decide) (by rw [hSize]; decide), hGenerated⟩

end Csdl.Member
