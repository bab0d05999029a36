import Csdl.Proofs.Commutation
import Csdl.Proofs.Metadata.Evaluation
import Csdl.Proofs.View.Registry

/-! Members seen through a view. If a view shows the extensions of each member as extensions of what
it shows of the member's type, it shows what is derived in a registry as what is derived in what it
shows of the registry. -/
namespace Csdl

namespace View

variable (view : View)

/-- What has been derived, through a view. -/
def ofDerived (state : Registry × List ServiceFunction) : Registry × List ServiceFunction :=
  (view.ofRegistry state.1, state.2.map view.ofFunction)

/-- What has been generated for a member, through a view. -/
def ofGenerated (made : List ServiceFunction × Registry) : List ServiceFunction × Registry :=
  (made.1.map view.ofFunction, view.ofRegistry made.2)

/-- The extensions of a member of some navigations and expansions are seen as its extensions of
others. -/
structure Fits (navigations navigations' : List Navigation) (expansions expansions' : List Expansion)
    (member : Member) : Prop where
  insert_eq : ∀ capabilities entity,
    Member.insertExtension navigations' capabilities member (view.ofStructure entity) =
      view.ofStructure (Member.insertExtension navigations capabilities member entity)
  select_eq : ∀ entity,
    Member.selectExtension navigations' expansions' member (view.ofStructure entity) =
      view.ofStructure (Member.selectExtension navigations expansions member entity)
  update_eq : ∀ capabilities entity,
    Member.updateExtension navigations' capabilities member (view.ofStructure entity) =
      view.ofStructure (Member.updateExtension navigations capabilities member entity)

end View

namespace Member

/-- Without expansions nothing is expanded. -/
theorem expandedFields_nil (navigations : List Navigation) (member : Member) (entity : Structure) :
    expandedFields navigations [] member entity = [] := by
  simp [expandedFields, expandedNames]

variable (view : View) (member : Member)

theorem createFunction_view (insert : TypeId) (key : Option Field) :
    member.createFunction insert (key.map view.ofField) =
      view.ofFunction (member.createFunction insert key) := by
  cases key <;> rfl

theorem listFunction_view (select : TypeId) (flags : CapabilityFlags) :
    member.listFunction select flags = view.ofFunction (member.listFunction select flags) := by
  obtain ⟨hInput, hOutput⟩ :=
    map_fields_listFunction (fun _ h => view.ofField_of_unmarked h.2) member select flags
  simp only [View.ofFunction, View.ofWrapper, hInput, hOutput]
  rfl

theorem keyFunctions_view (flags : CapabilityFlags) (select : TypeId) (key : Field) :
    member.keyFunctions flags select (view.ofField key) =
      (member.keyFunctions flags select key).map view.ofFunction := by
  rw [keyFunctions, keyFunctions, List.map_append, apply_ite (List.map _), apply_ite (List.map _)]
  rfl

theorem entityType_view (r : Registry) :
    member.entityType (view.ofRegistry r) = view.ofStructure <$> member.entityType r := by
  simp only [entityType, view.structure?_ofRegistry]
  cases r.structure? member.entity <;> rfl

/-- A function and its type are derived in what is seen as they are in the registry, if the function
is made alike. -/
theorem derive_view (wanted : Bool) (r : Registry) (extension : Structure)
    {make make' : TypeId → ServiceFunction} (h : ∀ id, make' id = view.ofFunction (make id)) :
    (derive wanted (view.ofRegistry r) (view.ofStructure extension) make').result =
      view.ofGenerated <$> (derive wanted r extension make).result := by
  cases wanted with
  | false => rfl
  | true =>
      simp only [derive, if_true, Logged.result_bind, Logged.result_pure, h,
        view.register_structured, bind_map_left, map_bind]
      rfl

/-- The functions that need a key are derived in what is seen as they are in the registry. -/
theorem deriveKeyed_view (flags : CapabilityFlags) (r : Registry) (select : TypeId)
    (update : Structure) (key : Option Field) :
    (member.deriveKeyed flags (view.ofRegistry r) select (view.ofStructure update)
        (key.map view.ofField)).result =
      view.ofGenerated <$> (member.deriveKeyed flags r select update key).result := by
  cases key with
  | none => rfl
  | some key =>
      have hDerive : (derive flags.updatable (view.ofRegistry r) (view.ofStructure update)
          fun id => member.updateFunction id (view.ofField key)).result = view.ofGenerated <$>
            (derive flags.updatable r update fun id => member.updateFunction id key).result :=
        derive_view view flags.updatable r update fun _ => rfl
      simp only [Option.map_some, deriveKeyed, Logged.result_bind, Logged.result_pure, map_bind,
        hDerive, bind_map_left, keyFunctions_view]
      refine bind_congr fun made => ?_
      simp only [View.ofGenerated, ← List.map_append]
      rfl

/-- What is generated for a member looks as if it had been generated from what is seen. -/
theorem generate_view {navigations navigations' : List Navigation}
    {expansions expansions' : List Expansion}
    (h : view.Fits navigations navigations' expansions expansions' member) (r : Registry)
    (capabilities : Capabilities) :
    (generate (view.ofRegistry r) navigations' expansions' member capabilities).result =
      view.ofGenerated <$> (generate r navigations expansions member capabilities).result := by
  have hCreate : ∀ entity, (derive capabilities.flags.insertable (view.ofRegistry r)
      (view.ofStructure (insertExtension navigations capabilities member entity))
      fun id => member.createFunction id ((r.primaryKey? member.entity).map view.ofField)).result =
        view.ofGenerated <$> (derive capabilities.flags.insertable r
          (insertExtension navigations capabilities member entity)
          fun id => member.createFunction id (r.primaryKey? member.entity)).result :=
    fun entity => derive_view view _ r _ fun id => member.createFunction_view view id _
  simp only [generate, Logged.result_bind, Logged.result_ofExcept, Logged.result_tell,
    Logged.result_pure, view.primaryKey?_ofRegistry, member.entityType_view view, bind_map_left,
    map_bind, h.insert_eq, h.select_eq, h.update_eq, hCreate]
  refine bind_congr fun entity => bind_congr fun created => ?_
  simp only [View.ofGenerated, view.register_structured, bind_map_left]
  refine bind_congr fun select => ?_
  simp only [member.deriveKeyed_view view, bind_map_left, View.ofGenerated]
  have hListed : ∀ id, (if capabilities.flags.listable then
      [member.listFunction id capabilities.flags] else []) =
        (if capabilities.flags.listable then
          [member.listFunction id capabilities.flags] else []).map view.ofFunction := by
    intro id
    rw [apply_ite (List.map _), List.map_singleton, ← listFunction_view]
    rfl
  refine bind_congr fun keyed => ?_
  refine congrArg Except.ok (Prod.ext ?_ rfl)
  rw [View.ofGenerated, List.map_append, List.map_append, ← hListed]

end Member

namespace Derivation

variable (view : View)

/-- A member is bound in what is seen to the same place as in the registry. -/
theorem bind_view (r : Registry) (aliases : AliasTable) (name reference : String) :
    bind (view.ofRegistry r) aliases name reference =
      (fun bound => (bound.1, view.ofRegistry bound.2)) <$> bind r aliases name reference := by
  simp only [bind, view.resolve_ofRegistry, bind_map_left, map_bind]
  refine bind_congr fun found => ?_
  obtain ⟨type, later⟩ := found
  cases type with
  | primitive kind => rfl
  | named id =>
      simp only [view.structure?_ofRegistry, Option.isSome_map]
      split <;> rfl

variable {settings settings' : Settings} {navigations navigations' : List Navigation}

/-- What is derived from a member looks as if it had been derived from what is seen. -/
theorem evaluate_view (aliases : AliasTable) {node : MemberNode}
    (h : ∀ name entity, node.node.attribute? "Name" = some name →
      view.Fits navigations navigations' settings.expansions settings'.expansions
        ⟨name, node.namespaceName, entity, node.kind⟩)
    (state : Registry × List ServiceFunction) :
    evaluate settings' aliases navigations' (view.ofDerived state) node =
      view.ofDerived <$> evaluate settings aliases navigations state node := by
  simp only [evaluate, View.ofDerived, bind_view, bind_map_left, map_bind]
  refine bind_congr_ok fun name hName => bind_congr fun reference => bind_congr fun bound => ?_
  have hFits := h name bound.1 (Markup.required_eq_ok.1 hName)
  have hEdit : (view.ofRegistry bound.2).edit bound.1
      (fun s => { s with collectionName := some name }) =
        view.ofRegistry <$> bound.2.edit bound.1 fun s => { s with collectionName := some name } :=
    view.edit_ofRegistry bound.2 bound.1 fun s => (view.collectionName_eq s _).symm
  simp only [hEdit, bind_map_left, Member.generate_view view _ hFits]
  refine bind_congr fun named => bind_congr fun made => ?_
  simp only [map_pure, View.ofDerived, View.ofGenerated, List.map_append]

end Derivation

end Csdl
