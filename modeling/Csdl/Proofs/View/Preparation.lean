import Csdl.Proofs.Metadata.Evaluation
import Csdl.Proofs.Metadata.Integrity
import Csdl.Proofs.View.Content
import Csdl.Proofs.View.Members

/-! Documents seen through a view that shows the fields of structures. If other settings announce
each structure as what is seen of it, they prepare what is seen of the registry, and the navigations
stay the same. If members fit as well, they define what is seen of the definition. -/
namespace Csdl

namespace View

variable (view : View)

/-- What has been announced, through a view. -/
def ofAnnounced (state : Registry × List Declaration) : Registry × List Declaration :=
  (view.ofRegistry state.1, state.2)

/-- What members are derived from, through a view. -/
def ofPrepared (prepared : List Schema × Registry × List Navigation) :
    List Schema × Registry × List Navigation :=
  (prepared.1, view.ofRegistry prepared.2.1, prepared.2.2)

/-- A navigation through a view. -/
def ofNavigation (navigation : Navigation) : Navigation :=
  { navigation with
    field := view.ofField navigation.field
    updateMapping := navigation.updateMapping.map view.ofWrapper }

/-- A definition through a view. -/
def ofDefinition (definition : Definition) : Definition :=
  { definition with
    registry := view.ofRegistry definition.registry
    functions := definition.functions.map view.ofFunction
    navigations := definition.navigations.map view.ofNavigation }

/-- Some settings announce what is seen of what others announce. -/
def Announces (settings settings' : Settings) : Prop :=
  ∀ (schema : Schema) kind name,
    schema.stub settings' kind name = view.ofStructure (schema.stub settings kind name)

end View

namespace Schema

variable {view : View}

/-- An enumeration is registered in what is seen as it is in the registry. -/
theorem registerEnumeration_view (schema : Schema) (r : Registry) (node : Xml.Node) :
    (schema.registerEnumeration (view.ofRegistry r) node).result =
      view.ofRegistry <$> (schema.registerEnumeration r node).result := by
  have hRegister : ∀ value, ((view.ofRegistry r).register (.enumeration value)).result =
      (fun made => (made.1, view.ofRegistry made.2)) <$> (r.register (.enumeration value)).result :=
    fun value => view.register_ofRegistry r (.enumeration value)
  simp only [registerEnumeration, Logged.result_bind, Logged.result_ofExcept, Logged.result_tell,
    Logged.result_pure, hRegister, bind_map_left, map_bind]
  rfl

theorem registerEnumerations_view (r : Registry) (schema : Schema) :
    (registerEnumerations (view.ofRegistry r) schema).result =
      view.ofRegistry <$> (registerEnumerations r schema).result := by
  rw [registerEnumerations, registerEnumerations, Logged.result_foldlM, Logged.result_foldlM]
  exact foldlM_comm (fun r node _ => registerEnumeration_view schema r node) r

variable {settings settings' : Settings}

/-- A structure is announced in what is seen as it is in the registry, under settings that announce
what is seen. -/
theorem announce_view (hAnnounces : view.Announces settings settings') (schema : Schema)
    (state : Registry × List Declaration) (declared : StructureKind × Xml.Node) :
    (schema.announce settings' (view.ofAnnounced state) declared).result =
      view.ofAnnounced <$> (schema.announce settings state declared).result := by
  simp only [announce, View.ofAnnounced, hAnnounces schema, view.register_structured,
    Logged.result_bind, Logged.result_ofExcept, Logged.result_tell, Logged.result_pure,
    bind_map_left, map_bind]
  rfl

theorem announceAll_view (hAnnounces : view.Announces settings settings')
    (state : Registry × List Declaration) (schema : Schema) :
    (announceAll settings' (view.ofAnnounced state) schema).result =
      view.ofAnnounced <$> (announceAll settings state schema).result := by
  rw [announceAll, announceAll, Logged.result_foldlM, Logged.result_foldlM]
  exact foldlM_comm (fun state declared _ => announce_view hAnnounces schema state declared) state

end Schema

namespace Metadata

variable {view : View} {settings settings' : Settings}

/-- What is declared is seen as it is declared under the other settings. -/
theorem declare_view (hAnnounces : view.Announces settings settings') (schemas : List Schema) :
    (declare settings' schemas).result = view.ofAnnounced <$> (declare settings schemas).result := by
  have hEnumerations : schemas.foldlM (fun r schema =>
      (Schema.registerEnumerations r schema).result) (view.ofRegistry {}) = view.ofRegistry <$>
        schemas.foldlM (fun r schema => (Schema.registerEnumerations r schema).result) {} :=
    foldlM_comm (fun r schema _ => Schema.registerEnumerations_view r schema) {}
  have hStructures : ∀ r, schemas.foldlM (fun state schema =>
      (Schema.announceAll settings' state schema).result) (view.ofAnnounced (r, [])) =
        view.ofAnnounced <$> schemas.foldlM (fun state schema =>
          (Schema.announceAll settings state schema).result) (r, []) := fun r =>
    foldlM_comm (fun state schema _ => Schema.announceAll_view hAnnounces state schema) (r, [])
  simp only [declare, Logged.result_bind, Logged.result_foldlM, Logged.result_tell,
    Logged.result_pure, map_bind]
  conv_lhs => rw [← view.ofRegistry_empty, hEnumerations, bind_map_left]
  refine bind_congr fun r => ?_
  have hStart : (view.ofRegistry r, []) = view.ofAnnounced (r, []) := rfl
  rw [hStart, hStructures, bind_map_left]
  rfl

/-- Structures are completed to what is seen of them, with the same navigations. -/
theorem complete_view (hView : view.ShowsFields) (aliases : AliasTable) (stubs : Registry)
    (declarations : List Declaration) :
    (complete aliases (view.ofRegistry stubs) declarations).result =
      (fun completed => (view.ofRegistry completed.1, completed.2)) <$>
        (complete aliases stubs declarations).result := by
  have hContents : declarations.mapM (fun declaration =>
      (Content.read ⟨aliases, view.ofRegistry stubs⟩ declaration).result) =
        List.map view.ofContent <$> declarations.mapM fun declaration =>
          (Content.read ⟨aliases, stubs⟩ declaration).result :=
    mapM_comm fun declaration _ => Content.read_view view ⟨aliases, stubs⟩ declaration
  have hNavigations : ∀ contents : List Content,
      Content.navigations (contents.map view.ofContent) = Content.navigations contents :=
    fun contents => congrArg (List.map Prod.snd) (Content.notedNavigations_view contents)
  have hLinks : ∀ contents : List Content,
      Content.links (contents.map view.ofContent) = Content.links contents := fun contents => by
    rw [Content.links, Content.notedNavigations_view, Content.links]
  simp only [complete, Logged.result_bind, Logged.result_mapM, Logged.result_ofExcept,
    Logged.result_pure, hContents, Content.fillAll_view hView, Link.attachAll_view hView,
    hNavigations, hLinks, bind_map_left, map_bind]
  rfl

/-- Navigations carry no marks, so they are seen as they are. -/
theorem map_ofNavigation_of_complete {aliases : AliasTable} {stubs linked : Registry}
    {declarations : List Declaration} {navigations : List Navigation}
    (h : (complete aliases stubs declarations).result = .ok (linked, navigations)) :
    navigations.map view.ofNavigation = navigations := by
  refine (List.map_congr_left fun n hMem => ?_).trans navigations.map_id
  obtain ⟨declaration, node, name, _, _, _, constraints, rfl⟩ := exists_node_of_complete h n hMem
  have hMapping : (Content.mappingOf name constraints).map view.ofWrapper =
      Content.mappingOf name constraints := by
    unfold Content.mappingOf
    split
    · rfl
    · simp only [Option.map_some, View.ofWrapper, Structure.anonymous, List.map_map]
      rfl
  exact congrArg (fun mapping => Navigation.mk _ _ _ mapping _) hMapping

/-- What members are derived from is seen as it is prepared under the other settings. -/
theorem prepare_view (hView : view.ShowsFields) (hAnnounces : view.Announces settings settings')
    (document : Xml.Document) :
    prepare settings' document = view.ofPrepared <$> prepare settings document := by
  unfold prepare
  dsimp only
  split
  · rfl
  · simp only [declare_view hAnnounces, View.ofAnnounced, complete_view hView, bind_map_left,
      map_bind]
    rfl

/-- What a document defines is seen as it is defined under the other settings, if the extensions of
all members can be seen. -/
theorem walk_view (hView : view.ShowsFields) (hAnnounces : view.Announces settings settings')
    (location : Location) (document : Xml.Document)
    (hFits : ∀ schemas registry navigations,
      prepare settings document = .ok (schemas, registry, navigations) → ∀ member,
        view.Fits navigations navigations settings.expansions settings'.expansions member) :
    (walk settings' location document).result =
      view.ofDefinition <$> (walk settings location document).result := by
  rw [result_walk, result_walk, evaluate_eq_prepare, evaluate_eq_prepare,
    prepare_view hView hAnnounces, bind_map_left, map_bind]
  refine bind_congr_ok fun prepared hPrepared => ?_
  obtain ⟨schemas, registry, navigations⟩ := prepared
  have hMembers : (schemas.flatMap Schema.members).foldlM (Derivation.evaluate settings'
      (Schema.aliases schemas) navigations) (view.ofDerived (registry, [])) = view.ofDerived <$>
        (schemas.flatMap Schema.members).foldlM (Derivation.evaluate settings
          (Schema.aliases schemas) navigations) (registry, []) := by
    refine foldlM_comm (fun state _ _ => ?_) (registry, [])
    exact Derivation.evaluate_view view _
      (fun _ _ _ => hFits schemas registry navigations hPrepared _) state
  obtain ⟨_, _, _, _, _, hCompleted⟩ := prepare_eq_ok.1 hPrepared
  have hDefinition : ∀ derived,
      assemble location document navigations (view.ofDerived derived) =
        view.ofDefinition (assemble location document navigations derived) := fun derived =>
    congrArg (Definition.mk _ _ _ _) (map_ofNavigation_of_complete hCompleted).symm
  calc assemble location document navigations <$> (schemas.flatMap Schema.members).foldlM
        (Derivation.evaluate settings' (Schema.aliases schemas) navigations)
        (view.ofDerived (registry, []))
      = assemble location document navigations <$> view.ofDerived <$>
          (schemas.flatMap Schema.members).foldlM (Derivation.evaluate settings
            (Schema.aliases schemas) navigations) (registry, []) := by rw [hMembers]
    _ = view.ofDefinition <$> assemble location document navigations <$>
          (schemas.flatMap Schema.members).foldlM (Derivation.evaluate settings
            (Schema.aliases schemas) navigations) (registry, []) := by
        simp only [Functor.map_map, hDefinition]

end Metadata

end Csdl
