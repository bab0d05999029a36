import Csdl.Proofs.Metadata.Evaluation
import Csdl.Proofs.Metadata.Resolution
import Csdl.Proofs.Query.Scan
import Csdl.Proofs.Query.Sources

/-! How reading a document fails. All errors are about what the document says. Those that would mean
that a place holds no structure, that an index leads to no navigation, or that a query cannot be
read or selects values instead of elements never occur. -/
namespace Csdl

open Query (bind_eq_ok)

/-- A cause that lies in a document. -/
def FormatError.LiesInDocument : FormatError → Prop
  | notAStructure _ | unknownNavigation _ | noEntityType _ => False
  | _ => True

/-- An error that lies in a document: its form, or a reference to a type that there is not. -/
def Error.LiesInDocument : Error → Prop
  | format cause => cause.LiesInDocument
  | unknownReference _ | unknownPrimitive _ => True
  | _ => False

/-- A result that is a value, or an error that lies in the document. -/
def Answers {α : Type} (x : Except Error α) : Prop :=
  ∀ error, x = .error error → error.LiesInDocument

namespace Answers

variable {α β : Type} {x : Except Error α}

theorem ok (a : α) : Answers (.ok a) :=
  fun _ h => nomatch h

theorem error {error : Error} (h : error.LiesInDocument) :
    Answers (.error error : Except Error α) := by
  intro _ hEq
  cases hEq
  exact h

/-- A step answers behind one that answers, if it does for each value of it. -/
theorem bind {f : α → Except Error β} (hx : Answers x) (hf : ∀ a, x = .ok a → Answers (f a)) :
    Answers (x >>= f) := by
  cases x with
  | error error => exact .error (hx error rfl)
  | ok a => exact hf a rfl

theorem map {f : α → β} (hx : Answers x) : Answers (x.map f) := by
  cases x with
  | error error => exact .error (hx error rfl)
  | ok a => exact .ok (f a)

/-- A list of results answers if each of them does. -/
theorem mapM {f : α → Except Error β} {xs : List α} (h : ∀ x ∈ xs, Answers (f x)) :
    Answers (xs.mapM f) := by
  induction xs with
  | nil => exact .ok []
  | cons x xs ih =>
      rw [List.mapM_cons]
      refine (h x List.mem_cons_self).bind fun y _ => ?_
      exact (ih fun x hx => h x (List.mem_cons_of_mem _ hx)).bind fun ys _ => .ok _

/-- Steps one after the other answer if each of them does, from whatever it starts. -/
theorem foldlM {f : β → α → Except Error β} {xs : List α} (h : ∀ b, ∀ x ∈ xs, Answers (f b x))
    (b : β) : Answers (xs.foldlM f b) := by
  induction xs generalizing b with
  | nil => exact .ok b
  | cons x xs ih =>
      rw [List.foldlM_cons]
      exact (h b x List.mem_cons_self).bind fun middle _ =>
        ih (fun b x hx => h b x (List.mem_cons_of_mem _ hx)) middle

end Answers

theorem Markup.answers_required (node : Xml.Node) (label : String) :
    Answers (required node label) := by
  unfold required
  split
  · exact .ok _
  · exact .error trivial

theorem Markup.answers_requiredOfAll (nodes : List Xml.Node) (label : String) :
    Answers (requiredOfAll nodes label) :=
  .mapM fun node _ => answers_required node label

theorem EdmType.answers_parse (name : String) : Answers (parse name) := by
  unfold parse
  split
  · exact .ok _
  · exact .error trivial

theorem Cardinality.answers_unwrap (type : String) : Answers (unwrap type) := by
  unfold unwrap
  split
  · exact .ok _
  · exact .error trivial

namespace Registry

/-- Only a taken name keeps a type from being registered. -/
theorem answers_register (r : Registry) (type : NamedType) : Answers (r.register type).result := by
  rw [result_register]
  split
  · exact .error trivial
  · exact .ok _

/-- A reference that denotes nothing is an error of the document, whether it looks like a primitive
type or not. -/
theorem answers_refer (r : Registry) (aliases : AliasTable) (reference : String) :
    Answers (r.refer aliases reference) := by
  unfold refer
  dsimp only
  split
  · exact .error trivial
  · split
    · split
      · next hParse => exact .error (EdmType.answers_parse _ _ hParse)
      · exact .ok _
      · exact .ok _
    · split
      · exact .ok _
      · exact .error trivial

end Registry

namespace Schema

theorem answers_registerEnumeration (schema : Schema) (registry : Registry) (node : Xml.Node) :
    Answers (schema.registerEnumeration registry node).result := by
  simp only [registerEnumeration, Logged.result_bind, Logged.result_ofExcept, Logged.result_tell,
    Logged.result_pure]
  refine (Markup.answers_required _ _).bind fun _ _ => ?_
  refine (Markup.answers_requiredOfAll _ _).bind fun _ _ => ?_
  exact (Answers.ok ()).bind fun _ _ => (Registry.answers_register _ _).bind fun _ _ => .ok _

theorem answers_announce (settings : Settings) (schema : Schema)
    (state : Registry × List Declaration) (declared : StructureKind × Xml.Node) :
    Answers (schema.announce settings state declared).result := by
  simp only [announce, Logged.result_bind, Logged.result_ofExcept, Logged.result_tell,
    Logged.result_pure]
  refine (Markup.answers_required _ _).bind fun _ _ => ?_
  exact (Answers.ok ()).bind fun _ _ => (Registry.answers_register _ _).bind fun _ _ => .ok _

end Schema

namespace Content

variable (scope : Scope)

/-- A field is read, or its element lacks a name or a type that denotes something. -/
theorem answers_readField (node : Xml.Node) : Answers (readField scope node).result := by
  simp only [readField, Logged.result_bind, Logged.result_ofExcept, Logged.result_tell,
    Logged.result_pure]
  refine (Markup.answers_required _ _).bind fun _ _ => ?_
  refine (Markup.answers_required _ _).bind fun _ _ => ?_
  refine (Cardinality.answers_unwrap _).bind fun _ _ => ?_
  exact (Answers.ok ()).bind fun _ _ => (Registry.answers_refer _ _ _).bind fun _ _ => .ok _

/-- A base that is read is a structure, or the document says what it is instead. -/
theorem answers_readBase (declaration : Declaration) :
    Answers (readBase scope declaration) := by
  unfold readBase
  split
  · exact .ok _
  · refine (Registry.answers_refer _ _ _).bind fun _ _ => ?_
    split
    · exact .ok _
    · exact .error trivial

theorem answers_readConstraint (node : Xml.Node) : Answers (readConstraint node) :=
  (Markup.answers_required _ _).bind fun _ _ => (Markup.answers_required _ _).bind fun _ _ => .ok _

/-- A relation is read, or the document says something wrong about its field, its target or its
constraints. -/
theorem answers_readRelation (declaration : Declaration) (node : Xml.Node) :
    Answers (readRelation scope declaration node).result := by
  simp only [readRelation, Logged.result_bind]
  refine (answers_readField scope node).bind fun _ _ => ?_
  split
  · exact .error trivial
  · simp only [Logged.result_bind, Logged.result_ofExcept, Logged.result_pure]
    exact (Answers.mapM fun node _ => answers_readConstraint node).bind fun _ _ => .ok _

/-- The element of a structure is read, or the document says something wrong in it. -/
theorem answers_read (declaration : Declaration) : Answers (read scope declaration).result := by
  simp only [read, Logged.result_bind, Logged.result_ofExcept, Logged.result_tell,
    Logged.result_pure, Logged.result_mapM]
  refine (Answers.ok ()).bind fun _ _ => (answers_readBase scope declaration).bind fun _ _ => ?_
  refine (Answers.mapM fun node _ => answers_readField scope node).bind fun _ _ => ?_
  refine (Answers.mapM fun node _ => answers_readRelation scope declaration node).bind fun _ _ => ?_
  refine (Markup.answers_requiredOfAll _ _).bind fun _ _ => ?_
  rw [result_markPrimaryKey]
  exact (Answers.ok _).bind fun _ _ => .ok _

end Content

namespace Member

theorem answers_derive (wanted : Bool) (registry : Registry) (extension : Structure)
    (make : TypeId → ServiceFunction) : Answers (derive wanted registry extension make).result := by
  unfold derive
  split
  · simp only [Logged.result_bind, Logged.result_pure]
    exact (Registry.answers_register _ _).bind fun _ _ => .ok _
  · exact .ok _

/-- The functions that need a key are derived without failing in any other way than registering
does. -/
theorem answers_deriveKeyed (member : Member) (flags : CapabilityFlags) (registry : Registry)
    (select : TypeId) (update : Structure) (key : Option Field) :
    Answers (member.deriveKeyed flags registry select update key).result := by
  cases key with
  | none => exact .ok _
  | some key =>
      simp only [deriveKeyed, Logged.result_bind, Logged.result_pure]
      exact (answers_derive _ _ _ _).bind fun _ _ => .ok _

/-- Where a member is bound to a structure, only a taken name can be in its way. -/
theorem answers_generate {registry : Registry} {member : Member}
    (h : (registry.structure? member.entity).isSome) (navigations : List Navigation)
    (expansions : List Expansion) (capabilities : Capabilities) :
    Answers (generate registry navigations expansions member capabilities).result := by
  obtain ⟨entity, hEntity⟩ := Option.isSome_iff_exists.1 h
  simp only [generate, Logged.result_bind, Logged.result_ofExcept, Logged.result_tell,
    Logged.result_pure]
  rw [entityType_eq_ok.2 hEntity]
  refine (Answers.ok _).bind fun _ _ => (answers_derive _ _ _ _).bind fun _ _ => ?_
  refine (Registry.answers_register _ _).bind fun _ _ => ?_
  refine (answers_deriveKeyed _ _ _ _ _ _).bind fun _ _ => ?_
  exact (Answers.ok ()).bind fun _ _ => .ok _

end Member

namespace Derivation

/-- A member is bound to a structure, or the document binds it to something else. -/
theorem answers_bind (registry : Registry) (aliases : AliasTable) (name reference : String) :
    Answers (bind registry aliases name reference) := by
  refine (Answers.map (Registry.answers_refer registry aliases reference)).bind fun found _ => ?_
  obtain ⟨type, registry⟩ := found
  cases type with
  | named id =>
      dsimp only
      split
      · exact .ok _
      · exact .error trivial
  | primitive kind => exact .error trivial

/-- The type that a member is bound to is there when it is named, and when its extensions are
made; and the capabilities of a member can always be read. -/
theorem answers_step (settings : Settings) (aliases : AliasTable) (navigations : List Navigation)
    (state : Derivation) (node : MemberNode) :
    Answers (step settings aliases navigations state node).result := by
  simp only [step, Logged.result_bind, Logged.result_ofExcept, Logged.result_pure]
  refine (Markup.answers_required _ _).bind fun name _ => ?_
  refine (Markup.answers_required _ _).bind fun reference _ => ?_
  refine (answers_bind _ _ _ _).bind fun found hBind => ?_
  obtain ⟨entity, registry⟩ := found
  obtain ⟨_, _, hStructure⟩ := bind_eq_ok_iff.1 hBind
  obtain ⟨s, hHere⟩ := Option.isSome_iff_exists.1 hStructure
  obtain ⟨bound, hBound⟩ := Registry.exists_edit_of_structure? hHere (nameCollection name)
  have hThere : (bound.structure? entity).isSome := by
    obtain ⟨_, _, hGet⟩ := Registry.get?_of_edit hBound
    rw [Registry.structure?_eq_some.2 ((hGet entity).trans (if_pos rfl))]
    rfl
  show Answers (registry.edit entity (nameCollection name) >>= _)
  rw [hBound, fst_capabilities, ownCapabilities_eq]
  refine (Answers.ok _).bind fun registry hSame => (Answers.ok _).bind fun capabilities _ => ?_
  obtain rfl := Except.ok.inj hSame
  exact (Member.answers_generate hThere _ _ _).bind fun _ _ => .ok _

end Derivation

namespace Metadata

theorem answers_schemas (root : Xml.Node) : Answers (schemas root) := by
  unfold schemas
  split
  · exact .error trivial
  · exact .mapM fun node _ => (Markup.answers_required _ _).bind fun _ _ => .ok _

/-- All that is declared is registered, or the document declares it wrongly. -/
theorem answers_declare (settings : Settings) (schemas : List Schema) :
    Answers (declare settings schemas).result := by
  simp only [declare, Logged.result_bind, Logged.result_tell, Logged.result_pure,
    Logged.result_foldlM, Schema.registerEnumerations, Schema.announceAll]
  refine (Answers.foldlM (fun registry schema _ => ?_) _).bind fun registry _ => ?_
  · exact .foldlM (fun _ _ _ => Schema.answers_registerEnumeration _ _ _) _
  · refine (Answers.foldlM (fun state schema _ => ?_) _).bind fun declared _ => ?_
    · exact .foldlM (fun _ _ _ => Schema.answers_announce _ _ _ _) _
    · exact (Answers.ok ()).bind fun _ _ => .ok _

/-- Behind the stage of the content nothing fails before members are derived. -/
theorem answers_complete {settings : Settings} {schemas : List Schema} {stubs : Registry}
    {declarations : List Declaration}
    (h : (declare settings schemas).result = .ok (stubs, declarations)) :
    Answers (complete (Schema.aliases schemas) stubs declarations).result := by
  obtain ⟨enumerations, announcements, hDeclares⟩ := declare_eq_ok.1 h
  obtain rfl := hDeclares.declarations_eq
  have hContents : Answers ((announcements.map (·.declarationIn stubs)).mapM
      (Content.read ⟨Schema.aliases schemas, stubs⟩)).result := by
    rw [Logged.result_mapM]
    exact .mapM fun declaration _ => Content.answers_read _ _
  unfold complete
  rw [Logged.result_bind]
  refine hContents.bind fun contents hRead => ?_
  rw [Logged.result_mapM] at hRead
  obtain ⟨typing, rfl, rfl, rfl, rfl⟩ := hDeclares.exists_typing_of_contents hRead
  simp only [Logged.result_bind, Logged.result_ofExcept, Logged.result_pure]
  rw [typing.completed_eq]
  refine (Answers.ok _).bind fun completed hCompleted => ?_
  obtain rfl := Except.ok.inj hCompleted
  rw [Link.attachAll_eq_ok.2 typing.linked_eq]
  exact (Answers.ok _).bind fun _ _ => .ok _

/-- Functions are derived for all members, or the document has a wrong member. Capabilities do not
get in the way, since they can always be read. -/
theorem answers_derive (settings : Settings) (schemas : List Schema) (registry : Registry)
    (navigations : List Navigation) :
    Answers (derive settings schemas registry navigations).result := by
  simp only [derive, Logged.result_bind, Logged.result_tell, Logged.result_pure,
    Logged.result_foldlM]
  refine (Answers.foldlM (fun state node _ => ?_) _).bind fun _ _ => ?_
  · exact Derivation.answers_step _ _ _ _ _
  · exact (Answers.ok ()).bind fun _ _ => .ok _

/-- Each stage of a walk answers, so the walk as a whole does. -/
theorem answers_walk (settings : Settings) (location : Location) (document : Xml.Document) :
    Answers (walk settings location document).result := by
  rw [result_walk]
  unfold evaluate
  dsimp only
  split
  · exact .error trivial
  · refine (answers_schemas _).bind fun schemas _ => ?_
    refine (answers_declare _ _).bind fun declared hDeclared => ?_
    obtain ⟨stubs, declarations⟩ := declared
    refine (answers_complete hDeclared).bind fun completed _ => ?_
    rw [← result_derive]
    exact (answers_derive _ _ _ _).bind fun _ _ => .ok _

/-- Reading a document gives a definition or an error that lies in the document. Behind that, the
queries for capabilities are fixed texts that can all be read, through any cache, and what they are
read as is found in the cache; the one for bindings selects elements; and no query text makes its
reader look at a place outside of it. -/
theorem walk_answers (settings : Settings) (location : Location) (document : Xml.Document)
    (start : Query.Cursor) (kind : MemberKind) (cache : Query.Cache) (text : String) :
    ((∃ definition, (walk settings location document).result = .ok definition) ∨
      ∃ error, (walk settings location document).result = .error error ∧ error.LiesInDocument) ∧
    (∀ source ∈ Capabilities.sources, ∃ query, Query.parse source = .ok query) ∧
    (∃ capabilities later, Capabilities.read start kind cache = (.ok capabilities, later) ∧
      ∀ entry ∈ later.entries, entry ∈ cache.entries ∨ entry.1 ∈ Capabilities.sources) ∧
    (∃ found later,
      Query.Evaluation.elements start Capabilities.bindingQuery cache = (.ok found, later)) ∧
    (cache.compile text).2.entries.lookup text = (cache.compile text).1.toOption ∧
    Query.Scan.read text.toList = (Query.read text.toList).mapError .refused ∧
    ∀ place, Query.Scan.read text.toList ≠ .error (.outOfRange place) := by
  refine ⟨?_, Capabilities.exists_parse_sources, ?_, ?_, cache.lookup_compile text,
    Query.Scan.read_eq _, ?_⟩
  · have hAnswers := answers_walk settings location document
    cases hResult : (walk settings location document).result with
    | ok definition => exact .inl ⟨definition, rfl⟩
    | error error => exact .inr ⟨error, rfl, hAnswers error hResult⟩
  · obtain ⟨capabilities, hRead, _⟩ := Capabilities.gives_read start kind cache
    exact ⟨capabilities, _, Prod.ext hRead rfl, Capabilities.asks_read kind cache⟩
  · obtain ⟨found, hFound, _⟩ :=
      Query.Evaluation.gives_elements Capabilities.parse_bindingQuery rfl cache
    exact ⟨found, _, Prod.ext hFound rfl⟩
  · intro place hOutside
    rw [Query.Scan.read_eq] at hOutside
    cases hRead : Query.read text.toList with
    | ok query => simp [hRead, Except.mapError] at hOutside
    | error cause => simp [hRead, Except.mapError] at hOutside

end Metadata

end Csdl
