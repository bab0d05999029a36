import Csdl.Metadata.Document
import Csdl.Proofs.Metadata.Derivation

/-! Reading a document without a cache. What the queries for capabilities select takes the place of
the queries, and the result is the same; so the kernel can read small documents. -/
namespace Csdl

open Query (bind_eq_ok)

namespace Derivation

/-- Derives a member's extensions and functions by what the queries for its capabilities select. -/
def evaluate (settings : Settings) (aliases : AliasTable) (navigations : List Navigation)
    (state : Registry × List ServiceFunction) (node : MemberNode) :
    Except Error (Registry × List ServiceFunction) := do
  let name ← Markup.required node.node "Name"
  let reference ← Markup.required node.node node.kind.typeAttribute
  let (entity, registry) ← bind state.1 aliases name reference
  let registry ← registry.edit entity fun s => { s with collectionName := some name }
  let (functions, registry) ← (Member.generate registry navigations settings.expansions
    { name, namespaceName := node.namespaceName, entity, kind := node.kind }
    (Capabilities.capabilitiesOf ⟨[], node.node⟩ node.kind)).result
  return (registry, state.2 ++ functions)

variable {settings : Settings} {aliases : AliasTable} {navigations : List Navigation}

/-- The cache changes along the way, and nothing else depends on it. -/
theorem result_step (state : Derivation) (node : MemberNode) :
    (step settings aliases navigations state node).result =
      (fun made => ⟨made.1, made.2, (capabilities state.cache node).2⟩) <$>
        evaluate settings aliases navigations (state.registry, state.functions) node := by
  simp only [step, evaluate, Logged.result_bind, Logged.result_ofExcept, Logged.result_pure,
    fst_capabilities, ownCapabilities_eq, map_bind]
  rfl

/-- Deriving members one after the other needs no cache either. -/
theorem result_foldlM_step (state : Derivation) (nodes : List MemberNode) :
    (fun last => (last.registry, last.functions)) <$>
        (nodes.foldlM (step settings aliases navigations) state).result =
      nodes.foldlM (evaluate settings aliases navigations) (state.registry, state.functions) := by
  rw [Logged.result_foldlM]
  induction nodes generalizing state with
  | nil => rfl
  | cons node nodes ih =>
      rw [List.foldlM_cons, List.foldlM_cons, result_step, map_bind, bind_map_left]
      exact bind_congr fun made => ih ⟨made.1, made.2, _⟩

end Derivation

namespace Metadata

/-- What the tree of a document defines, without a cache. -/
def evaluate (settings : Settings) (location : Location) (document : Xml.Document) :
    Except Error Definition :=
  let root := document.root
  if root.label ≠ "Edmx" then .error (.format (.notEdmx root.label))
  else do
    let schemas ← schemas root
    let (stubs, declarations) ← (declare settings schemas).result
    let (registry, navigations) ← (complete (Schema.aliases schemas) stubs declarations).result
    let (registry, functions) ← (schemas.flatMap Schema.members).foldlM
      (Derivation.evaluate settings (Schema.aliases schemas) navigations) (registry, [])
    return { version := (root.attribute? "Version").getD "", location, registry, functions,
             navigations }

theorem result_derive (settings : Settings) (schemas : List Schema) (registry : Registry)
    (navigations : List Navigation) :
    (derive settings schemas registry navigations).result =
      (schemas.flatMap Schema.members).foldlM
        (Derivation.evaluate settings (Schema.aliases schemas) navigations) (registry, []) := by
  simp only [derive, Logged.result_bind, Logged.result_tell, Logged.result_pure]
  exact Derivation.result_foldlM_step { registry } _

/-- Reading the tree of a document is evaluating it. -/
theorem result_walk (settings : Settings) (location : Location) (document : Xml.Document) :
    (walk settings location document).result = evaluate settings location document := by
  unfold walk evaluate
  dsimp only
  split
  · rfl
  · split
    · simp only [Logged.result_bind, Logged.result_ofExcept, Logged.result_pure, result_derive]
      rfl
    · simp only [Logged.result_bind, Logged.result_ofExcept, Logged.result_pure, result_derive]
      rfl

/-- The schemas of a document, with the registry and the navigations that its members are derived
from. -/
def prepare (settings : Settings) (document : Xml.Document) :
    Except Error (List Schema × Registry × List Navigation) :=
  let root := document.root
  if root.label ≠ "Edmx" then .error (.format (.notEdmx root.label))
  else do
    let schemas ← schemas root
    let (stubs, declarations) ← (declare settings schemas).result
    let (registry, navigations) ← (complete (Schema.aliases schemas) stubs declarations).result
    return (schemas, registry, navigations)

/-- A document is prepared exactly if its root is as it has to be, its schemas can be read, and
their structures can be declared and completed. -/
theorem prepare_eq_ok {settings : Settings} {document : Xml.Document} {schemas : List Schema}
    {registry : Registry} {navigations : List Navigation} :
    prepare settings document = .ok (schemas, registry, navigations) ↔
      document.root.label = "Edmx" ∧ Metadata.schemas document.root = .ok schemas ∧
        ∃ stubs declarations, (declare settings schemas).result = .ok (stubs, declarations) ∧
          (complete (Schema.aliases schemas) stubs declarations).result =
            .ok (registry, navigations) := by
  unfold prepare
  by_cases hRoot : document.root.label = "Edmx"
  · simp only [hRoot, ne_eq, not_true_eq_false, if_false, bind_eq_ok, true_and]
    constructor
    · rintro ⟨_, hSchemas, ⟨stubs, declarations⟩, hDeclared, ⟨_, _⟩, hCompleted, hEq⟩
      cases hEq
      exact ⟨hSchemas, stubs, declarations, hDeclared, hCompleted⟩
    · rintro ⟨hSchemas, stubs, declarations, hDeclared, hCompleted⟩
      exact ⟨schemas, hSchemas, (stubs, declarations), hDeclared, (registry, navigations),
        hCompleted, rfl⟩
  · simp [hRoot]

/-- The definition of a document, given its navigations and what is derived from its members. -/
def assemble (location : Location) (document : Xml.Document) (navigations : List Navigation)
    (derived : Registry × List ServiceFunction) : Definition where
  version := (document.root.attribute? "Version").getD ""
  location
  registry := derived.1
  functions := derived.2
  navigations

/-- Reading the tree of a document is preparing it and deriving its members. -/
theorem evaluate_eq_prepare (settings : Settings) (location : Location) (document : Xml.Document) :
    evaluate settings location document = prepare settings document >>= fun prepared =>
      assemble location document prepared.2.2 <$> (prepared.1.flatMap Schema.members).foldlM
        (Derivation.evaluate settings (Schema.aliases prepared.1) prepared.2.2)
        (prepared.2.1, []) := by
  unfold evaluate prepare
  dsimp only
  split
  · rfl
  · simp only [bind_assoc, pure_bind, map_eq_pure_bind]
    rfl

end Metadata

end Csdl
