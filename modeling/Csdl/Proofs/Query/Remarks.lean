import Csdl.Capability
import Csdl.Proofs.Xml.Remarks
import Mathlib.Data.List.Basic

/-! Queries look at elements, attributes and inner texts, so remarks do not show in what they select:
the same values, and the same elements without the remarks in them. -/
namespace Csdl

namespace Query

/-- A place with its node without remarks. -/
def Cursor.plain (cursor : Cursor) : Cursor :=
  { cursor with node := cursor.node.plain }

/-- A selection without remarks. -/
def Selection.plain : Selection → Selection
  | elements found => elements (found.map Cursor.plain)
  | values found => values found

theorem Cursor.children_plain (cursor : Cursor) :
    cursor.plain.children = cursor.children.map Cursor.plain := by
  have hElements : cursor.plain.node.childElements =
      cursor.node.childElements.map Xml.Node.plain := cursor.node.childElements_plain
  rw [children, children, hElements, List.zipIdx_map, List.map_map, List.map_map]
  rfl

/-- A condition holds of a node without its remarks exactly if it holds of the node. -/
theorem Predicate.holds_plain (predicate : Predicate) (node : Xml.Node) :
    predicate.holds node.plain = predicate.holds node := by
  unfold holds
  cases predicate.operand with
  | ofAttribute label => simp only [Xml.Node.anyAttribute?_plain]
  | ofChild label =>
      simp only [Xml.Node.childElements_plain, List.any_map, Function.comp_def,
        Xml.Node.label_plain, Xml.Node.innerText_plain]

theorem Step.admits_plain (step : Step) (node : Xml.Node) :
    step.admits node.plain = step.admits node := by
  simp only [admits, Xml.Node.label_plain, Predicate.holds_plain]

/-- A step leads to the same elements. -/
theorem Step.follow_plain (step : Step) (current : List Cursor) :
    step.follow (current.map Cursor.plain) = (step.follow current).map Cursor.plain := by
  have hChildren : (current.map Cursor.plain).flatMap Cursor.children =
      (current.flatMap Cursor.children).map Cursor.plain := by
    rw [List.flatMap_map, List.map_flatMap]
    exact congrArg (current.flatMap ·) (funext Cursor.children_plain)
  rw [follow, hChildren, List.filter_map, follow]
  exact congrArg (List.map Cursor.plain)
    (List.filter_congr fun cursor _ => step.admits_plain cursor.node)

/-- Steps lead to the same elements. -/
theorem foldl_follow_plain (steps : List Step) (current : List Cursor) :
    steps.foldl (fun current step => step.follow current) (current.map Cursor.plain) =
      (steps.foldl (fun current step => step.follow current) current).map Cursor.plain := by
  induction steps generalizing current with
  | nil => rfl
  | cons step steps ih => rw [List.foldl_cons, List.foldl_cons, step.follow_plain, ih]

theorem reach_plain (query : Query) (start : Cursor) :
    query.reach start.plain = (query.reach start).map Cursor.plain :=
  foldl_follow_plain query.steps [start]

/-- A query selects of a tree without its remarks what it selects of the tree. -/
theorem evaluate_plain (query : Query) (start : Cursor) :
    query.evaluate start.plain = (query.evaluate start).plain := by
  unfold evaluate
  rw [reach_plain]
  cases query.value with
  | none => rfl
  | some label =>
      dsimp only
      rw [List.filterMap_map]
      exact congrArg Selection.values
        (List.filterMap_congr fun cursor _ => cursor.node.anyAttribute?_plain label)

/-- The texts of what is selected do not change when remarks are left out. -/
theorem Selection.strings_plain (selection : Selection) :
    selection.plain.strings = selection.strings := by
  cases selection with
  | elements found =>
      show (found.map Cursor.plain).map _ = found.map _
      rw [List.map_map]
      exact List.map_congr_left fun cursor _ =>
        congrArg Text.trim cursor.node.innerText_plain
  | values found => rfl

namespace Evaluation

variable (start : Cursor) (text : String)

theorem select_plain : select start.plain text = Selection.plain <$> select start text := by
  simp only [select, evaluate_plain, map_bind, map_pure]

/-- The texts that a query selects are the same. -/
theorem strings_plain : strings start.plain text = strings start text := by
  simp only [strings, select_plain, bind_map_left, Selection.strings_plain]

/-- The elements that a query selects are the same. -/
theorem elements_plain :
    elements start.plain text = List.map Cursor.plain <$> elements start text := by
  simp only [elements, select_plain, bind_map_left, map_bind]
  refine bind_congr fun selection => ?_
  cases selection <;> simp [Selection.plain]

end Evaluation

end Query

namespace Capabilities

open Query Query.Evaluation

variable (start : Cursor) (kind : MemberKind)

theorem allAllow_plain (sources : List String) :
    allAllow start.plain sources = allAllow start sources := by
  induction sources with
  | nil => rfl
  | cons source sources ih =>
      simp only [allAllow, isAllowed, stringOr, string?, strings_plain, ih]

theorem readFlags_plain : readFlags start.plain kind = readFlags start kind := by
  have hSet : ∀ sources, allowedOnSet start.plain kind sources = allowedOnSet start kind sources := by
    intro sources
    cases kind with
    | entitySet => exact allAllow_plain start sources
    | singleton => rfl
  simp only [readFlags, hSet, allAllow_plain]

theorem binding?_plain (node : Xml.Node) : binding? node.plain = binding? node := by
  simp only [binding?, Xml.Node.attribute?_plain]

/-- Remarks do not show in the capabilities of a member. -/
theorem read_plain : read start.plain kind = read start kind := by
  have hBindings : ∀ found : List Cursor,
      (found.map Cursor.plain).filterMap (fun cursor => binding? cursor.node) =
        found.filterMap fun cursor => binding? cursor.node := by
    intro found
    rw [List.filterMap_map]
    exact List.filterMap_congr fun cursor _ => binding?_plain cursor.node
  simp only [read, readFlags_plain, elements_plain, strings_plain, bind_map_left, hBindings]

end Capabilities

end Csdl
