import Csdl.Xml.Node
import Csdl.Xml.Token

/-!
Namespaces: which namespace a written name belongs to. An element sees the declarations on itself
and, behind them, those of the elements around it; the first one of a prefix counts.
-/

namespace Csdl.Xml

/-- The namespace that the prefix `xml` always stands for. -/
def xmlNamespace : String := "http://www.w3.org/XML/1998/namespace"

/-- The namespace of declarations, which no prefix may stand for. -/
def declarationNamespace : String := "http://www.w3.org/2000/xmlns/"

/-- Prefixes with the namespaces they stand for. The empty prefix is that of elements without
one. -/
abbrev Bindings := List (String × String)

/-- An attribute with its written name and the value it stands for. -/
structure ValuedAttribute where
  name : WrittenName
  value : String
  deriving DecidableEq, Repr

/-- Whether an attribute declares a namespace. -/
def ValuedAttribute.isDeclaration (a : ValuedAttribute) : Bool :=
  a.name.scope = "xmlns" || a.name.label = "xmlns"

/-- Adds the declaration that an attribute is, if it is one, to those before it on its element.
Each prefix is declared once, and the two reserved namespaces keep their meaning. -/
def declare? (own : Bindings) (a : ValuedAttribute) : Option Bindings :=
  if a.name.scope = "xmlns" then
    if a.value = declarationNamespace then none
    else if a.name.label = "xml" then if a.value = xmlNamespace then some own else none
    else if a.value = xmlNamespace || own.any (·.1 = a.name.label) then none
    else some (own ++ [(a.name.label, a.value)])
  else if a.name.label = "xmlns" then
    if a.value = xmlNamespace || a.value = declarationNamespace then none
    else some (own ++ [("", a.value)])
  else some own

/-- The name of an element. A prefix has to be declared. -/
def elementName? (bindings : Bindings) (name : WrittenName) : Option Name :=
  if name.scope.isEmpty then some ⟨bindings.lookup "", name.label⟩
  else if name.scope = "xmlns" then none
  else (bindings.lookup name.scope).map fun space => ⟨some space, name.label⟩

/-- The name of an attribute. One without a prefix is in no namespace. -/
def attributeName? (bindings : Bindings) (name : WrittenName) : Option Name :=
  if name.scope.isEmpty then some ⟨none, name.label⟩
  else if name.scope = "xml" then some ⟨some xmlNamespace, name.label⟩
  else (bindings.lookup name.scope).map fun space => ⟨some space, name.label⟩

/-- Whether no name stands twice in a list. -/
def allDistinct : List Name → Bool
  | [] => true
  | name :: names => !names.contains name && allDistinct names

/-- The attributes of an element that are no declarations. No two of them have one name. -/
def attributes? (bindings : Bindings) (written : List ValuedAttribute) : Option (List Attribute) := do
  let found ← (written.filter fun a => !a.isDeclaration).mapM fun a =>
    (attributeName? bindings a.name).map fun name => Attribute.mk name a.value
  if allDistinct (found.map (·.name)) then some found else none

end Csdl.Xml
