import Csdl.Xml.Names
import Csdl.Xml.Value

/-!
Building the tree of a document from its tokens. A document has one root element, and around it
only comments, instructions and spaces. Texts that touch become one node.
-/

namespace Csdl.Xml

/-- An element that is not closed yet. Its children are held in reverse. -/
structure OpenElement where
  written : WrittenName
  name : Name
  attributes : List Attribute
  bindings : Bindings
  children : List Node

namespace OpenElement

/-- Opens an element among the declarations of those around it. -/
def ofTag? (outer : Bindings) (written : WrittenName) (tags : List WrittenAttribute) :
    Option OpenElement := do
  let valued ← tags.mapM fun tag => (valueOf? tag.value).map (ValuedAttribute.mk tag.name)
  let own ← valued.foldlM declare? []
  let bindings := own ++ outer
  let name ← elementName? bindings written
  let attributes ← attributes? bindings valued
  return { written, name, attributes, bindings, children := [] }

/-- The element with one more child. -/
def add (e : OpenElement) (node : Node) : OpenElement :=
  { e with children := node :: e.children }

/-- The element with more text, which continues a text before it. -/
def addText (e : OpenElement) (content : String) : OpenElement :=
  match e.children with
  | .text before :: children => { e with children := .text (before ++ content) :: children }
  | children => { e with children := .text content :: children }

/-- The closed element. -/
def close (e : OpenElement) : Node :=
  .element e.name e.attributes e.children.reverse

end OpenElement

/-- How far a document has been built. Nodes outside the root are held in reverse, and open
elements from the innermost on. -/
inductive Building where
  | prolog (before : List Node)
  | content (before : List Node) (top : OpenElement) (outer : List OpenElement)
  | epilog (before : List Node) (root : Node) (after : List Node)

namespace Building

/-- Adds a node that may stand anywhere. -/
def add (node : Node) : Building → Building
  | prolog before => prolog (node :: before)
  | content before top outer => content before (top.add node) outer
  | epilog before root after => epilog before root (node :: after)

/-- Adds an element, or makes it the root. -/
def addElement (before : List Node) (outer : List OpenElement) (node : Node) : Building :=
  match outer with
  | [] => epilog before node []
  | parent :: outer => content before (parent.add node) outer

/-- Adds an element that has just been opened, or closes it at once. -/
def openTag (before : List Node) (outer : List OpenElement) (closed : Bool) (e : OpenElement) :
    Building :=
  if closed then addElement before outer e.close else content before e outer

/-- Builds one token into the document, if it may stand there. -/
def step? (building : Building) (token : Token) : Option Building :=
  match token, building with
  | .startTag name tags closed, prolog before =>
    (OpenElement.ofTag? [] name tags).map (openTag before [] closed)
  | .startTag name tags closed, content before top outer =>
    (OpenElement.ofTag? top.bindings name tags).map (openTag before (top :: outer) closed)
  | .startTag .., epilog .. => none
  | .endTag name, content before top outer =>
    if name = top.written then some (addElement before outer top.close) else none
  | .endTag _, _ => none
  | .text raw, content before top outer =>
    (textOf? raw).map fun text => content before (top.addText text) outer
  | .text raw, building => if raw.all isSpace then some building else none
  | .cdata raw, content before top outer => some (content before (top.addText (plainText raw)) outer)
  | .cdata _, _ => none
  | .comment text, building => some (building.add (.comment (String.ofList text)))
  | .instruction target text, building =>
    some (building.add (.instruction (String.ofList target) (String.ofList text)))

/-- The document, if its root is closed. -/
def document? : Building → Option Document
  | epilog before root after => some ⟨before.reverse, root, after.reverse⟩
  | _ => none

end Building

/-- The document that tokens make up. -/
def Document.ofTokens? (tokens : List Token) : Option Document := do
  let building ← tokens.foldlM Building.step? (.prolog [])
  building.document?

/-- The text behind the declaration with which a document may start. -/
def behindDeclaration? (cs : List Char) : Option (List Char) :=
  match Text.cutStart? ('<' :: '?' :: declarationStart) cs with
  | some rest => readDeclaration? rest
  | none => some cs

/-- The text behind the byte order mark with which a document may start. -/
def behindMark (cs : List Char) : List Char :=
  match cs with
  | c :: rest => if c.toNat = 0xFEFF then rest else cs
  | [] => []

/-- The document that a text is, if it is well formed. -/
def Document.parse? (text : String) : Option Document := do
  let cs := behindMark text.toList
  guard (cs.all isChar)
  let cs ← behindDeclaration? cs
  let tokens ← Token.read? cs
  Document.ofTokens? tokens

end Csdl.Xml
