import Csdl.Error
import Csdl.Text.Blank
import Csdl.Xml.Document

/-!
What a caller may choose: the prefix of qualified ids, and the navigations that are expanded where
an entity is read. Settings come from code, from a document, or as an argument of a command.
-/

namespace Csdl

/-- A wish to expand navigations of one entity type, which is named by its qualified id or by its
qualified name. -/
structure Expansion where
  entity : String
  navigations : List String
  deriving DecidableEq, Repr

namespace Expansion

/-- Whether an expansion is for the type with an id and a qualified name. -/
def appliesTo (expansion : Expansion) (id qualifiedName : String) : Bool :=
  expansion.entity = id || expansion.entity = qualifiedName

/-- Texts without the blanks around them, and without those that are blank altogether. -/
def trimmedItems (items : List (List Char)) : List String :=
  ((items.map Text.trimChars).filter fun item => !item.isEmpty).map String.ofList

/-- Reads an entity, an equals sign, and navigations between commas. -/
def ofArgument (argument : String) : Except SettingsError Expansion :=
  match Text.cutAtFirst? '=' argument.toList with
  | none => .error (.expansionWithoutEquals argument)
  | some (entity, navigations) =>
    if (Text.trimChars entity).isEmpty then .error (.expansionWithoutEntity argument)
    else .ok ⟨String.ofList (Text.trimChars entity), trimmedItems (navigations.splitOn ',')⟩

end Expansion

/-- The choices for reading one document. -/
structure Settings where
  baseId : Option String := none
  expansions : List Expansion := []
  deriving DecidableEq, Repr

namespace Settings

/-- The settings with a prefix of qualified ids. -/
def withBaseId (settings : Settings) (baseId : String) : Settings :=
  { settings with baseId := some baseId }

/-- The settings with one more expansion. -/
def withExpansion (settings : Settings) (expansion : Expansion) : Settings :=
  { settings with expansions := settings.expansions ++ [expansion] }

/-- The prefix of qualified ids, unless it is blank. -/
def idPrefix? (settings : Settings) : Option String :=
  (settings.baseId.map Text.trim).filter fun base => !base.isEmpty

/-- The qualified id of a name of some kind. -/
def mintId (settings : Settings) (kind name : String) : String :=
  match settings.idPrefix? with
  | some base => base ++ "." ++ kind ++ "." ++ name
  | none => kind ++ "." ++ name

/-- The value of an attribute without the blanks around it, unless it is blank. -/
def trimmedAttribute? (node : Xml.Node) (label : String) : Option String :=
  ((node.attribute? label).map Text.trim).filter fun value => !value.isEmpty

/-- Reads the expansion that an element asks for. Each of its navigations is the text that an
element in it begins with. -/
def expansionOf (node : Xml.Node) : Except SettingsError Expansion :=
  match trimmedAttribute? node "Name" with
  | none => .error .unnamedEntity
  | some entity =>
    let texts := (node.childrenLabelled "Expand").filterMap Xml.Node.leadingText?
    .ok ⟨entity, Expansion.trimmedItems (texts.map String.toList)⟩

/-- Reads settings from a document. -/
def ofDocument (document : Xml.Document) : Except SettingsError Settings :=
  if document.root.label ≠ "ODataConfiguration" then
    .error (.unexpectedRoot document.root.label)
  else do
    let expansions ← (document.root.childrenLabelled "Entity").mapM expansionOf
    return { baseId := trimmedAttribute? document.root "BaseId", expansions }

/-- Reads settings from a text. `malformed` is the error for a text that is no document. -/
def read (malformed : Error) (text : String) : Except Error Settings :=
  match Xml.Document.parse? text with
  | none => .error malformed
  | some document => (ofDocument document).mapError Error.settings

/-- Reads settings from a text. -/
def parse (text : String) : Except Error Settings :=
  read .malformedDocument text

end Settings

end Csdl
