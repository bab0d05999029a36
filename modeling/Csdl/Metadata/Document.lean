import Csdl.Definition
import Csdl.Metadata.Container
import Csdl.Metadata.Link

/-!
Reading metadata documents, from bytes, from a text, or from the tree of a document. Each stage is
finished for the whole document before the next one begins: aliases and enumerations, the names of
structures, their content, links to keys, and the members of containers.
-/

namespace Csdl.Metadata

/-- The schemas of a document. -/
def schemas (root : Xml.Node) : Except Error (List Schema) :=
  match root.childrenNamed Markup.edmx "DataServices" with
  | [] => .error (.format .noDataServices)
  | services => (services.flatMap (Markup.children · "Schema")).mapM Schema.ofNode

/-- Registers the enumerations and the names of all structures. -/
def declare (settings : Settings) (schemas : List Schema) :
    Logged (Registry × List Declaration) := do
  let registry ← schemas.foldlM Schema.registerEnumerations {}
  let declared ← schemas.foldlM (Schema.announceAll settings) (registry, [])
  .tell (.registered declared.1.size schemas.length (Schema.aliases schemas).size)
  return declared

/-- Gives all structures their content and their links. -/
def complete (aliases : AliasTable) (stubs : Registry) (declarations : List Declaration) :
    Logged (Registry × List Navigation) := do
  let contents ← declarations.mapM (Content.read ⟨aliases, stubs⟩)
  let filled ← .ofExcept (Content.fillAll stubs contents)
  let navigations := Content.navigations contents
  let linked ← Link.attachAll filled navigations (Content.links contents)
  return (linked, navigations)

/-- Derives all members of containers. -/
def derive (settings : Settings) (schemas : List Schema) (registry : Registry)
    (navigations : List Navigation) : Logged (Registry × List ServiceFunction) := do
  let derived ← (schemas.flatMap Schema.members).foldlM
    (Derivation.step settings (Schema.aliases schemas) navigations) { registry }
  .tell (.generated derived.functions.length navigations.length)
  return (derived.registry, derived.functions)

/-- What the tree of a document defines. -/
def walk (settings : Settings) (location : Location) (document : Xml.Document) :
    Logged Definition := do
  let root := document.root
  if root.label ≠ "Edmx" then .fail (.format (.notEdmx root.label))
  else do
    let version := (root.attribute? "Version").getD ""
    if version.isEmpty then .tell .missingVersion
    let schemas ← .ofExcept (schemas root)
    let (stubs, declarations) ← declare settings schemas
    let (registry, navigations) ← complete (Schema.aliases schemas) stubs declarations
    let (registry, functions) ← derive settings schemas registry navigations
    return { version, location, registry, functions, navigations }

/-- What a text defines. The url is looked at before the text. -/
def read (settings : Settings) (url text : String) : Logged Definition := do
  let location ← .ofExcept (Location.parse url)
  match Xml.Document.parse? text with
  | none => .fail .malformedDocument
  | some document => walk settings location document

/-- What a text defines, or why it defines nothing. -/
def parse (settings : Settings) (url text : String) : Except Error Definition :=
  (read settings url text).result

/-- The text of a document's bytes. A byte order mark tells their encoding. -/
def decode (bytes : List UInt8) : Except Error String :=
  let (encoding, content) := Text.Encoding.split bytes
  match encoding.decode? content with
  | some text => .ok text
  | none => .error (.undecodable encoding)

/-- What bytes define. -/
def readBytes (settings : Settings) (url : String) (bytes : List UInt8) : Logged Definition := do
  let text ← .ofExcept (decode bytes)
  read settings url text

/-- What bytes define, or why they define nothing. -/
def parseBytes (settings : Settings) (url : String) (bytes : List UInt8) :
    Except Error Definition :=
  (readBytes settings url bytes).result

end Csdl.Metadata
