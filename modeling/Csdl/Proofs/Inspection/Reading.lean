import Csdl.Inspection
import Csdl.Proofs.Metadata.Decoding
import Csdl.Proofs.Settings.Document

/-! What is read from the file at a path. Its bytes are decoded, the text is taken apart as a document,
and the document is read, as settings or as metadata. At each of these stages it can turn out that
there is nothing to go on with, and then this is the error. -/
namespace Csdl

/-- The settings that are in a document. -/
structure Xml.Document.Gives (document : Xml.Document) (settings : Settings) : Prop where
  root_eq : document.root.label = "ODataConfiguration"
  baseId_eq : settings.baseId = Settings.trimmedAttribute? document.root "BaseId"
  asked : List.Forall₂ (fun element expansion =>
      Expansion.AskedBy (·.leadingText?.getD "") element expansion)
    (document.root.childrenLabelled "Entity") settings.expansions

namespace Settings

end Settings

namespace Inspection

open Text (Encoding Presents)

variable {system : Files.System} {path : String}

section Document

variable {merged : Settings} {url : String} {bytes : List UInt8} {text : String}

end Document

end Inspection

end Csdl
