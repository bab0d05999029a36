import Csdl.Proofs.Inspection.Places
import Csdl.Proofs.Inspection.Reading
import Csdl.Proofs.Inspection.Telling
import Csdl.Proofs.Xml.Tokens

/-! An inspection of many documents. The texts of its options tell paths, one text after the other,
and settings are merged once for all of them. Each document is then read as if it were alone. Either
all of them define something, and what they define comes in the order of their paths, or one that
does not is told. -/
namespace Csdl

namespace Inspection

open Files (Search System)

variable {search : Search} {system : System} {options : InspectionOptions}

section Documents

variable {merged : Settings} {url : String} {paths : List String}

end Documents

section Sample

open Files (Pattern)
open Xml (Document Token WrittenAttribute)

/-- A document that declares nothing. -/
def sampleText : String :=
  "<Edmx xmlns=\"http://docs.oasis-open.org/odata/ns/edmx\"><DataServices/></Edmx>"

/-- The tree of the document that declares nothing. -/
def sampleDocument : Document where
  before := []
  root := .element ⟨some Markup.edmx, "Edmx"⟩ []
    [.element ⟨some Markup.edmx, "DataServices"⟩ [] []]
  after := []

end Sample

end Inspection

end Csdl
