import Csdl.Main
import Csdl.Proofs.Metadata.Operations
import Csdl.Proofs.Metadata.Inherited
import Csdl.Proofs.Metadata.Remarks
import Csdl.Proofs.View.Registry
import Csdl.Proofs.Renaming.Reading
import Csdl.Proofs.Exchange.Reading
import Csdl.Proofs.Query.Selection
import Csdl.Proofs.Query.Grammar
import Csdl.Proofs.Capability.Annotations
import Csdl.Proofs.Metadata.Failure
import Csdl.Proofs.Metadata.Naming
import Csdl.Proofs.Metadata.History
import Csdl.Proofs.View.Members
import Csdl.Proofs.View.Expansions
import Csdl.Proofs.View.Content
import Csdl.Proofs.View.Preparation
import Csdl.Proofs.Metadata.Origin
import Csdl.Proofs.View.BaseId
import Csdl.Proofs.Metadata.Decoding
import Csdl.Proofs.Metadata.Persistence
import Csdl.Proofs.Metadata.PointRecord
import Csdl.Proofs.Files.Glyph
import Csdl.Proofs.Files.Order
import Csdl.Proofs.Files.Finding
import Csdl.Proofs.Files.Listing
import Csdl.Proofs.Files.Meaning
import Csdl.Proofs.Inspection
import Csdl.Proofs.Registry.FieldWalk
import Csdl.Proofs.Registry.Subtype
import Csdl.Proofs.Member.Signature
import Csdl.Proofs.Metadata.Expansion
import Csdl.Proofs.Metadata.References
import Csdl.Proofs.Metadata.Agenda
import Csdl.Proofs.Metadata.Navigations
import Csdl.Proofs.Settings.Document
import Csdl.Proofs.Settings.Expansion
import Csdl.Proofs.Text.Items
import Csdl.Proofs.Types.Enclosure
