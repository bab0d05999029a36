import Csdl.Text.Encoding

/-!
Everything that can go wrong, as causes, and the one wording of each cause.
-/

namespace Csdl

/-- Why a document does not describe a service. -/
inductive FormatError where
  | notEdmx (root : String)
  | noDataServices
  | missingAttribute (element name : String)
  | declaredTwice (namespaceName name : String)
  | baseNotStructured (base name : String)
  | targetNotStructured (navigation owner : String)
  | memberNotStructured (member type : String)
  | unterminatedCollection (type : String)
  | notAStructure (index : Nat)
  | unknownNavigation (index : Nat)
  | noEntityType (member : String)
  deriving DecidableEq, Repr

/-- Why a query text is refused. Positions count the characters before the place. -/
inductive QueryError where
  | expectedName (position : Nat)
  | unexpected (found : Char) (position : Nat)
  | attributeNotLast
  | expectedEquals
  | expectedLiteral
  | unterminatedLiteral
  | unterminatedPredicate
  | selectsValues
  deriving DecidableEq, Repr

/-- Why a url does not say where a service is. -/
inductive UrlError where
  | relative
  | emptyHost
  | invalidPort
  | invalidIpv4
  | invalidIpv6
  | invalidDomain
  | invalidDomainCharacter
  | noHost
  deriving DecidableEq, Repr

/-- Why settings are refused. -/
inductive SettingsError where
  | unexpectedRoot (found : String)
  | unnamedEntity
  | expansionWithoutEquals (argument : String)
  | expansionWithoutEntity (argument : String)
  deriving DecidableEq, Repr

/-- What can go wrong between the bytes of a document and its definition. -/
inductive Error where
  | unreadableMetadata (path : String)
  | malformedDocument
  | undecodable (encoding : Text.Encoding)
  | format (cause : FormatError)
  | unknownReference (name : String)
  | unknownPrimitive (name : String)
  | query (text : String) (cause : QueryError)
  | serviceUrl (url : String) (cause : UrlError)
  | unreadableSettings (path : String)
  | malformedSettings (path : String)
  | settings (cause : SettingsError)
  deriving DecidableEq, Repr

/-- The wording of a format error. -/
def FormatError.message : FormatError → String
  | notEdmx root => s!"Not an edmx document, the root tag is: {root}"
  | noDataServices => "Edmx document has no DataServices element"
  | missingAttribute element name => s!"<{element}> is missing the {name} attribute"
  | declaredTwice namespaceName name => s!"Type {namespaceName}.{name} is declared more than once"
  | baseNotStructured base name => s!"Base type {base} of {name} is not a structured type"
  | targetNotStructured navigation owner =>
    s!"Navigation property {navigation} of {owner} does not target a structured type"
  | memberNotStructured member type =>
    s!"Entity set {member} is bound to {type}, which is not a structured type"
  | unterminatedCollection type => s!"Unterminated collection type: {type}"
  | notAStructure index => s!"Type {index} is not a structure"
  | unknownNavigation index => s!"Unknown navigation index {index}"
  | noEntityType member => s!"Entity set {member} has no structured type"

/-- The wording of a query error. -/
def QueryError.message : QueryError → String
  | expectedName position => s!"expected a name at {position}"
  | unexpected found position => s!"unexpected '{found}' at {position}"
  | attributeNotLast => "an attribute must be the last step"
  | expectedEquals => "expected '=' in predicate"
  | expectedLiteral => "expected a quoted literal"
  | unterminatedLiteral => "unterminated literal"
  | unterminatedPredicate => "unterminated predicate"
  | selectsValues => "query selects attribute values, not elements"

/-- The wording of a url error. -/
def UrlError.message : UrlError → String
  | relative => "relative URL without a base"
  | emptyHost => "empty host"
  | invalidPort => "invalid port number"
  | invalidIpv4 => "invalid IPv4 address"
  | invalidIpv6 => "invalid IPv6 address"
  | invalidDomain => "invalid international domain name"
  | invalidDomainCharacter => "invalid domain character"
  | noHost => "the url has no host"

/-- The wording of a settings error. -/
def SettingsError.message : SettingsError → String
  | unexpectedRoot found => s!"Expected an ODataConfiguration root element, found {found}"
  | unnamedEntity => "Entity element without a Name attribute"
  | expansionWithoutEquals argument =>
    s!"Expected <entity>=<navigation>[,<navigation>], got '{argument}'"
  | expansionWithoutEntity argument => s!"Missing entity in expansion '{argument}'"

/-- The wording of an error. -/
def Error.message : Error → String
  | unreadableMetadata path => s!"Failed to read metadata file: {path}"
  | malformedDocument => "Failed to parse metadata document"
  | undecodable encoding =>
    s!"Metadata is not valid text: Metadata contains bytes that are not valid {encoding.name}"
  | format cause => s!"Invalid metadata format: {cause.message}"
  | unknownReference name => s!"Unknown type reference: {name}"
  | unknownPrimitive name => s!"Unknown Edm primitive type: {name}"
  | query text cause => s!"Invalid annotation query '{text}': {cause.message}"
  | serviceUrl url cause => s!"Invalid service url '{url}': {cause.message}"
  | unreadableSettings path => s!"Failed to read configuration file: {path}"
  | malformedSettings path => s!"Failed to parse configuration file: {path}"
  | settings cause => s!"Invalid configuration: {cause.message}"

end Csdl
