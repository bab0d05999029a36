import Csdl.Xml.Document

/-! How the text of a document is taken apart. Attributes and tokens are read one after the other,
each behind those that have been read before. -/
namespace Csdl.Xml

end Csdl.Xml
