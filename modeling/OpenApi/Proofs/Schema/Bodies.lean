import OpenApi.Proofs.Schema.Denotation
import OpenApi.Proofs.Schema.Sites
/-! Which bodies a document lists. A structured body is listed once, at its place, unless it resembles
a declared schema. Then the body denotes that schema if what faces a reference does, and otherwise it
is lost. -/
namespace OpenApi.Schema
open Resolution (HasReference)

namespace Body

section
variable {document operation body schema : Json} {path method : String} {slot : BodySlot}

end
end Body

end OpenApi.Schema
