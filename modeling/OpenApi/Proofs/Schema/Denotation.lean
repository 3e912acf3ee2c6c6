import OpenApi.Proofs.Schema.Nodes
import OpenApi.Proofs.Schema.Resembles
/-! What a schema denotes whose references have not all gone: a reference to a declared schema stands
for that schema, over and over where it is recursive. Two schemas denote the same if they are alike to
every depth. Resemblance asks for less, since it stops at a reference; what it leaves open is how
the values compare that face each other there. -/
namespace OpenApi.Schema
open Resolution (Scalar)

section
variable {declared : Fields Json} {a b x y : Json}

end
end OpenApi.Schema
