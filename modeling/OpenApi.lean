import OpenApi.Command.Folder
import OpenApi.Main
import OpenApi.Resolution.Record
import OpenApi.Json.Reader
import OpenApi.Proofs.Fields
import OpenApi.Proofs.Text
import OpenApi.Proofs.Json.Parts
import OpenApi.Proofs.Json.Size
import OpenApi.Proofs.Json.Keys
import OpenApi.Proofs.Json.Reordering
import OpenApi.Proofs.Json.Equality
import OpenApi.Proofs.Json.Read
import OpenApi.Proofs.Percent
import OpenApi.Proofs.Pointer
import OpenApi.Proofs.Rendering
import OpenApi.Proofs.Resolution.Met
import OpenApi.Proofs.Resolution.Visit
import OpenApi.Proofs.Resolution.Sighting
import OpenApi.Proofs.Resolution.Sound
import OpenApi.Proofs.Resolution.Broken
import OpenApi.Proofs.Resolution.Reordering
import OpenApi.Proofs.Resolution.Outcome
import OpenApi.Proofs.Resolution.Remainder
import OpenApi.Proofs.Resolution.Unfolding
import OpenApi.Proofs.Resolution.Effect
import OpenApi.Proofs.Resolution.Recursion
import OpenApi.Proofs.Schema.Resembles
import OpenApi.Proofs.Schema.Denotation
import OpenApi.Proofs.Schema.Sites
import OpenApi.Proofs.Schema.Bodies
import OpenApi.Proofs.Schema.Authored
import OpenApi.Proofs.Schema.Image
import OpenApi.Proofs.Schema.Fresh
import OpenApi.Proofs.Schema.Allocation
import OpenApi.Proofs.Schema.Coined
import OpenApi.Proofs.Schema.Meets
import OpenApi.Proofs.Schema.Nodes
import OpenApi.Proofs.Schema.Merging
import OpenApi.Proofs.Schema.Trace
import OpenApi.Proofs.Schema.Slots
import OpenApi.Proofs.Schema.Spelling
import OpenApi.Proofs.Schema.Entries
import OpenApi.Proofs.Schema.Descent
import OpenApi.Proofs.Schema.Opened
import OpenApi.Proofs.Schema.Marks
import OpenApi.Proofs.Schema.Carried
import OpenApi.Proofs.Schema.Integrity
import OpenApi.Proofs.Schema.Faithful
import OpenApi.Proofs.Schema.Lineage
import OpenApi.Proofs.Schema.Contract
import OpenApi.Proofs.Schema.Decoding
import OpenApi.Proofs.Schema.ReadBack
import OpenApi.Proofs.Schema.Stable
import OpenApi.Proofs.Schema.Outermost
import OpenApi.Proofs.Schema.Operations
import OpenApi.Proofs.Schema.Entered
import OpenApi.Proofs.Schema.Tour
import OpenApi.Proofs.Schema.Closure
import OpenApi.Proofs.Schema.Parallel
import OpenApi.Proofs.Schema.Depth
import OpenApi.Proofs.Flatten
import OpenApi.Proofs.Resolution.Circles
import OpenApi.Proofs.Resolution.Places
import OpenApi.Proofs.Resolution.Paths
import OpenApi.Proofs.Schema.Journal
import OpenApi.Proofs.Schema.Kept
import OpenApi.Proofs.Schema.Chronicle
import OpenApi.Proofs.Schema.Nesting
import OpenApi.Proofs.Schema.Reuse
import OpenApi.Proofs.Schema.Accepted
import OpenApi.Proofs.Schema.Partners
import OpenApi.Proofs.Schema.Abreast
import OpenApi.Proofs.Schema.Lockstep
import OpenApi.Proofs.Schema.Typing
