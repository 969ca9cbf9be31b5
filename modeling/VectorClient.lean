import VectorClient.Number.Text
import VectorClient.Text.Blank
import VectorClient.Text.Base64
import VectorClient.Text.Integer
import VectorClient.Text.Quoted
import VectorClient.Uuid
import VectorClient.Date.Text
import VectorClient.KeyMap
import VectorClient.Wire.Enumeration
import VectorClient.Wire.Encode
import VectorClient.Wire.Decode
import VectorClient.Wire.Property
import VectorClient.Wire.Search
import VectorClient.Wire.Reply
import VectorClient.Wire.Batch
import VectorClient.Wire.Tenant
import VectorClient.Wire.Received
import VectorClient.Search.Options
import VectorClient.Capability
import VectorClient.Vector.Wire
import VectorClient.Property.Wire
import VectorClient.Filter.Wire
import VectorClient.Search.Composition
import VectorClient.Json.Text
import VectorClient.Json.Parse
import VectorClient.Property.Json
import VectorClient.Vector.Json
import VectorClient.Reply.Wire
import VectorClient.Reply.Json
import VectorClient.Batch.Wire
import VectorClient.Batch.Json
import VectorClient.Tenant.Wire
import VectorClient.Tenant.Json
import VectorClient.Capability.Json
import VectorClient.Search.Json
import VectorClient.Config.Endpoint
import VectorClient.Session.Collection
import VectorClient.Session.Operation
import VectorClient.Session.Client
import VectorClient.Session.Script
import VectorClient.Json.Exact
import VectorClient.Property.Typed
import VectorClient.Wire.Named
import VectorClient.Vector.Typed
import VectorClient.Filter.Property
import VectorClient.Wire.Message
import VectorClient.Reply.Typed
import VectorClient.Proofs.Batch.Reply
import VectorClient.Proofs.Chunks
import VectorClient.Proofs.Batch.Objects
import VectorClient.Proofs.Session.Insert
import VectorClient.Proofs.Number.Power
import VectorClient.Proofs.Vector.Lanes
import VectorClient.Proofs.Number.Rounding
import VectorClient.Proofs.Date.Calendar
import VectorClient.Proofs.Date.Text
import VectorClient.Proofs.Property.RoundTrip
import VectorClient.Proofs.Filter.Serialization
import VectorClient.Proofs.Search.Request
import VectorClient.Proofs.Property.ListForm
import VectorClient.Proofs.Gating
import VectorClient.Proofs.Filter.Meaning
import VectorClient.Proofs.Vector.Wire
import VectorClient.Proofs.Search.Vectors
import VectorClient.Proofs.Search.Hybrid
import VectorClient.Proofs.Upgrade
import VectorClient.Proofs.Property.Reading
import VectorClient.Proofs.Session.Failure
import VectorClient.Proofs.Vector.Reading
import VectorClient.Proofs.Reply.Metadata
import VectorClient.Proofs.Reply.Objects
import VectorClient.Proofs.Number.Interval
import VectorClient.Proofs.Search.Frame
import VectorClient.Proofs.Search.WellFormed
import VectorClient.Proofs.Session.Resolution
import VectorClient.Proofs.Session.Validation
import VectorClient.Proofs.Session.Operation
import VectorClient.Proofs.Reply.Faults
import VectorClient.Proofs.Reply.Overlay
import VectorClient.Proofs.Batch.Vectors
import VectorClient.Proofs.Reply.Visible
import VectorClient.Proofs.Property.Rewriting
import VectorClient.Proofs.Search.Pairing
import VectorClient.Proofs.Json.Places
import VectorClient.Proofs.Number.Exact
import VectorClient.Proofs.Property.Document
import VectorClient.Proofs.Property.Kept
import VectorClient.Proofs.Property.Numbers
import VectorClient.Proofs.Wire.Request
import VectorClient.Proofs.Filter.Joining
import VectorClient.Proofs.Filter.Chain
import VectorClient.Proofs.Filter.Route
import VectorClient.Proofs.Search.Weights
import VectorClient.Proofs.Batch.Mapping
import VectorClient.Proofs.Batch.Correlation
import VectorClient.Proofs.Search.Grouping
import VectorClient.Proofs.Search.Returned
import VectorClient.Proofs.Date.Range
import VectorClient.Proofs.Vector.Rows
import VectorClient.Proofs.Vector.Framing
import VectorClient.Proofs.Number.Nearest
import VectorClient.Proofs.Vector.Ints
import VectorClient.Proofs.Reply.Vectors
import VectorClient.Proofs.Vector.Codec
import VectorClient.Proofs.Version
