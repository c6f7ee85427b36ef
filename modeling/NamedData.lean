import NamedData.Record.Session
import NamedData.Packet
import NamedData.Inspect.Workspace
import NamedData.Main
import NamedData.Proofs.Coherence
import NamedData.Proofs.RoundTrip
import NamedData.Proofs.Normalisation
import NamedData.Proofs.Equality
import NamedData.Proofs.Observation
import NamedData.Proofs.FirstChild
import NamedData.Proofs.Grammar
import NamedData.Proofs.Framing
import NamedData.Proofs.Representation
import NamedData.Proofs.Buffers
import NamedData.Proofs.Uri
import NamedData.Proofs.Dispatch
import NamedData.Proofs.Failures
import NamedData.Proofs.DecodeRun
import NamedData.Proofs.Checked
import NamedData.Proofs.Escapes
import NamedData.Proofs.Bounds
import NamedData.Proofs.Delivery
import NamedData.Proofs.EncodeRun
import NamedData.Proofs.DecodeCommand
import NamedData.Proofs.Decimal
import NamedData.Proofs.Calendar
import NamedData.Proofs.JsonReader
import NamedData.Proofs.Rfc3339
import NamedData.Proofs.JsonForm
import NamedData.Proofs.JsonRoundTrip
import NamedData.Proofs.JsonInput
import NamedData.Proofs.Query
import NamedData.Proofs.LocalControl
import NamedData.Proofs.CanonicalOrder
import NamedData.Proofs.Nonce
import NamedData.Proofs.Truncation
import NamedData.Proofs.Patching
import NamedData.Proofs.NamesAndFilters
import NamedData.Proofs.Filtering
import NamedData.Proofs.Matching
import NamedData.Proofs.Expiration
import NamedData.Proofs.Children
import NamedData.Proofs.Annotations
import NamedData.Proofs.Numbers
import NamedData.Proofs.EscapedText
import NamedData.Proofs.FilterText
