import Signpost.Address
import Signpost.Json.Reader
import Signpost.Transport
import Signpost.Proofs.Dispatch.Scan
import Signpost.Proofs.Router.History
import Signpost.Proofs.Router.Priority
import Signpost.Proofs.Pattern.Captures
import Signpost.Proofs.Router.Arity
import Signpost.Proofs.Site.Containment
import Signpost.Proofs.Pairs.RoundTrip
import Signpost.Proofs.Transport.Decoding
import Signpost.Proofs.Transport.Targets
import Signpost.Proofs.Site.FileTypes
import Signpost.Proofs.Site.Serving
import Signpost.Proofs.Dispatch.Calls
import Signpost.Proofs.Dispatch.Exchange
import Signpost.Proofs.Router.Mounting
import Signpost.Proofs.Dispatch.Endings
import Signpost.Proofs.Dispatch.Snapshots
import Signpost.Proofs.Router.Reordering
import Signpost.Proofs.Pattern.Grammar
import Signpost.Proofs.Pattern.Mounted
import Signpost.Proofs.Answer.Sending
import Signpost.Proofs.Dispatch.Observation
import Signpost.Proofs.Number.Integer
import Signpost.Proofs.Binding.Positional
import Signpost.Proofs.Transport.Fields
import Signpost.Proofs.Transport.Paths
import Signpost.Proofs.Dispatch.Failures
import Signpost.Proofs.Transport.MediaType
import Signpost.Proofs.Json.Grammar
import Signpost.Proofs.Json.RoundTrip
