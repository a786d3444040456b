import ConfigGate.Access.Client
import ConfigGate.Access.Lookup
import ConfigGate.Http.Exchange
import ConfigGate.Settings.Sources
import ConfigGate.Proofs.Keyed
import ConfigGate.Proofs.Time
import ConfigGate.Proofs.Tree.Entries
import ConfigGate.Proofs.Tree.WellFormed
import ConfigGate.Proofs.Tree.Leads
import ConfigGate.Proofs.Tree.Walk
import ConfigGate.Proofs.Tree.Canonical
import ConfigGate.Proofs.Access.Act
import ConfigGate.Proofs.Access.Guard
import ConfigGate.Proofs.Access.Read
import ConfigGate.Proofs.Tree.Operations
import ConfigGate.Proofs.Access.Confinement
import ConfigGate.Proofs.Tree.LongNames
import ConfigGate.Proofs.Tree.Growth
import ConfigGate.Proofs.Tree.Change
import ConfigGate.Proofs.Access.Write
import ConfigGate.Proofs.Access.FailedWrite
import ConfigGate.Proofs.Access.WriteFrame
import ConfigGate.Proofs.Tree.Linkless
import ConfigGate.Proofs.Tree.Outline
import ConfigGate.Proofs.Access.Temporary
import ConfigGate.Proofs.Access.Plan
import ConfigGate.Proofs.Access.Underway
import ConfigGate.Proofs.Access.Sequential
import ConfigGate.Proofs.Access.Listing
import ConfigGate.Proofs.Access.Lock
import ConfigGate.Proofs.Access.Call
import ConfigGate.Proofs.Access.Interference
import ConfigGate.Proofs.Access.History
import ConfigGate.Proofs.Access.Stepping
import ConfigGate.Proofs.Access.Linearization
import ConfigGate.Proofs.Tree.Refill
import ConfigGate.Proofs.Access.InPlace
import ConfigGate.Proofs.Access.Serialization
import ConfigGate.Proofs.Access.Disclosure
import ConfigGate.Proofs.Access.Spelling
import ConfigGate.Proofs.Http.Urlencoded
import ConfigGate.Proofs.Log.Masking
import ConfigGate.Proofs.Access.Events
import ConfigGate.Proofs.Http.Serving
import ConfigGate.Proofs.Http.MaskedContents
import ConfigGate.Proofs.Tree.Skeleton
import ConfigGate.Proofs.Access.Discretion
import ConfigGate.Proofs.Access.Strategies
import ConfigGate.Proofs.Access.Accounting
import ConfigGate.Proofs.Access.Counting
import ConfigGate.Proofs.Access.Balance
import ConfigGate.Proofs.Json.Reader
import ConfigGate.Proofs.Log.Preview
import ConfigGate.Proofs.Http.Answer
import ConfigGate.Proofs.Http.Dispatch
import ConfigGate.Proofs.Http.ErrorEnvelope
import ConfigGate.Proofs.Http.RequestId
import ConfigGate.Proofs.Http.Transparency
import ConfigGate.Proofs.Http.RoundTrip
import ConfigGate.Proofs.Http.SameOperation
import ConfigGate.Proofs.Json.Written
import ConfigGate.Proofs.PropertyBag
import ConfigGate.Proofs.Access.Lookup
import ConfigGate.Proofs.Tree.Replacement
import ConfigGate.Proofs.Access.Rereading
import ConfigGate.Proofs.Access.LineEnds
import ConfigGate.Proofs.Access.Streaming
import ConfigGate.Proofs.Access.Completeness
import ConfigGate.Proofs.Access.LeadingSlash
import ConfigGate.Proofs.Json.Spelled
import ConfigGate.Proofs.Settings.HiddenFiles
import ConfigGate.Proofs.Trace.Parent
import ConfigGate.Proofs.Http.TracePropagation
import ConfigGate.Proofs.Log.Redaction
import ConfigGate.Proofs.PropertyBag.Arguments
import ConfigGate.Proofs.Access.PinnedRoot
import ConfigGate.Proofs.Log.Routing
import ConfigGate.Proofs.NameKeys
