import Messenger.Assoc
import Messenger.Cbor.Head
import Messenger.Cbor.Read
import Messenger.Cbor.Write
import Messenger.Channel
import Messenger.Client.Basic
import Messenger.Client.Config
import Messenger.Conversation.Basic
import Messenger.Conversation.Forms
import Messenger.Conversation.Stored
import Messenger.Duration
import Messenger.Frame.Error
import Messenger.Frame.Header
import Messenger.History.Backfill
import Messenger.History.Forms
import Messenger.History.Request
import Messenger.History.Retry
import Messenger.History.Scripted
import Messenger.History.Source
import Messenger.History.Tracker
import Messenger.Json.Basic
import Messenger.Json.Form
import Messenger.Json.Strings
import Messenger.Kind
import Messenger.Message.Basic
import Messenger.Message.Compose
import Messenger.Message.Forms
import Messenger.Message.Payload
import Messenger.Octets
import Messenger.Proofs.Cbor.ReadBack
import Messenger.Proofs.Channel.Names
import Messenger.Proofs.Conversation.Activity
import Messenger.Proofs.Conversation.Convergence
import Messenger.Proofs.Conversation.Order
import Messenger.Proofs.Conversation.Reloading
import Messenger.Proofs.Conversation.Storable
import Messenger.Proofs.Frame.Composing
import Messenger.Proofs.Frame.Exactness
import Messenger.Proofs.Frame.Payloads
import Messenger.Proofs.Frame.Words
import Messenger.Proofs.History.Attempts
import Messenger.Proofs.History.Budget
import Messenger.Proofs.History.Contiguous
import Messenger.Proofs.History.Debt
import Messenger.Proofs.History.Delays
import Messenger.Proofs.History.Drive
import Messenger.Proofs.History.Ledger
import Messenger.Proofs.History.Scheduled
import Messenger.Proofs.History.Serving
import Messenger.Proofs.History.Steady
import Messenger.Proofs.History.Windows
import Messenger.Proofs.Json.Reader
import Messenger.Proofs.Json.Shapes
import Messenger.Proofs.Session.AckBasis
import Messenger.Proofs.Session.Acknowledgement
import Messenger.Proofs.Session.Addressing
import Messenger.Proofs.Session.Arranged
import Messenger.Proofs.Session.Arrival
import Messenger.Proofs.Session.Atomicity
import Messenger.Proofs.Session.Backing
import Messenger.Proofs.Session.Bounded
import Messenger.Proofs.Session.CaughtUp
import Messenger.Proofs.Session.Change
import Messenger.Proofs.Session.Commuting
import Messenger.Proofs.Session.Completion
import Messenger.Proofs.Session.ContentOnly
import Messenger.Proofs.Session.Cycle
import Messenger.Proofs.Session.Delivery
import Messenger.Proofs.Session.Dispatch
import Messenger.Proofs.Session.Durability
import Messenger.Proofs.Session.Filing
import Messenger.Proofs.Session.Filling
import Messenger.Proofs.Session.FirstContent
import Messenger.Proofs.Session.Follows
import Messenger.Proofs.Session.Locality
import Messenger.Proofs.Session.Pages
import Messenger.Proofs.Session.Persistence
import Messenger.Proofs.Session.Pieces
import Messenger.Proofs.Session.Progress
import Messenger.Proofs.Session.Reachable
import Messenger.Proofs.Session.Redelivery
import Messenger.Proofs.Session.Refusal
import Messenger.Proofs.Session.Requests
import Messenger.Proofs.Session.Resumption
import Messenger.Proofs.Session.Silence
import Messenger.Proofs.Session.Sparing
import Messenger.Proofs.Session.Synchronized
import Messenger.Proofs.Session.Turns
import Messenger.Proofs.Sorting
import Messenger.Proofs.Store.Agreement
import Messenger.Proofs.Store.Ranges
import Messenger.Proofs.Store.Rows
import Messenger.Proofs.Store.Shelf
import Messenger.Proofs.Store.Values
import Messenger.Proofs.Text.Encoding
import Messenger.Proofs.Text.Numerals
import Messenger.Proofs.Timeline.Ascending
import Messenger.Proofs.Timeline.Confirmation
import Messenger.Proofs.Timeline.Gaps
import Messenger.Proofs.Timeline.Insertion
import Messenger.Proofs.Timeline.Keyed
import Messenger.Proofs.Timeline.Lookup
import Messenger.Proofs.Timeline.Merging
import Messenger.Proofs.Timeline.Settled
import Messenger.Proofs.Timeline.Settling
import Messenger.Proofs.Timeline.Waiting
import Messenger.Proofs.Word.Checked
import Messenger.Sample.Fixture
import Messenger.Sample.Golden
import Messenger.Sample.Series
import Messenger.Session.Basic
import Messenger.Session.Browsing
import Messenger.Session.CatchUp
import Messenger.Session.Error
import Messenger.Session.Inbound
import Messenger.Session.Outbound
import Messenger.Store.Backend
import Messenger.Store.Basic
import Messenger.Store.Database
import Messenger.Store.Memory
import Messenger.Store.Relational
import Messenger.Store.Typed
import Messenger.Text.Blank
import Messenger.Text.Extending
import Messenger.Text.Numeral
import Messenger.Text.Quoted
import Messenger.Text.Unprintable
import Messenger.Text.Utf8
import Messenger.Timeline
import Messenger.Transport.Basic
import Messenger.Transport.Flaky
import Messenger.Transport.Forms
import Messenger.Transport.Link
import Messenger.Word
