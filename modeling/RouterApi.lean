import RouterApi.Address
import RouterApi.Assoc
import RouterApi.Binary64
import RouterApi.Charset
import RouterApi.Charset.Escape
import RouterApi.Charset.Utf8
import RouterApi.Client
import RouterApi.Client.Commands
import RouterApi.Client.Reader
import RouterApi.Dial
import RouterApi.Duration
import RouterApi.Duration.Reading
import RouterApi.Encoding
import RouterApi.Error
import RouterApi.Hex
import RouterApi.InternalId
import RouterApi.Journal
import RouterApi.Login
import RouterApi.Md5
import RouterApi.Numeral
import RouterApi.Proofs.Address
import RouterApi.Proofs.Aggregation
import RouterApi.Proofs.Assoc
import RouterApi.Proofs.Charset
import RouterApi.Proofs.Client.Accounts
import RouterApi.Proofs.Client.Answering
import RouterApi.Proofs.Client.Awaiting
import RouterApi.Proofs.Client.Closing
import RouterApi.Proofs.Client.Ending
import RouterApi.Proofs.Client.Exchanges
import RouterApi.Proofs.Client.Expecting
import RouterApi.Proofs.Client.FailedSubmission
import RouterApi.Proofs.Client.Incidents
import RouterApi.Proofs.Client.Life
import RouterApi.Proofs.Client.LookAlike
import RouterApi.Proofs.Client.Offers
import RouterApi.Proofs.Client.Operations
import RouterApi.Proofs.Client.Orderly
import RouterApi.Proofs.Client.Quiet
import RouterApi.Proofs.Client.Receiving
import RouterApi.Proofs.Client.Redaction
import RouterApi.Proofs.Client.Replies
import RouterApi.Proofs.Client.Running
import RouterApi.Proofs.Client.Runs
import RouterApi.Proofs.Client.Sealed
import RouterApi.Proofs.Client.Sending
import RouterApi.Proofs.Client.Stability
import RouterApi.Proofs.Client.Standing
import RouterApi.Proofs.Client.Submission
import RouterApi.Proofs.Client.SynchronousRun
import RouterApi.Proofs.Client.Tags
import RouterApi.Proofs.Client.TakingCommands
import RouterApi.Proofs.Client.Tracking
import RouterApi.Proofs.Client.Traffic
import RouterApi.Proofs.Client.Transcript
import RouterApi.Proofs.Client.Transport
import RouterApi.Proofs.Client.Turns
import RouterApi.Proofs.Client.Untouched
import RouterApi.Proofs.Closing
import RouterApi.Proofs.CommandWords
import RouterApi.Proofs.Completion
import RouterApi.Proofs.Content
import RouterApi.Proofs.Correlation
import RouterApi.Proofs.Decimal
import RouterApi.Proofs.Delivery
import RouterApi.Proofs.Dialing
import RouterApi.Proofs.Duration.Canonical
import RouterApi.Proofs.Duration.Runs
import RouterApi.Proofs.Duration.Sums
import RouterApi.Proofs.FatalSentences
import RouterApi.Proofs.Hex
import RouterApi.Proofs.InternalId
import RouterApi.Proofs.Isolation
import RouterApi.Proofs.Isolation.Account
import RouterApi.Proofs.Isolation.Cancellation
import RouterApi.Proofs.Isolation.Run
import RouterApi.Proofs.Isolation.Service
import RouterApi.Proofs.Isolation.Sparing
import RouterApi.Proofs.LenientReading
import RouterApi.Proofs.Listening
import RouterApi.Proofs.LogSecrecy
import RouterApi.Proofs.Login
import RouterApi.Proofs.LoginOutcome
import RouterApi.Proofs.LoginSecrecy
import RouterApi.Proofs.Masking
import RouterApi.Proofs.ModesAgree
import RouterApi.Proofs.Numeral
import RouterApi.Proofs.Partition
import RouterApi.Proofs.Records
import RouterApi.Proofs.Session.ExactlyOnce
import RouterApi.Proofs.Session.Failing
import RouterApi.Proofs.Session.Listener
import RouterApi.Proofs.Session.Observing
import RouterApi.Proofs.Session.Outcomes
import RouterApi.Proofs.Session.Prompt
import RouterApi.Proofs.Session.Redaction
import RouterApi.Proofs.Session.Runs
import RouterApi.Proofs.Session.Stability
import RouterApi.Proofs.Session.Table
import RouterApi.Proofs.Settings
import RouterApi.Proofs.Settings.History
import RouterApi.Proofs.Settings.Lookups
import RouterApi.Proofs.Text
import RouterApi.Proofs.Transcript
import RouterApi.Proofs.Version
import RouterApi.Proofs.Waiting
import RouterApi.Proofs.Wire.Chunks
import RouterApi.Proofs.Wire.Fragments
import RouterApi.Proofs.Wire.Grammar
import RouterApi.Proofs.Wire.Layout
import RouterApi.Proofs.Wire.LengthPrefix
import RouterApi.Proofs.Wire.LostFraming
import RouterApi.Proofs.Wire.PrefixCode
import RouterApi.Proofs.Wire.Reading
import RouterApi.Proofs.Wire.RoundTrip
import RouterApi.Proofs.Wire.Scanning
import RouterApi.Proofs.Wire.Segments
import RouterApi.Proofs.Wire.TagWords
import RouterApi.Proofs.Wire.WordErrors
import RouterApi.Record
import RouterApi.Record.Converter
import RouterApi.Reply
import RouterApi.Request
import RouterApi.Sentence
import RouterApi.Session
import RouterApi.Session.Completion
import RouterApi.Session.Detached
import RouterApi.Session.Dispatch
import RouterApi.Session.Listening
import RouterApi.Settings
import RouterApi.Stream
import RouterApi.Text
import RouterApi.Text.Blank
import RouterApi.Text.Digit
import RouterApi.Text.Printable
import RouterApi.Text.Quoted
import RouterApi.Timestamp
import RouterApi.Value
import RouterApi.Version
import RouterApi.Wire.Decoder
import RouterApi.Wire.Encoder
import RouterApi.Wire.Length
import RouterApi.Wire.LengthPrefix
import RouterApi.Word
