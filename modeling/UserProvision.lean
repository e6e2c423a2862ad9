import UserProvision.Bytes
import UserProvision.Creation.Basic
import UserProvision.Creation.NewUser
import UserProvision.Creation.Request
import UserProvision.Digest
import UserProvision.Document.Element
import UserProvision.Document.Encoding
import UserProvision.Document.Field
import UserProvision.Document.Inspect
import UserProvision.Document.Join
import UserProvision.Document.Meaning
import UserProvision.Document.RawMeaning
import UserProvision.Document.Readable
import UserProvision.Document.Reading
import UserProvision.Document.Relaxed
import UserProvision.Document.Transfer
import UserProvision.Document.Value
import UserProvision.Failure.Basic
import UserProvision.Failure.Wording
import UserProvision.Invocation.Blocking
import UserProvision.Invocation.Polled
import UserProvision.Log.Event
import UserProvision.Number.Decimal128
import UserProvision.Number.Double
import UserProvision.Number.Notation
import UserProvision.Number.Shortest
import UserProvision.Pool.Basic
import UserProvision.Pool.Lease
import UserProvision.Rehearsal.Depot
import UserProvision.Rehearsal.Pool
import UserProvision.Rehearsal.Session
import UserProvision.Reply.Command
import UserProvision.Reply.LastError
import UserProvision.Request.Basic
import UserProvision.Server.Address
import UserProvision.Server.Description
import UserProvision.Text.Base64
import UserProvision.Text.Digits
import UserProvision.Text.Hex
import UserProvision.Text.Json
import UserProvision.Text.LowerCase
import UserProvision.Text.Quoted
import UserProvision.Text.Unprintable
import UserProvision.Time.Calendar
import UserProvision.Time.Span
import UserProvision.Time.Stamp
import UserProvision.User.Credential
import UserProvision.User.Namespace
import UserProvision.User.WriteConcern
import UserProvision.Proofs.Act.Evaluation
import UserProvision.Proofs.Creation.Commands
import UserProvision.Proofs.Creation.History
import UserProvision.Proofs.Creation.Inserts
import UserProvision.Proofs.Creation.Options
import UserProvision.Proofs.Creation.Requests
import UserProvision.Proofs.Document.Elements
import UserProvision.Proofs.Document.Field
import UserProvision.Proofs.Document.Growth
import UserProvision.Proofs.Document.Join
import UserProvision.Proofs.Document.Meaning
import UserProvision.Proofs.Document.Meaningful
import UserProvision.Proofs.Document.Nesting
import UserProvision.Proofs.Document.Opening
import UserProvision.Proofs.Document.Parts
import UserProvision.Proofs.Document.ReadBack
import UserProvision.Proofs.Document.Widening
import UserProvision.Proofs.Failure.Chain
import UserProvision.Proofs.Invocation.Agreement
import UserProvision.Proofs.Invocation.Bracketing
import UserProvision.Proofs.Invocation.Cancellation
import UserProvision.Proofs.Invocation.Choice
import UserProvision.Proofs.Invocation.Crowd
import UserProvision.Proofs.Invocation.Failures
import UserProvision.Proofs.Invocation.Following
import UserProvision.Proofs.Invocation.HandBack
import UserProvision.Proofs.Invocation.Lockstep
import UserProvision.Proofs.Invocation.Replay
import UserProvision.Proofs.Invocation.Rules
import UserProvision.Proofs.Invocation.Run
import UserProvision.Proofs.Invocation.Secrecy
import UserProvision.Proofs.Log.Lines
import UserProvision.Proofs.Number.Double
import UserProvision.Proofs.Number.Exact
import UserProvision.Proofs.Pool.Calls
import UserProvision.Proofs.Pool.Lease
import UserProvision.Proofs.Pool.Script
import UserProvision.Proofs.Pool.Trace
import UserProvision.Proofs.Reply.Command
import UserProvision.Proofs.Reply.LastError
import UserProvision.Proofs.Reply.Numbers
import UserProvision.Proofs.Reply.Refusal
import UserProvision.Proofs.Reply.Widening
import UserProvision.Proofs.Reply.WriteConcern
import UserProvision.Proofs.Request.Secrets
import UserProvision.Proofs.Server.Address
import UserProvision.Proofs.Server.Greeting
import UserProvision.Proofs.Text.LowerCase
import UserProvision.Proofs.User.WriteConcern
