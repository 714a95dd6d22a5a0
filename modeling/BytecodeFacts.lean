import BytecodeFacts.Main
import BytecodeFacts.Proofs.Command.Acceptance
import BytecodeFacts.Proofs.Command.Argument
import BytecodeFacts.Proofs.Command.Arguments
import BytecodeFacts.Proofs.Command.Ending
import BytecodeFacts.Proofs.Command.Group
import BytecodeFacts.Proofs.Command.Layout
import BytecodeFacts.Proofs.Command.Log
import BytecodeFacts.Proofs.Command.Mention
import BytecodeFacts.Proofs.Command.Observation
import BytecodeFacts.Proofs.Command.Output
import BytecodeFacts.Proofs.Command.RoundTrip
import BytecodeFacts.Proofs.Command.Toggle
import BytecodeFacts.Proofs.Configuration.Changes
import BytecodeFacts.Proofs.Configuration.Literal
import BytecodeFacts.Proofs.Configuration.Report
import BytecodeFacts.Proofs.Json.Grammar
import BytecodeFacts.Proofs.Json.Reader
import BytecodeFacts.Proofs.Json.Writer
import BytecodeFacts.Proofs.Mode.Recognition
import BytecodeFacts.Proofs.Plan.Kernel
import BytecodeFacts.Proofs.Plan.Sink
import BytecodeFacts.Proofs.Session.Clients
import BytecodeFacts.Proofs.Session.Construction
import BytecodeFacts.Proofs.Session.DraftHistory
import BytecodeFacts.Proofs.Session.Objects
import BytecodeFacts.Proofs.Session.Reload
import BytecodeFacts.Proofs.Session.Replacement
import BytecodeFacts.Proofs.Session.Separation
import BytecodeFacts.Proofs.Session.Validation
import BytecodeFacts.Proofs.Text.Characters
import BytecodeFacts.Proofs.Text.Quoted
import BytecodeFacts.Proofs.Text.Word
import BytecodeFacts.Proofs.Value.Literal
