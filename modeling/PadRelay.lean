import PadRelay.CommandLine
import PadRelay.Decimal.Binary64
import PadRelay.Decimal.Shortest
import PadRelay.Diagnostics
import PadRelay.Domain.Direction
import PadRelay.Domain.Label
import PadRelay.Domain.LabelData
import PadRelay.Domain.Mapping
import PadRelay.Domain.MappingData
import PadRelay.Domain.Name
import PadRelay.Domain.Punycode
import PadRelay.Escape
import PadRelay.Field
import PadRelay.Framer
import PadRelay.Ini.Basic
import PadRelay.Ini.Parser
import PadRelay.Json.Codec
import PadRelay.Json.Error
import PadRelay.Json.Lexical
import PadRelay.Json.Number
import PadRelay.Json.Record
import PadRelay.Json.Skip
import PadRelay.Json.Text
import PadRelay.Loader
import PadRelay.Main
import PadRelay.Observation
import PadRelay.Pad.Event
import PadRelay.Pad.Update
import PadRelay.Payload
import PadRelay.Program
import PadRelay.Receiver
import PadRelay.Relay
import PadRelay.Selection
import PadRelay.Settings
import PadRelay.Severity
import PadRelay.Shutdown
import PadRelay.SocketAddress
import PadRelay.Template
import PadRelay.Text.Blank
import PadRelay.Text.Case
import PadRelay.Text.CaseData
import PadRelay.Text.Compose
import PadRelay.Text.ComposeData
import PadRelay.Text.Hex
import PadRelay.Text.Integer
import PadRelay.Text.Lines
import PadRelay.Text.Percent
import PadRelay.Text.Quoted
import PadRelay.Text.Split
import PadRelay.Text.Table
import PadRelay.Text.Utf8
import PadRelay.Text.VisibleData
import PadRelay.Url.Basic
import PadRelay.Url.Host
import PadRelay.Url.Parser
import PadRelay.Url.Target
import PadRelay.Proofs.Framing.Cut
import PadRelay.Proofs.Framing.Drain
import PadRelay.Proofs.Framing.Session
import PadRelay.Proofs.Receiving.Stream
import PadRelay.Proofs.Relaying.Sends
import PadRelay.Proofs.Json.Number
import PadRelay.Proofs.Json.Integer
import PadRelay.Proofs.Json.Faithful
import PadRelay.Proofs.Json.Record
import PadRelay.Proofs.Pad.Documents
import PadRelay.Proofs.Receiving.Sent
import PadRelay.Proofs.Json.Grammar
import PadRelay.Proofs.Json.Spelling
import PadRelay.Proofs.Json.Skip
import PadRelay.Proofs.Pad.Forms
import PadRelay.Proofs.Json.Unique
import PadRelay.Proofs.Template.Literals
import PadRelay.Proofs.Payload.Body
import PadRelay.Proofs.Ini.Written
import PadRelay.Proofs.Ini.Roundtrip
import PadRelay.Proofs.Payload.Controls
import PadRelay.Proofs.Framing.Rescan
import PadRelay.Proofs.Framing.Growth
import PadRelay.Proofs.Framing.Limit
import PadRelay.Proofs.Framing.Checked
import PadRelay.Proofs.Receiving.Reports
import PadRelay.Proofs.Receiving.Interleaving
import PadRelay.Proofs.Relaying.Accounting
import PadRelay.Proofs.Receiving.Bounded
import PadRelay.Proofs.Receiving.Checked
import PadRelay.Proofs.Text.Lined
import PadRelay.Proofs.Text.Integer
import PadRelay.Proofs.Ini.Layout
import PadRelay.Proofs.Ini.Errors
import PadRelay.Proofs.Json.Local
import PadRelay.Proofs.Json.Passing
import PadRelay.Proofs.Json.Definite
import PadRelay.Proofs.Json.Entries
import PadRelay.Proofs.Json.Members
import PadRelay.Proofs.Json.Carried
import PadRelay.Proofs.Json.Located
import PadRelay.Proofs.Pad.Absent
import PadRelay.Proofs.Template.Grammar
import PadRelay.Proofs.Ini.Orderly
import PadRelay.Proofs.Ini.Rearranged
import PadRelay.Proofs.Relaying.Meaning
import PadRelay.Proofs.Shutdown.Uses
import PadRelay.Proofs.Shutdown.Buffer
import PadRelay.Proofs.Shutdown.Conservation
import PadRelay.Proofs.Template.Escaping
import PadRelay.Proofs.Template.Joined
import PadRelay.Proofs.Settings.Lines
import PadRelay.Proofs.Ini.Changed
import PadRelay.Proofs.Selecting.Keys
import PadRelay.Proofs.Selecting.Isolation
import PadRelay.Proofs.Settings.Complete
import PadRelay.Proofs.Relaying.Outcomes
import PadRelay.Proofs.Payload.Pushed
import PadRelay.Proofs.Pad.Numbers
import PadRelay.Proofs.Escaping.Entities
import PadRelay.Proofs.Escaping.Percent
import PadRelay.Proofs.Escaping.Literal
import PadRelay.Proofs.Selecting.Rule
