import InverterLink.Main
import InverterLink.Report
import InverterLink.Proofs.Checksum
import InverterLink.Proofs.Link.Sending
import InverterLink.Proofs.Text.Utf8
import InverterLink.Proofs.Link.Receiving
import InverterLink.Proofs.Link.Transparency
import InverterLink.Proofs.Link.Clock
import InverterLink.Proofs.Service.Freshness
import InverterLink.Proofs.Service.Line
import InverterLink.Proofs.Service.Segments
import InverterLink.Proofs.Service.Chunking
import InverterLink.Proofs.Record.Items
import InverterLink.Proofs.Record.Writing
import InverterLink.Proofs.Record.Reading
import InverterLink.Proofs.Response
import InverterLink.Proofs.Command.Frames
import InverterLink.Proofs.Rendering
import InverterLink.Proofs.Record.Outcomes
import InverterLink.Proofs.Record.Display
import InverterLink.Proofs.Link.Returning
import InverterLink.Proofs.Link.Outcomes
import InverterLink.Proofs.Command.Refusals
import InverterLink.Proofs.Service.Outcomes
import InverterLink.Proofs.Service.Conversation
import InverterLink.Proofs.Service.Faults
import InverterLink.Proofs.Link.Traffic
import InverterLink.Proofs.Service.ErrorLimit
import InverterLink.Proofs.Service.Interleaving
import InverterLink.Proofs.Service.Traffic
import InverterLink.Proofs.Link.Fixtures
import InverterLink.Proofs.Service.Caching
import InverterLink.Proofs.Service.Pieces
import InverterLink.Proofs.Link.Answering
import InverterLink.Proofs.Link.Independence
import InverterLink.Proofs.Decoding
import InverterLink.Proofs.CommandLine.Agreement
import InverterLink.Proofs.Command.Readback
import InverterLink.Proofs.Service.Atomicity
import InverterLink.Proofs.Service.Updates
import InverterLink.Proofs.Service.Isolation
import InverterLink.Proofs.Service.Shutdown
import InverterLink.Proofs.Service.Pacing
import InverterLink.Proofs.Service.Statuses
import InverterLink.Proofs.Link.Acceptance
import InverterLink.Proofs.Command.Ranges
import InverterLink.Proofs.Record.Splitting
import InverterLink.Proofs.Command.Dates
import InverterLink.Proofs.Record.Faithfulness
import InverterLink.Proofs.Record.Trailing
import InverterLink.Proofs.Checksum.FlippedBit
import InverterLink.Proofs.Link.Waiting
import InverterLink.Proofs.Link.Serving
import InverterLink.Proofs.Service.Quiescence
import InverterLink.Proofs.Link.Delimiting
import InverterLink.Proofs.Decimal.Tenths
import InverterLink.Proofs.Json.Contents
import InverterLink.Proofs.Link.Recording
import InverterLink.Proofs.Blocks
import InverterLink.Proofs.Report
import InverterLink.Proofs.Text.Hexadecimal
import InverterLink.Proofs.HexDump
import InverterLink.Proofs.Service.Registrations
