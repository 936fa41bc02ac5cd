import Acquisition.Bytes
import Acquisition.Bytes.Lemmas
import Acquisition.Checksum
import Acquisition.Text.Hex
import Acquisition.Text.Utf8
import Acquisition.Text.Numeral
import Acquisition.Text.Character
import Acquisition.Text.Emoji
import Acquisition.Text.Width
import Acquisition.Json.Reader
import Acquisition.Json.Printer
import Acquisition.Frame.Error
import Acquisition.Frame
import Acquisition.Command
import Acquisition.Ring
import Acquisition.Receiver
import Acquisition.RecordQueue
import Acquisition.Device.ConfigFile
import Acquisition.Device.State
import Acquisition.Device.Request
import Acquisition.Device.Response
import Acquisition.Random.Draw
import Acquisition.Device
import Acquisition.Device.ResponseText
import Acquisition.Link.Loopback
import Acquisition.Link.ChunkStream
import Acquisition.Link.TcpLink
import Acquisition.Session
import Acquisition.CommandLine.FileTree
import Acquisition.CommandLine
import Acquisition.Main
import Acquisition.Proofs.Text.Utf8
import Acquisition.Proofs.Text.Numeral
import Acquisition.Proofs.Text.Hex
import Acquisition.Proofs.Ring.Contents
import Acquisition.Proofs.Ring.Window
import Acquisition.Proofs.Checksum.Register
import Acquisition.Proofs.Checksum.Detection
import Acquisition.Proofs.Checksum.Period
import Acquisition.Proofs.Frame.Verdict
import Acquisition.Proofs.Frame.Layout
import Acquisition.Proofs.Frame.Format
import Acquisition.Proofs.Frame.Corruption
import Acquisition.Proofs.Queue.Records
import Acquisition.Proofs.Queue.Admission
import Acquisition.Proofs.Queue.Bounded
import Acquisition.Proofs.Reception.Scanner
import Acquisition.Proofs.Reception.Chunking
import Acquisition.Proofs.Reception.Framing
import Acquisition.Proofs.Reception.Backlog
import Acquisition.Proofs.Reception.Extraction
import Acquisition.Proofs.Reception.Limit
import Acquisition.Proofs.Device.Emission
import Acquisition.Proofs.Device.Decoding
import Acquisition.Proofs.Device.ResponseFormat
import Acquisition.Proofs.Device.RequestFormat
import Acquisition.Proofs.Device.Replies
import Acquisition.Proofs.Device.Runs
import Acquisition.Proofs.Device.Bursts
import Acquisition.Proofs.Device.Pacing
import Acquisition.Proofs.Device.Channels
import Acquisition.Proofs.Device.Configuring
import Acquisition.Proofs.Device.Consistency
import Acquisition.Proofs.Device.Stamps
import Acquisition.Proofs.Device.Idling
import Acquisition.Proofs.Device.Readable
import Acquisition.Proofs.Device.Counting
import Acquisition.Proofs.Device.Numbering
import Acquisition.Proofs.Session.Recording
import Acquisition.Proofs.Session.Outgoing
import Acquisition.Proofs.Session.Conversation
import Acquisition.Proofs.Session.Backlog
import Acquisition.Proofs.Session.Passage
import Acquisition.Proofs.Session.Accounting
import Acquisition.Proofs.Session.Failing
import Acquisition.Proofs.Session.Idling
import Acquisition.Proofs.Device.Backpressure
import Acquisition.Proofs.Device.Queries
import Acquisition.Proofs.Device.Answering
import Acquisition.Proofs.Link.Address
import Acquisition.Proofs.Link.BlockPool
import Acquisition.Proofs.Link.Inbox
import Acquisition.Proofs.Link.Receiving
import Acquisition.Proofs.Link.Sending
import Acquisition.Proofs.Link.Settling
import Acquisition.Proofs.CommandLine.Reply
import Acquisition.Proofs.CommandLine.HexPayload
