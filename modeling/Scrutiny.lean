import Scrutiny.System
import Scrutiny.Host
import Scrutiny.Foundation.MaskedStore
import Scrutiny.MemoryControl.Blocks
import Scrutiny.MemoryControl.Write
import Scrutiny.MemoryControl.Refusal
import Scrutiny.MemoryControl.Acknowledgement
import Scrutiny.MemoryControl.Regions
import Scrutiny.MainHandler.Effects
import Scrutiny.Comm.Reception
import Scrutiny.Comm.Pending
import Scrutiny.Comm.Transmission
import Scrutiny.Comm.Delivery
import Scrutiny.Foundation.Handoff
import Scrutiny.Datalogging.Process
import Scrutiny.Datalogging.Ring
import Scrutiny.Datalogging.Calls
import Scrutiny.Datalogging.Position
import Scrutiny.Ownership.Exchange
import Scrutiny.Ownership.Loop
import Scrutiny.Ownership.Phase
import Scrutiny.Ownership.Token
import Scrutiny.Ownership.Requests
import Scrutiny.Ownership.Single
import Scrutiny.Ownership.Exclusive
import Scrutiny.Ownership.Step
import Scrutiny.Ownership.Reset
import Scrutiny.Foundation.Past
import Scrutiny.Session.Gate
import Scrutiny.Session.Once
import Scrutiny.Session.Lifecycle
import Scrutiny.Session.Retry
import Scrutiny.Comm.Calls
import Scrutiny.Comm.Popping
import Scrutiny.Comm.Parser
import Scrutiny.Comm.Represents
import Scrutiny.Comm.Chunks
import Scrutiny.Ownership.Reports
import Scrutiny.Ownership.Status
import Scrutiny.Datalogging.Firing
import Scrutiny.Datalogging.Reading
import Scrutiny.MainHandler.Download
import Scrutiny.Foundation.BigEndian
import Scrutiny.Protocol.Wire
import Scrutiny.Datalogging.Agreement
import Scrutiny.Acquisition.Checked
import Scrutiny.Acquisition.Decoding
import Scrutiny.Datalogging.Evaluation
import Scrutiny.Foundation.Loop
import Scrutiny.MemoryControl.Header
import Scrutiny.MemoryControl.Reading
import Scrutiny.MemoryControl.RoundTrip
import Scrutiny.MemoryControl.Stored
import Scrutiny.Ownership.Finality
import Scrutiny.Requests.Bounds
import Scrutiny.Requests.Contained
import Scrutiny.Comm.Corruption
import Scrutiny.Comm.Silence
import Scrutiny.Datalogging.Completion
import Scrutiny.Datalogging.OnTime
import Scrutiny.Datalogging.Relational
import Scrutiny.Datalogging.Slots
import Scrutiny.Integrity
import Scrutiny.Foundation.BitField
import Scrutiny.Datalogging.Bitfields
import Scrutiny.Datalogging.Change
import Scrutiny.Ownership.Arming
import Scrutiny.Ownership.Told
import Scrutiny.Acquisition.Rearming
import Scrutiny.Comm.Queries
import Scrutiny.Foundation.Dialogue
import Scrutiny.Requests.Naming
import Scrutiny.Session.Buffers
import Scrutiny.Session.Dialogue
import Scrutiny.Acquisition.Downloads
import Scrutiny.Foundation.Parts
import Scrutiny.Ipc.Message
import Scrutiny.Preemption.Exclusion
import Scrutiny.Preemption.Slots
