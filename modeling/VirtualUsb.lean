import VirtualUsb.Bytes
import VirtualUsb.Error
import VirtualUsb.Time.Clock
import VirtualUsb.Time.Duration
import VirtualUsb.Guest.Buffer
import VirtualUsb.Wire.Setup
import VirtualUsb.Wire.Configuration
import VirtualUsb.Wire.Traversal
import VirtualUsb.Topology.Enumeration
import VirtualUsb.Host.Description
import VirtualUsb.Transfer.Report
import VirtualUsb.Device
import VirtualUsb.Controller
import VirtualUsb.Json.Reader
import VirtualUsb.Json.Printer
import VirtualUsb.Json.Values
import VirtualUsb.Json.Descriptors
import VirtualUsb.Json.Lookup
import VirtualUsb.Settings.Codec
import VirtualUsb.Proofs.Wire.Emission
import VirtualUsb.Proofs.Wire.Nesting
import VirtualUsb.Proofs.Wire.Reading
import VirtualUsb.Proofs.Bus.Frame
import VirtualUsb.Proofs.Transfer.Pool
import VirtualUsb.Proofs.Transfer.Pump
import VirtualUsb.Proofs.Transfer.Serving
import VirtualUsb.Proofs.Bus.Effect
import VirtualUsb.Proofs.Transfer.Bookkeeping
import VirtualUsb.Proofs.Transfer.InFlight
import VirtualUsb.Proofs.Transfer.Admission
import VirtualUsb.Proofs.Transfer.Landing
import VirtualUsb.Proofs.Transfer.Deadline
import VirtualUsb.Proofs.Controller.LifeCycle
import VirtualUsb.Proofs.Bus.Lineup
import VirtualUsb.Proofs.Bus.Lists
import VirtualUsb.Proofs.Host.Log
import VirtualUsb.Proofs.Device.Bracket
import VirtualUsb.Proofs.Bus.Moves
import VirtualUsb.Proofs.Transfer.Submission
import VirtualUsb.Proofs.Transfer.Packets
import VirtualUsb.Proofs.Bus.Departure
import VirtualUsb.Proofs.Transfer.Release
import VirtualUsb.Proofs.Device.Readings
import VirtualUsb.Proofs.Bus.Configurations
import VirtualUsb.Proofs.Bus.Selection
import VirtualUsb.Proofs.Settings.Construction
import VirtualUsb.Proofs.Bus.Custody
import VirtualUsb.Proofs.Transfer.Turns
import VirtualUsb.Proofs.Transfer.PumpTwice
import VirtualUsb.Proofs.Transfer.Refusal
import VirtualUsb.Proofs.Transfer.Finished
import VirtualUsb.Proofs.Transfer.PacketResults
import VirtualUsb.Proofs.Transfer.ControlStage
import VirtualUsb.Proofs.Device.Holding
import VirtualUsb.Proofs.Bus.Handles
import VirtualUsb.Proofs.Transfer.HandOver
import VirtualUsb.Proofs.Bus.Issued
import VirtualUsb.Proofs.Bus.Opening
import VirtualUsb.Proofs.Bus.Enumeration
import VirtualUsb.Proofs.Controller.Start
import VirtualUsb.Proofs.Controller.Issue
import VirtualUsb.Proofs.Controller.Isolation
import VirtualUsb.Proofs.Settings.Omission
import VirtualUsb.Proofs.Wire.Strings
import VirtualUsb.Proofs.Device.Edits
import VirtualUsb.Proofs.Device.Strings
import VirtualUsb.Proofs.Device.Confinement
import VirtualUsb.Proofs.Transfer.Descriptors
import VirtualUsb.Proofs.Wire.Traversal
import VirtualUsb.Proofs.Transfer.Framing
import VirtualUsb.Proofs.Bus.Disconnecting
import VirtualUsb.Proofs.Wire.Scan
import VirtualUsb.Proofs.Bus.PacketSize
import VirtualUsb.Proofs.Controller.Retries
import VirtualUsb.Proofs.Bus.LastSelected
import VirtualUsb.Proofs.Device.Dealings
import VirtualUsb.Proofs.Bus.History
import VirtualUsb.Proofs.Bus.Claims
import VirtualUsb.Proofs.Bus.Rereading
import VirtualUsb.Proofs.Wire.Records
import VirtualUsb.Proofs.Guest.ByteMap
import VirtualUsb.Proofs.Device.Configurations
import VirtualUsb.Proofs.Json.Reading
