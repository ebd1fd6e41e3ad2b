import SpdmEmu.Wire.Packed
import SpdmEmu.Wire.Memory
import SpdmEmu.Wire.Flags
import SpdmEmu.Run.Machine
import SpdmEmu.Libspdm.Status
import SpdmEmu.Report.Transfer
import SpdmEmu.Tdisp.Standard
import SpdmEmu.Tdisp.Device
import SpdmEmu.Tdisp.Responder
import SpdmEmu.Tdisp.Requester
import SpdmEmu.Tsp.Standard
import SpdmEmu.Tsp.Device
import SpdmEmu.Tsp.Validate
import SpdmEmu.Tsp.ValidConfiguration
import SpdmEmu.Tsp.Responder
import SpdmEmu.Tsp.Requester
import SpdmEmu.Tsp.TeState
import SpdmEmu.Tsp.Capability
import SpdmEmu.Report.EndToEnd
import SpdmEmu.Report.Adversary
import SpdmEmu.Tsp.Authority
import SpdmEmu.Tdisp.StartNonce
import SpdmEmu.Tdisp.Form
import SpdmEmu.Tdisp.Rejection
import SpdmEmu.Tdisp.DeviceSample
import SpdmEmu.Libc.Strtoull
import SpdmEmu.Tdisp.ReportFile
import SpdmEmu.Tdisp.ReportForm
import SpdmEmu.Tsp.Configuration
import SpdmEmu.Tsp.SecondarySessions
import SpdmEmu.Tsp.Unprivileged
import SpdmEmu.Run.Slots
import SpdmEmu.Run.Latest
import SpdmEmu.IdeKm.Responder
import SpdmEmu.IdeKm.Cxl
import SpdmEmu.IdeKm.KeySlots
import SpdmEmu.IdeKm.History
import SpdmEmu.KeyMaterial
import SpdmEmu.Doe.VendorDefined
import SpdmEmu.Doe.Responder
import SpdmEmu.Doe.ResponseLength
import SpdmEmu.Doe.Requester
import SpdmEmu.Mctp.Message
import SpdmEmu.Emulator.Session
import SpdmEmu.Emulator.TspDenial
import SpdmEmu.IdeKm.Requester
import SpdmEmu.IdeKm.QueryRoundTrip
import SpdmEmu.Doe.ResponseObjects
import SpdmEmu.Libspdm.Tunnel
import SpdmEmu.Doe.DispatchArray
import SpdmEmu.Doe.Tunnel
import SpdmEmu.Mctp.Tunnel
import SpdmEmu.Emulator.Tunnels
import SpdmEmu.Wire.ByteOrder
import SpdmEmu.Wire.Stream
import SpdmEmu.Wire.Records
import SpdmEmu.Socket.Command
import SpdmEmu.Socket.Framing
import SpdmEmu.Socket.Pcap
import SpdmEmu.Emulator.NvStorage
import SpdmEmu.Run.Loop
import SpdmEmu.Doe.Discovery
import SpdmEmu.Tdisp.Frame
import SpdmEmu.Tdisp.ReportLock
import SpdmEmu.Emulator.Measurement
import SpdmEmu.Emulator.Attester
import SpdmEmu.Meas.Collection
import SpdmEmu.Meas.SummaryHash
import SpdmEmu.Meas.Evidence
import SpdmEmu.Corim.Data
import SpdmEmu.Corim.Signature
import SpdmEmu.Corim.Decoder
import SpdmEmu.Corim.RoundTrip
import SpdmEmu.Wire.Reading
import SpdmEmu.Libc.CString
import SpdmEmu.Device.CompilerStub
import SpdmEmu.Tdisp.ReportWalk
import SpdmEmu.Libc.Text
import SpdmEmu.Emulator.FlagNames
import SpdmEmu.Emulator.SupportedAlgorithms
import SpdmEmu.Emulator.LoadCalls
import SpdmEmu.Emulator.PskProvision
import SpdmEmu.Doe.Residue
import SpdmEmu.Mctp.Pldm
import SpdmEmu.Device.Mailbox
import SpdmEmu.Run.Flow
import SpdmEmu.Run.Shared
import SpdmEmu.Report.Truthful
import SpdmEmu.Tdisp.Session
import SpdmEmu.Tdisp.Agreement
import SpdmEmu.Tdisp.Completion
import SpdmEmu.Libspdm.Host
import SpdmEmu.IdeKm.Session
import SpdmEmu.IdeKm.SessionKeys
import SpdmEmu.IdeKm.CxlSession
import SpdmEmu.IdeKm.CxlSessionKeys
import SpdmEmu.Tsp.Session
import SpdmEmu.Tsp.SessionAgreement
import SpdmEmu.Tsp.SampleChecks
import SpdmEmu.Tsp.Ready
import SpdmEmu.Tsp.SessionCompletes
import SpdmEmu.Emulator.PlatformServer
import SpdmEmu.Emulator.PlatformService
import SpdmEmu.Emulator.PlatformConnections
