import ReplayProxy.Admin
import ReplayProxy.Fingerprint
import ReplayProxy.Main
import ReplayProxy.Program.Posix
import ReplayProxy.Proxy
import ReplayProxy.Proofs.Engine.Modes
import ReplayProxy.Proofs.Engine.Records
import ReplayProxy.Proofs.Engine.Replay
import ReplayProxy.Proofs.Fingerprint.Framing
import ReplayProxy.Proofs.Engine.Neutral
import ReplayProxy.Proofs.Fingerprint.ContentType
import ReplayProxy.Proofs.Engine.Reimport
import ReplayProxy.Proofs.Admin.Answered
import ReplayProxy.Proofs.Admin.Metadata
import ReplayProxy.Proofs.Admin.Orderly
import ReplayProxy.Proofs.Storage.Agreement
import ReplayProxy.Proofs.Service.Counting
import ReplayProxy.Proofs.Service.HostCase
import ReplayProxy.Proofs.Certificate.Leaves
import ReplayProxy.Proofs.Certificate.Pairing
import ReplayProxy.Proofs.Forward.Contact
import ReplayProxy.Proofs.Forward.Unmodified
import ReplayProxy.Proofs.Engine.Importing
import ReplayProxy.Proofs.Envelope.Texts
import ReplayProxy.Proofs.Fingerprint.JsonBody
import ReplayProxy.Proofs.Fingerprint.Query
import ReplayProxy.Proofs.Fingerprint.XmlBody
import ReplayProxy.Proofs.Engine.Sniffing
import ReplayProxy.Proofs.Engine.Completed
import ReplayProxy.Proofs.Forward.Marks
import ReplayProxy.Proofs.Service.DefaultPort
import ReplayProxy.Proofs.Address.Listening
import ReplayProxy.Proofs.Certificate.Naming
import ReplayProxy.Proofs.Storage.Versions
