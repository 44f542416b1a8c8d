import InetAddress.Octets.Basic
import InetAddress.Octets.Value
import InetAddress.Octets.Mask
import InetAddress.Octets.Shared
import InetAddress.Text.Decimal
import InetAddress.Text.Hex
import InetAddress.Text.Quoted
import InetAddress.Text.Printable
import InetAddress.Digest.Sip
import InetAddress.Digest.Fold
import InetAddress.Family
import InetAddress.V4.Basic
import InetAddress.V4.Text
import InetAddress.V6.Basic
import InetAddress.Error
import InetAddress.V4.Parse
import InetAddress.V4.Mask
import InetAddress.Mac
import InetAddress.V6.Multicast
import InetAddress.V6.Transition
import InetAddress.V6.Class
import InetAddress.V6.Index
import InetAddress.V6.Interface
import InetAddress.V6.ZeroRun
import InetAddress.V6.Text
import InetAddress.V6.Literal
import InetAddress.Reading
import InetAddress.V6.Parse
import InetAddress.V6.Mask
import InetAddress.Descriptor
import InetAddress.Address
import InetAddress.Error.Message
import InetAddress.Address.Parse
import InetAddress.Network
import InetAddress.Endpoint
import InetAddress.Registry
import InetAddress.Walk
import InetAddress.Report
import InetAddress.Main
import InetAddress.Proofs.Literal.Grammar
import InetAddress.Proofs.Literal.Pieces
import InetAddress.Proofs.Literal.Acceptance
import InetAddress.Proofs.Text.Derivation
import InetAddress.Proofs.Text.Room
import InetAddress.Proofs.Text.RoundTrip
import InetAddress.Proofs.Sameness
import InetAddress.Proofs.Network.Common
import InetAddress.Proofs.Network.Agreement
import InetAddress.Proofs.Network.Blocks
import InetAddress.Proofs.Registry
import InetAddress.Proofs.Languages
import InetAddress.Proofs.Network.NormalForm
import InetAddress.Proofs.Text.Lines
import InetAddress.Proofs.Text.Quoted
import InetAddress.Proofs.Walk
import InetAddress.Proofs.Report
import InetAddress.Proofs.Zones
import InetAddress.Proofs.Quads
import InetAddress.Proofs.Network.Mapped
import InetAddress.Proofs.Network.Exclusion
import InetAddress.Proofs.Network.Intervals
import InetAddress.Proofs.Embedding
import InetAddress.Proofs.Text.Display
import InetAddress.Proofs.Text.Separated
import InetAddress.Proofs.Text.Quad
import InetAddress.Proofs.Text.Mac
import InetAddress.Proofs.Network.SolicitedNode
import InetAddress.Proofs.Network.Interface
import InetAddress.Proofs.Digest
import InetAddress.Proofs.Network.V4Blocks
import InetAddress.Proofs.Index
import InetAddress.Proofs.Text.Description
import InetAddress.Proofs.Network.Trail
import InetAddress.Proofs.Octets.Scan
