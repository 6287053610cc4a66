import NatReach.Main
import NatReach.Discovery.Clock
import NatReach.Endpoint.Name
import NatReach.Endpoint.Register
import NatReach.Text.Octets
import NatReach.Proofs.Address.RoundTrip
import NatReach.Proofs.Config.Advertised
import NatReach.Proofs.Config.RoundTrip
import NatReach.Proofs.Endpoint.AddressMap
import NatReach.Proofs.Endpoint.AddressSet
import NatReach.Proofs.Endpoint.Json
import NatReach.Proofs.Endpoint.Name
import NatReach.Proofs.Endpoint.Port
import NatReach.Proofs.Endpoint.Register
import NatReach.Proofs.Endpoint.RoundTrip
import NatReach.Proofs.Engine.Answer
import NatReach.Proofs.Engine.Comparison
import NatReach.Proofs.Engine.Confirmation
import NatReach.Proofs.Engine.Deed
import NatReach.Proofs.Engine.Delivery
import NatReach.Proofs.Engine.Destination
import NatReach.Proofs.Engine.Directory
import NatReach.Proofs.Engine.Exchange
import NatReach.Proofs.Engine.Independence
import NatReach.Proofs.Engine.Interleaving
import NatReach.Proofs.Engine.Life
import NatReach.Proofs.Engine.PrivateAnswer
import NatReach.Proofs.Engine.Rejection
import NatReach.Proofs.Engine.Repetition
import NatReach.Proofs.Engine.Responder
import NatReach.Proofs.Engine.Verdict
import NatReach.Proofs.Json.Ends
import NatReach.Proofs.Json.Grammar
import NatReach.Proofs.Json.Number
import NatReach.Proofs.Json.RoundTrip
import NatReach.Proofs.Message.Delimited
import NatReach.Proofs.Message.Faithful
import NatReach.Proofs.Message.Rewording
import NatReach.Proofs.Message.RoundTrip
import NatReach.Proofs.PeerTable.AnswerOrder
import NatReach.Proofs.PeerTable.Change
import NatReach.Proofs.PeerTable.Chronicle
import NatReach.Proofs.PeerTable.Coherence
import NatReach.Proofs.PeerTable.Correlation
import NatReach.Proofs.PeerTable.FreeNumbers
import NatReach.Proofs.PeerTable.Gapless
import NatReach.Proofs.PeerTable.GiveUp
import NatReach.Proofs.PeerTable.Kinship
import NatReach.Proofs.PeerTable.Lasting
import NatReach.Proofs.PeerTable.Numbering
import NatReach.Proofs.PeerTable.Ports
import NatReach.Proofs.PeerTable.PrivateRole
import NatReach.Proofs.PeerTable.Room
import NatReach.Proofs.PeerTable.RouteHistory
import NatReach.Proofs.PeerTable.Settled
import NatReach.Proofs.PeerTable.Told
import NatReach.Proofs.PeerTable.Traffic
import NatReach.Proofs.PeerTable.Turns
import NatReach.Proofs.PeerTable.Twins
import NatReach.Proofs.PeerTable.Waits
import NatReach.Proofs.PeerTable.WalkOrder
import NatReach.Proofs.Text.Lowercase
import NatReach.Proofs.Text.Numeral
import NatReach.Proofs.Text.Trim
import NatReach.Proofs.Text.Utf8
import NatReach.Proofs.Toml.Statements
import NatReach.Proofs.Toml.Strings
import NatReach.Proofs.Toml.Tree
import NatReach.Proofs.Toml.Values
