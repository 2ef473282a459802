import GoTor.Cell.ReplayRuns
import GoTor.Circuit.CircuitTable
import GoTor.Circuit.CloseSafety
import GoTor.Circuit.ConfluxHonest
import GoTor.Circuit.DeliverWindow
import GoTor.Circuit.MuxDestroy
import GoTor.Circuit.OnionSync
import GoTor.Circuit.StreamOrder
import GoTor.Circuit.StreamSendme
import GoTor.Circuit.VegasStall
import GoTor.Relay.BackwardOrder
import GoTor.Relay.DirPort
import GoTor.Relay.Dos
import GoTor.Relay.ExitReuse
import GoTor.Relay.ExitWindow
import GoTor.Relay.FlowControl
import GoTor.Relay.Isolation
import GoTor.Relay.ORListener
import GoTor.Relay.PublishedPolicy
import GoTor.Relay.ReceiveLoop
import GoTor.Relay.RelayEarly
import GoTor.Relay.ReplyMatching
import GoTor.Control.SetConf
import GoTor.Directory.EdScript
import GoTor.Onion.DescriptorTail
import GoTor.Onion.KeyBlind
import GoTor.Onion.Revision
import GoTor.Onion.StreamIsolation
import GoTor.Path.Persistence
import GoTor.Pool.PoolRuns
import GoTor.Protocol.LinkAuth
import GoTor.Socks.StrictIsolation
