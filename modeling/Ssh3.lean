import Ssh3.Go.ExitStatus
import Ssh3.Go.Forwarding
import Ssh3.Go.Framing
import Ssh3.Go.Reordering
import Ssh3.Go.ServerAuthSpec
import Ssh3.Server.ReadBuffers
import Ssh3.Server.AuthorizationSpec
import Ssh3.Server.SessionSpec
import Ssh3.Core.ReorderingSpec
import Ssh3.Core.FramingSpec
import Ssh3.Quinn.Negotiation
import Ssh3.H3.Addressing
import Ssh3.Server.RouteDatagrams
import Ssh3.Core.MessageReaderSpec
import Ssh3.Quinn.HeaderCodec
import Ssh3.Go.Serve
import Ssh3.Go.ConversationsSpec
import Ssh3.Server.SessionHistory
import Ssh3.Go.SessionSpec
import Ssh3.Core.Serialized
import Ssh3.Server.ProcessOutputSpec
import Ssh3.Proto.Normalise
import Ssh3.Core.NextMessage
import Ssh3.Core.WriteDataSpec
import Ssh3.Client.Stdio
import Ssh3.Server.UdpForwarding
import Ssh3.Server.TcpForwarding
import Ssh3.Server.RequestedUser
import Ssh3.Auth.OidcLines
import Ssh3.Go.ExecOutputSpec
import Ssh3.Go.KnownHostsSpec
import Ssh3.Core.AcceptQueue
import Ssh3.Core.SharedQueue
import Ssh3.Go.Truncation
import Ssh3.Go.AcceptChannel
import Ssh3.Server.AcceptLoop
import Ssh3.Client.Agent
import Ssh3.Go.ConnectionMaterial
import Ssh3.Go.ForwardingTarget
import Ssh3.Go.ForwardingRequest
import Ssh3.Client.Credentials
import Ssh3.Go.PaddedVarInt
import Ssh3.Client.AgentSign
import Ssh3.Go.ParseAddrPort
import Ssh3.Go.VersionSpec
import Ssh3.Go.PluginsSpec
import Ssh3.Core.DanglingQueues
import Ssh3.Go.NextMessage
import Ssh3.Interop.Bootstrap
import Ssh3.Interop.Session
import Ssh3.Interop.Datagrams
