import RblRpc.Common.OidRefinement
import RblRpc.Common.NameCalls
import RblRpc.Common.Copies
import RblRpc.Common.NameOrder
import RblRpc.Backend.SubscriptionLifecycle
import RblRpc.Backend.TeardownOnce
import RblRpc.InProcess.LockOrder
import RblRpc.InProcess.Invocation
import RblRpc.Tcp.DeadConnections
import RblRpc.Tcp.RequestCounter
import RblRpc.Tcp.Invoker
import RblRpc.Client.BrokenConnection
import RblRpc.Client.NamedCalls
import RblRpc.Client.Agreement
import RblRpc.Client.Refusal
import RblRpc.Client.MethodSets
import RblRpc.Client.GeneratedTables
import RblRpc.Tcp.ShutdownTraversal
import RblRpc.Tcp.DisconnectRequests
import RblRpc.Tcp.MalformedBodies
import RblRpc.Backend.Addressing
import RblRpc.Backend.CookieRange
import RblRpc.Client.Discovery
import RblRpc.InProcess.ClientCount
import RblRpc.Tcp.Responses
import RblRpc.Backend.Isolation
import RblRpc.Backend.CookieStore
import RblRpc.Client.Renewal
import RblRpc.Codegen.Generator
import RblRpc.Codegen.WellNested
import RblRpc.Backend.Linearization
import RblRpc.Tcp.Linearization
import RblRpc.Codegen.Naming
import RblRpc.Codegen.ServerHeader
import RblRpc.Codegen.ClientHeader
import RblRpc.Codegen.BasicProtocolHeader
import RblRpc.Tcp.StopCompletion
import RblRpc.Tcp.Answers
