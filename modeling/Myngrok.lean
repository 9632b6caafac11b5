import Myngrok.Auth.RefreshLife
import Myngrok.Auth.RefreshStatements
import Myngrok.Server.PublicUrls
import Myngrok.Server.HandshakeProgress
import Myngrok.Server.HandshakeRefinement
import Myngrok.Server.Origins
import Myngrok.GatewayClient.Cancels
import Myngrok.Tunnels.Release
import Myngrok.Pipeline.Progress
import Myngrok.GatewayClient.Memory
import Myngrok.Pipeline.MessageSize
import Myngrok.Server.Agreement
import Myngrok.Pipeline.LargeResponse
import Myngrok.Server.Routing
import Myngrok.Server.Revocation
import Myngrok.Auth.Cookies
import Myngrok.Server.Shutdown
import Myngrok.Database.Migrations
import Myngrok.Pipeline.ByteCounts
import Myngrok.Server.RetryAfter
import Myngrok.Pipeline.HopByHop
import Myngrok.Auth.FailedRefresh
import Myngrok.GatewayClient.Redirects
import Myngrok.Gateway.ConnectionEnd
import Myngrok.Pipeline.Crowd
import Myngrok.Protocol.Metadata
import Myngrok.Server.Metrics
import Myngrok.GatewayClient.Run
import Myngrok.Pipeline.EndToEnd
