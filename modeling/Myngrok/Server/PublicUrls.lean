import Myngrok.Server.Handler
import Myngrok.Server.PublicAddress
import Myngrok.Server.Tenants

open golang transition myngrok.protocol myngrok.agents myngrok.tunnels myngrok.agenttokens

namespace myngrok.server

variable {baseDomain subdomain : GoString} {s : Server}

end myngrok.server
