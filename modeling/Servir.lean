import Servir.Http.Envelope
import Servir.Auth.Transparent
import Servir.Servers.Secret
import Servir.Sessions.DeadTokens
import Servir.Tokens.Access
import Servir.Sessions.Provenance
import Servir.Sessions.Refusals
import Servir.Sessions.Isolation
import Servir.Sessions.Serializable
import Servir.Sessions.Liveness
import Servir.Tokens.Replay
import Servir.Sessions.Retry
import Servir.Sessions.Registration
import Servir.Http.Encoding
import Servir.Sessions.Policy
import Servir.Sessions.Identifiers
import Servir.Consumer.FirstAccess
import Servir.Consumer.Responses
import Servir.Sessions.Scripts
import Servir.Sessions.ShutOut
