import GastownQueue.Strings
import GastownQueue.GoInt
import GastownQueue.Metadata
import GastownQueue.MetadataLaws
import GastownQueue.QueueState
import GastownQueue.Dispatch
import GastownQueue.DispatchLaws
import GastownQueue.Enqueue
import GastownQueue.RateLimit
import GastownQueue.Idle
import GastownQueue.Protocol
import GastownQueue.ProtocolLaws
import GastownQueue.Labels
import GastownQueue.Commit
import GastownQueue.Counter
import GastownQueue.ReadySet
import GastownQueue.Regexp
import GastownQueue.GoTime
import GastownQueue.ResetDuration
import GastownQueue.ResetTime
import GastownQueue.IdleWait
import GastownQueue.Transcript
import GastownQueue.Spawn
import GastownQueue.Breaker
import GastownQueue.ReadyDispatch
import GastownQueue.QueueBatch
