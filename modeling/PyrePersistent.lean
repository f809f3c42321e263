import PyrePersistent.Containers
import PyrePersistent.Protocol
import PyrePersistent.Diagnostics
import PyrePersistent.Session
import PyrePersistent.Server
import PyrePersistent.Lifecycle
import PyrePersistent.Transcript
import PyrePersistent.Republish
import PyrePersistent.Subscription
import PyrePersistent.Interleaving
import PyrePersistent.Safety
import PyrePersistent.Handler
import PyrePersistent.EventLoop
