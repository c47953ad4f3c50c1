import Udma.Transition.Run
import Udma.Abi
import Udma.Collections.Consecutive
import Udma.Sq.Emission
import Udma.Sq.Prefetch
import Udma.Sq.Starvation
import Udma.Sq.Identity
import Udma.Sq.Routes
import Udma.Sq.Quiescence
import Udma.Sq.Submission
import Udma.Sq.Terminal
import Udma.Sq.Progress
import Udma.Sq.Frames
import Udma.Ummu.Invalidation
import Udma.Ummu.Confinement
import Udma.Receive.Service
import Udma.Cq.Safety
import Udma.Mmio.Routing
import Udma.Control.Once
import Udma.Control.Crq
import Udma.Cq.Credit
import Udma.Cq.Callbacks
import Udma.Qemu.Freshness
import Udma.Wire.Outgoing
import Udma.Wire.Reassembly
import Udma.Wire.Ingress
import Udma.Host.Port
import Udma.Fence.Lifecycle
import Udma.Native.Segments
import Udma.Native.Execution
import Udma.Cbfc.Reservations
import Udma.Ctp.Duplicates
import Udma.Ctp.CongestionRate
import Udma.Ctp.QueuedResponses
import Udma.Control.Framing
import Udma.Control.Ubios
import Udma.Control.Enumeration
import Udma.Ummu.Generic
import Udma.Ummu.Access
import Udma.Ummu.TokenDma
import Udma.Receive.Delivery
import Udma.Sq.Producers
import Udma.Cq.Moderation
import Udma.Cq.OneShot
import Udma.Cq.Query
import Udma.Control.TpEngine
import Udma.Lab.Totality
import Udma.Relay.Delivery
import Udma.Checkpoint.Restore
import Udma.Switch.Forwarding
import Udma.Aeq.Delivery
