import Tna.Ledger.Exported
import Tna.Ledger.Interleaved
import Tna.Ledger.Links
import Tna.Ledger.OneAction
import Tna.Ledger.SameContent
import Tna.Ledger.Tenancy
import Tna.Gate.Approvals
import Tna.Capability.Lifetimes
import Tna.Broker.Outcomes
import Tna.Broker.Persistence
import Tna.Broker.Revocation
import Tna.Broker.Trails
import Tna.Vad.FileEvidence
import Tna.Vad.Justified
import Tna.Vad.Refused
import Tna.Platform.Closed
import Tna.Platform.Control
import Tna.Platform.Deliverable
import Tna.Platform.Delivery
import Tna.Platform.Monitored
import Tna.Platform.Order
import Tna.Platform.Reconstruction
import Tna.Platform.Settled
import Tna.Platform.Tenancy
import Tna.Platform.Uncertain
import Tna.Sentinel.Counted
import Tna.Sentinel.Hosts
import Tna.Sentinel.Lifecycle
import Tna.Sentinel.Paths
import Tna.Sentinel.Retried
import Tna.Sentinel.Revalidated
import Tna.Sentinel.Softened
import Tna.Sentinel.Stranded
import Tna.Auditor.Latest
import Tna.Auditor.Missed
import Tna.Improvement.Deltas
import Tna.Improvement.Lifecycle
import Tna.Improvement.Lineage
import Tna.Improvement.Promoted
import Tna.Improvement.Rejected
import Tna.Client.Children
import Tna.Client.Gateway
import Tna.Client.Versions
import Tna.ControlCenter.Redemption
import Tna.Deployment.Owned
import Tna.Deployment.Restored
