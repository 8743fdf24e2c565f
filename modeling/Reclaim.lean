import Reclaim.Main
import Reclaim.Proofs.Accounts
import Reclaim.Proofs.Agreement
import Reclaim.Proofs.Backlog
import Reclaim.Proofs.Completion
import Reclaim.Proofs.Conservation
import Reclaim.Proofs.Containment
import Reclaim.Proofs.Correspondence
import Reclaim.Proofs.Endings
import Reclaim.Proofs.Enrolment
import Reclaim.Proofs.Exchanges
import Reclaim.Proofs.Fifo
import Reclaim.Proofs.Hearing
import Reclaim.Proofs.Isolation
import Reclaim.Proofs.Joining
import Reclaim.Proofs.Lockstep
import Reclaim.Proofs.Membership
import Reclaim.Proofs.Messages
import Reclaim.Proofs.Once
import Reclaim.Proofs.Paths
import Reclaim.Proofs.Segments
import Reclaim.Proofs.Simulated
import Reclaim.Proofs.Sink
import Reclaim.Proofs.Spellings
import Reclaim.Proofs.Tenure
import Reclaim.Proofs.Transparency
import Reclaim.Proofs.Windows
