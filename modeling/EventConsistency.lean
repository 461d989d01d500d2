import EventConsistency.Alarms
import EventConsistency.Amounts
import EventConsistency.Approvals
import EventConsistency.Artifacts
import EventConsistency.Attribution
import EventConsistency.Balances
import EventConsistency.Banking
import EventConsistency.Barrier
import EventConsistency.Bodies
import EventConsistency.Cached
import EventConsistency.Completion
import EventConsistency.Configuration
import EventConsistency.Conflicts
import EventConsistency.Currency
import EventConsistency.Deadlock
import EventConsistency.Detections
import EventConsistency.Disclosure
import EventConsistency.Drill
import EventConsistency.Duplicates
import EventConsistency.Evidence
import EventConsistency.FailClosed
import EventConsistency.Gauges
import EventConsistency.History
import EventConsistency.Latest
import EventConsistency.Lifecycle
import EventConsistency.Locks
import EventConsistency.Outage
import EventConsistency.Readers
import EventConsistency.Recovery
import EventConsistency.Redactions
import EventConsistency.Refinement
import EventConsistency.Replay
import EventConsistency.Restore
import EventConsistency.Resume
import EventConsistency.Rollout
import EventConsistency.Sanitizing
import EventConsistency.Serial
import EventConsistency.SignatureFormat
import EventConsistency.Signatures
import EventConsistency.Statuses
import EventConsistency.Success
import EventConsistency.Suspension
