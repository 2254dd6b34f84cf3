import GroupOperator.Lifetime.Contention
import GroupOperator.Main
import GroupOperator.Reconciler.History
import GroupOperator.Reconciler.Turns
import GroupOperator.Watch.Interleaving
import GroupOperator.Watch.Replay
import GroupOperator.Watch.Session
import GroupOperator.Watch.Supervision
import GroupOperator.Proofs.Contents
import GroupOperator.Proofs.Ownership
import GroupOperator.Proofs.Materialization
import GroupOperator.Proofs.Deletion
import GroupOperator.Proofs.Redelivery
import GroupOperator.Proofs.Accounting
import GroupOperator.Proofs.Faults
import GroupOperator.Proofs.Replay
import GroupOperator.Proofs.Admission
import GroupOperator.Proofs.Trace
import GroupOperator.Proofs.Healing
import GroupOperator.Proofs.Conflict
import GroupOperator.Proofs.Targets
import GroupOperator.Proofs.Waiting
import GroupOperator.Proofs.Prospect
import GroupOperator.Proofs.Succession
import GroupOperator.Proofs.Separation
import GroupOperator.Proofs.Blame
import GroupOperator.Proofs.Overtaking
import GroupOperator.Proofs.ExitStatus
import GroupOperator.Proofs.Idempotence
import GroupOperator.Proofs.Classification
import GroupOperator.Proofs.FirstCancel
import GroupOperator.Watch.Pacing
import GroupOperator.CommandLine.Item
import GroupOperator.Proofs.Pacing
import GroupOperator.Proofs.EitherWay
import GroupOperator.Proofs.Reporting
import GroupOperator.Proofs.Period
