import Redelivery.Delivery
import Redelivery.Rehearsal.Application
import Redelivery.Rehearsal.CollectorRun
import Redelivery.Rehearsal.PoolRun
import Redelivery.Rehearsal.RecoveryRun
import Redelivery.Settings.Sources
import Redelivery.Transcript.Messages
import Redelivery.Proofs.DeathRecord
import Redelivery.Proofs.Connection.Generation
import Redelivery.Proofs.Connection.Confirmation
import Redelivery.Proofs.Connection.OnePerLoss
import Redelivery.Proofs.Delivery.RetryBound
import Redelivery.Proofs.Delivery.Counting
import Redelivery.Proofs.Recovery.Chronicle
import Redelivery.Proofs.Subscription.FanOut
import Redelivery.Proofs.Subscription.Settlement
import Redelivery.Proofs.Topology.Registration
import Redelivery.Proofs.Topology.ClosedCycle
import Redelivery.Proofs.Subscription.Turnover
import Redelivery.Proofs.Topology.Resumption
import Redelivery.Proofs.Connection.Ownership
import Redelivery.Proofs.Connection.Traffic
import Redelivery.Proofs.Connection.Notices
import Redelivery.Proofs.SwitchedOff
import Redelivery.Proofs.Delivery.Tracing
import Redelivery.Proofs.Subscription.Stopping
import Redelivery.Proofs.Delivery.Errands
import Redelivery.Proofs.Delivery.SpanRecord
import Redelivery.Proofs.Subscription.Stint
import Redelivery.Proofs.Subscription.Alarm
import Redelivery.Proofs.Subscription.Retirement
import Redelivery.Proofs.Deaths.OwnRecord
import Redelivery.Proofs.Deaths.Tally
import Redelivery.Proofs.Publishing.Effect
import Redelivery.Proofs.Publishing.Increment
import Redelivery.Proofs.Headers.Fields
import Redelivery.Proofs.Publishing.DelayHeader
import Redelivery.Proofs.Publishing.FreshBudget
import Redelivery.Proofs.Settings.VhostEscapes
import Redelivery.Proofs.Settings.BrokerUri
import Redelivery.Proofs.Topology.Occurrences
import Redelivery.Proofs.Topology.Installation
import Redelivery.Proofs.Settings.ClassTable
import Redelivery.Proofs.Settings.NamePrefix
import Redelivery.Proofs.Topology.Renaming
import Redelivery.Proofs.Topology.Setters
import Redelivery.Proofs.Publishing.BackOff
