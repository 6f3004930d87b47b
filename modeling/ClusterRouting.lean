import ClusterRouting.Policy
import ClusterRouting.Coordinator.Calls
import ClusterRouting.Coordinator.Direct
import ClusterRouting.Coordinator.Settle
import ClusterRouting.Json.Document
import ClusterRouting.Proofs.Registry.Coherence
import ClusterRouting.Proofs.Registry.Lookup
import ClusterRouting.Proofs.Registry.Records
import ClusterRouting.Proofs.Registry.Turnover
import ClusterRouting.Proofs.Registry.Recording
import ClusterRouting.Proofs.Registry.Seating
import ClusterRouting.Proofs.Plan.Rotation
import ClusterRouting.Proofs.Plan.Consumption
import ClusterRouting.Proofs.Plan.Course
import ClusterRouting.Proofs.Plan.Repetition
import ClusterRouting.Proofs.Plan.Offers
import ClusterRouting.Proofs.Plan.Hints
import ClusterRouting.Proofs.Coordinator.Outcomes
import ClusterRouting.Proofs.Coordinator.Advances
import ClusterRouting.Proofs.Coordinator.Effects
import ClusterRouting.Proofs.Coordinator.Stacked
import ClusterRouting.Proofs.Coordinator.Order
import ClusterRouting.Proofs.Coordinator.Openings
import ClusterRouting.Proofs.Coordinator.Stages
import ClusterRouting.Proofs.Coordinator.Current
import ClusterRouting.Proofs.Coordinator.Mirrors
import ClusterRouting.Proofs.Coordinator.Closed
import ClusterRouting.Proofs.Coordinator.Conclusions
import ClusterRouting.Proofs.Coordinator.Overrides
import ClusterRouting.Proofs.Coordinator.Ledgers
import ClusterRouting.Proofs.Coordinator.Sessions
import ClusterRouting.Proofs.Coordinator.Independence
import ClusterRouting.Proofs.Coordinator.Survivors
import ClusterRouting.Proofs.Coordinator.Discovery
import ClusterRouting.Proofs.Coordinator.Placements
import ClusterRouting.Proofs.Coordinator.Measured
import ClusterRouting.Proofs.Coordinator.Repeats
import ClusterRouting.Proofs.Coordinator.Failures
import ClusterRouting.Proofs.Coordinator.Lifecycle
import ClusterRouting.Proofs.Coordinator.Metered
import ClusterRouting.Proofs.Coordinator.Farewells
import ClusterRouting.Proofs.Datacenter.Resolution
import ClusterRouting.Proofs.Fanout.Delivery
import ClusterRouting.Proofs.Fanout.Flattening
import ClusterRouting.Proofs.Json.Documents
import ClusterRouting.Proofs.Policy.Exclusion
import ClusterRouting.Proofs.Policy.Filtered
import ClusterRouting.Proofs.Policy.Captured
import ClusterRouting.Proofs.Policy.Fairness
