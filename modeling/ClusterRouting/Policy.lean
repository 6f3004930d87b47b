import ClusterRouting.Coordinator
import ClusterRouting.Plan.Planner
import ClusterRouting.Plan.Query

namespace ClusterRouting

structure Policy (χ φ : Type) where
  config : Config
  coordinator : Coordinator χ
  planner : Planner
  filters : List φ

namespace Policy
variable {χ φ : Type}

-- A policy with its first listeners, which also hear of the initial nodes.
def build (config : Config) (evaluated : Bool) (sinks : List (Sink (Listener χ))) :
    Except RoutingError (Policy χ φ) := do
  config.validate
  return {
    config
    coordinator :=
      .fresh ⟨config.allowRemote, evaluated⟩ config.localDatacenter (Sink.childrenOf sinks)
    planner := .ofConfig config
    filters := [] }

-- Hide the nodes that a filter refuses. All else goes to the policy inside.
def filtered (policy : Policy χ φ) (filter : φ) : Policy χ φ :=
  { policy with filters := policy.filters ++ [filter] }

def distance? (policy : Policy χ φ) (host : HostId) : Option Distance :=
  policy.coordinator.registry.distance? host

-- Outside of readiness the rotation stands still.
def plan (policy : Policy χ φ) (request : Request) : QueryPlan φ × Policy χ φ :=
  let coordinator := policy.coordinator
  if coordinator.lifecycle = .ready then
    let (walk, planner) := policy.planner.plan coordinator.registry.topology request
    (⟨walk, policy.filters⟩, { policy with planner })
  else
    (⟨.nowhere, policy.filters⟩,
     { policy with coordinator := coordinator.note (.notReady coordinator.lifecycle) })

end Policy
end ClusterRouting
