import ClusterRouting.Plan.Walk
import ClusterRouting.Config
import ClusterRouting.Request

namespace ClusterRouting

structure Planner where
  -- The offset of the next walk; it starts over behind the largest word.
  rotation : UInt64
  allowRemote : Bool
  remoteForLocalConsistency : Bool
  maxRemoteNodes : Option UInt64
deriving DecidableEq

namespace Planner

def ofConfig (config : Config) : Planner :=
  ⟨0, config.allowRemote, config.remoteForLocalConsistency, config.maxRemoteNodes⟩

-- Remote nodes have to be allowed in general, and for requests that ask for local consistency.
def remoteBudget (planner : Planner) (request : Request) : Nat :=
  if !planner.allowRemote then 0
  else if request.isDatacenterLocal ∧ !planner.remoteForLocalConsistency then 0
  else (planner.maxRemoteNodes.getD (.ofNat (UInt64.size - 1))).toNat

def plan (planner : Planner) (t : Topology) (request : Request) : Walk × Planner :=
  (.ofTopology t planner.rotation (planner.remoteBudget request),
   { planner with rotation := planner.rotation + 1 })

end Planner
end ClusterRouting
