import ClusterRouting.Node

namespace ClusterRouting

structure DistanceRule where
  allowRemote : Bool
  -- An evaluator is asked first. What it leaves open goes by datacenter.
  evaluated : Bool
deriving DecidableEq

namespace DistanceRule

def byDatacenter (rule : DistanceRule) (datacenter : String) (d : Descriptor) : Distance :=
  if d.datacenter = some datacenter then .home
  else if rule.allowRemote then .remote
  else .ignored

def decide (rule : DistanceRule) (datacenter : String) (d : Descriptor) (opinion : Option Distance) :
    Distance :=
  opinion.getD (rule.byDatacenter datacenter d)

def description (rule : DistanceRule) : String :=
  "DistancePolicy \x7b allow_remote: " ++ toString rule.allowRemote ++ ", evaluator: "
    ++ toString rule.evaluated ++ " \x7d"

end DistanceRule

end ClusterRouting
