import ClusterRouting.Topology

namespace ClusterRouting

-- What topology listeners are told. A notice names a node; its live values are read when it arrives.
inductive Notice where
  | added (peer : Peer)
  | removed (peer : Peer)
  | healthChanged (peer : Peer) (previous current : Health)
  -- A distance was assigned, on discovery or later.
  | distanceChanged (peer : Peer) (distance : Distance)
  | closing
deriving DecidableEq

namespace Notice

def peer? : Notice → Option Peer
  | added peer | removed peer | healthChanged peer _ _ | distanceChanged peer _ => some peer
  | closing => none

def label : Notice → String
  | added _ => "on_added"
  | removed _ => "on_removed"
  | healthChanged .. => "on_state_changed"
  | distanceChanged .. => "on_distance_changed"
  | closing => "close"

end Notice
end ClusterRouting
