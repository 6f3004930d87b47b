import ClusterRouting.Node

namespace ClusterRouting

inductive Event where
  | added (descriptor : Descriptor)
  | removed (host : HostId)
  | up (host : HostId)
  | down (host : HostId)
  -- The operator's override: do not use the node until it is forced up.
  | forceDown (host : HostId)
  | forceUp (host : HostId)
  | reevaluate (host : HostId)
deriving DecidableEq

inductive Command where
  | event (event : Event)
  | report (host : HostId) (distance : Distance)
deriving DecidableEq

inductive CommandKind where
  | added
  | removed
  | up
  | down
  | forceDown
  | forceUp
  | reevaluate
  | setDistance
deriving DecidableEq

def CommandKind.label : CommandKind → String
  | added => "added"
  | removed => "removed"
  | up => "up"
  | down => "down"
  | forceDown => "force_down"
  | forceUp => "force_up"
  | reevaluate => "reevaluate"
  | setDistance => "set_distance"

namespace Event

def kind : Event → CommandKind
  | added _ => .added
  | removed _ => .removed
  | up _ => .up
  | down _ => .down
  | forceDown _ => .forceDown
  | forceUp _ => .forceUp
  | reevaluate _ => .reevaluate

def host : Event → HostId
  | added descriptor => descriptor.host
  | removed host | up host | down host | forceDown host | forceUp host | reevaluate host => host

end Event

namespace Command

def kind : Command → CommandKind
  | event e => e.kind
  | report .. => .setDistance

def host : Command → HostId
  | event e => e.host
  | report host _ => host

end Command

-- The life of a policy, which only ever moves on in this order.
inductive Lifecycle where
  -- Commands are dropped: starting brings the whole node list.
  | created
  | initializing
  | ready
  | closed
deriving DecidableEq

def Lifecycle.caption : Lifecycle → String
  | created => "Created"
  | initializing => "Initializing"
  | ready => "Ready"
  | closed => "Closed"

end ClusterRouting
