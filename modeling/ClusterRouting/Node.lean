import ClusterRouting.HostId
import ClusterRouting.Address.Printer
import ClusterRouting.Text.Quoted

namespace ClusterRouting

inductive Health where
  -- Not confirmed either way. Such a node is worth a try.
  | unknown
  | up
  | down
  -- Set by the operator, and lifted by nobody else.
  | forcedDown
deriving DecidableEq, Inhabited

namespace Health

def all : List Health := [.unknown, .up, .down, .forcedDown]

def isEligible : Health → Bool
  | .unknown | .up => true
  | .down | .forcedDown => false

def label : Health → String
  | .unknown => "unknown"
  | .up => "up"
  | .down => "down"
  | .forcedDown => "forced_down"

def caption : Health → String
  | .unknown => "Unknown"
  | .up => "Up"
  | .down => "Down"
  | .forcedDown => "ForcedDown"

end Health

inductive Distance where
  -- In the client's own datacenter, tried first. Its label is that of the local nodes.
  | home
  | remote
  | ignored
deriving DecidableEq, Inhabited

namespace Distance

def all : List Distance := [.home, .remote, .ignored]

def label : Distance → String
  | .home => "local"
  | .remote => "remote"
  | .ignored => "ignored"

def caption : Distance → String
  | .home => "Local"
  | .remote => "Remote"
  | .ignored => "Ignored"

end Distance

-- What the topology source reports about a node. An absent label is not an empty one.
structure Descriptor where
  host : HostId
  address : Address
  datacenter : Option String
  rack : Option String
deriving DecidableEq, Inhabited

-- The live record of a node. The registry writes it; every view of the cluster reads it.
structure Node where
  descriptor : Descriptor
  health : Health
  distance : Distance
  -- Set when the registry drops the node, and never cleared.
  removed : Bool
deriving DecidableEq, Inhabited

namespace Node

def fresh (descriptor : Descriptor) (distance : Distance) : Node :=
  ⟨descriptor, .unknown, distance, false⟩

def isEligible (node : Node) : Bool :=
  !node.removed && node.health.isEligible && node.distance != .ignored

def text (node : Node) : String :=
  "Node(" ++ node.descriptor.address.text ++ ", " ++ node.descriptor.host.text ++ ")"

def description (node : Node) : String :=
  "Node \x7b host_id: HostId(" ++ node.descriptor.host.decimal ++ "), address: "
    ++ node.descriptor.address.text ++ ", datacenter: " ++ Text.quotedOption node.descriptor.datacenter
    ++ ", state: " ++ node.health.caption ++ ", distance: " ++ node.distance.caption ++ " \x7d"

end Node
end ClusterRouting
