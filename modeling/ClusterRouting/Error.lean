import ClusterRouting.HostId

namespace ClusterRouting

inductive RoutingError where
  | noContactPoints
  | unknownContactPoints
  | undeterminedDatacenter
  | ambiguousDatacenter (datacenters : List String)
  | alreadyInitialized
  | closed
  | config (text : String)
deriving DecidableEq

inductive ErrorKind where
  | noContactPoints
  | unknownContactPoints
  | undeterminedDatacenter
  | ambiguousDatacenter
  | alreadyInitialized
  | closed
  | config
deriving DecidableEq

def ErrorKind.label : ErrorKind → String
  | noContactPoints => "no_contact_points"
  | unknownContactPoints => "unknown_contact_points"
  | undeterminedDatacenter => "undetermined_local_datacenter"
  | ambiguousDatacenter => "ambiguous_local_datacenter"
  | alreadyInitialized => "already_initialized"
  | closed => "closed"
  | config => "config"

namespace RoutingError

def kind : RoutingError → ErrorKind
  | noContactPoints => .noContactPoints
  | unknownContactPoints => .unknownContactPoints
  | undeterminedDatacenter => .undeterminedDatacenter
  | ambiguousDatacenter _ => .ambiguousDatacenter
  | alreadyInitialized => .alreadyInitialized
  | closed => .closed
  | config _ => .config

-- Whether the client must give up starting. Only a policy that was closed on purpose is let off.
def isFatal (error : RoutingError) : Bool := error.kind != .closed

def message : RoutingError → String
  | noContactPoints =>
    "No local datacenter was configured and no contact points were provided to infer it"
  | unknownContactPoints =>
    "No local datacenter was configured and none of the contact points are among the known nodes"
  | undeterminedDatacenter =>
    "No local datacenter was configured and none of the contact points reported one"
  | ambiguousDatacenter datacenters =>
    "No local datacenter was configured, but the contact points are from different datacenters: "
      ++ ", ".intercalate datacenters
  | alreadyInitialized => "Policy was already initialized"
  | closed => "Policy is closed"
  | config text => "Configuration error: " ++ text

end RoutingError

structure UnknownNode where
  host : HostId
deriving DecidableEq

def UnknownNode.message (error : UnknownNode) : String := "Unknown node: " ++ error.host.text

end ClusterRouting
