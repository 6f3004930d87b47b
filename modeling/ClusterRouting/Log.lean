import ClusterRouting.Command
import ClusterRouting.Notice
import ClusterRouting.RequestNotice
import ClusterRouting.Registry

namespace ClusterRouting

inductive Level where
  | debug
  | info
  | warn
  | error
deriving DecidableEq

def Level.label : Level → String
  | debug => "DEBUG"
  | info => "INFO"
  | warn => "WARN"
  | error => "ERROR"

inductive LogRecord where
  | registered (host : HostId) (distance : Distance)
  | refreshed (host : HostId)
  | relocated (host : HostId) (previous current : Distance)
  | unregistered (host : HostId)
  | moved (host : HostId) (previous current : Distance)
  | nodeAdded (host : HostId) (distance : Distance)
  | nodeRemoved (host : HostId)
  | removalOfUnknown (host : HostId)
  | healthChanged (host : HostId) (previous current : Health)
  | healthOfUnknown (host : HostId) (health : Health)
  | healthOfForcedDown (host : HostId) (health : Health)
  | forceUpOfOther (host : HostId)
  | forceUpOfUnknown (host : HostId)
  | reevaluationOfUnknown (host : HostId)
  | reportOfUnknown (host : HostId) (distance : Distance)
  | placementFailed (error : UnknownNode) (distance : Distance)
  | commandFailed (kind : CommandKind) (host : HostId) (fault : Fault)
  | commandAfterClose (kind : CommandKind) (host : HostId)
  | commandBeforeStart (kind : CommandKind) (host : HostId)
  | inferred (datacenter : String)
  | mismatched (datacenter : String) (contacts : List Descriptor)
  | evaluationFailed (host : HostId) (fault : Fault)
  | ready (datacenter : String) (nodes : Nat)
  | startFailed (error : RoutingError)
  | closed
  | listenerFailed (notice : Notice) (fault : Fault)
  | trackerFailed (notice : RequestNotice) (fault : Fault)
  | notReady (lifecycle : Lifecycle)
deriving DecidableEq

namespace LogRecord

def level : LogRecord → Level
  | inferred _ | ready .. | closed => .info
  | reportOfUnknown .. | placementFailed .. | mismatched .. | listenerFailed .. | trackerFailed .. => .warn
  | commandFailed .. | evaluationFailed .. | startFailed _ => .error
  | _ => .debug

def message : LogRecord → String
  | registered .. => "node added to registry"
  | refreshed _ => "node attributes updated"
  | relocated .. => "node changed datacenter"
  | unregistered _ => "node removed from registry"
  | moved .. => "node distance changed"
  | nodeAdded .. => "Node added"
  | nodeRemoved _ => "Node removed"
  | removalOfUnknown _ => "Ignoring removal of unknown node"
  | healthChanged .. => "Node state changed"
  | healthOfUnknown .. => "Ignoring state change of unknown node"
  | healthOfForcedDown .. => "Ignoring state change of forced-down node"
  | forceUpOfOther _ => "Ignoring force-up of a node that is not forced down"
  | forceUpOfUnknown _ => "Ignoring force-up of unknown node"
  | reevaluationOfUnknown _ => "Ignoring re-evaluation of unknown node"
  | reportOfUnknown .. => "Dropping distance update for unknown node"
  | placementFailed .. => "Dropping distance update"
  | commandFailed .. => "Unexpected error while processing topology event"
  | commandAfterClose .. => "Ignoring topology event received after close"
  | commandBeforeStart .. => "Ignoring topology event received before init"
  | inferred _ => "Inferred local datacenter from contact points"
  | mismatched .. =>
    "Configured local datacenter differs from that of some contact points; "
      ++ "only nodes of the configured datacenter will be LOCAL"
  | evaluationFailed .. => "Unexpected error while evaluating node distance, skipping node"
  | ready .. => "Load balancing policy ready"
  | startFailed _ => "Load balancing policy initialization failed"
  | closed => "Load balancing policy closed"
  | listenerFailed .. => "Unexpected error while notifying topology listener"
  | trackerFailed notice _ =>
    if notice = .closing then "Unexpected error while closing request tracker"
    else "Unexpected error while notifying request tracker"
  | notReady _ => "Policy not ready, returning empty query plan"

def contactText (contact : Descriptor) : String :=
  contact.address.text ++ "=" ++ contact.datacenter.getD "<none>"

def fields : LogRecord → List (String × String)
  | registered host distance | nodeAdded host distance | reportOfUnknown host distance =>
    [("host_id", host.text), ("distance", distance.label)]
  | refreshed host | unregistered host | nodeRemoved host | removalOfUnknown host | forceUpOfOther host
  | forceUpOfUnknown host | reevaluationOfUnknown host => [("host_id", host.text)]
  | relocated host previous current | moved host previous current =>
    [("host_id", host.text), ("previous", previous.label), ("current", current.label)]
  | healthChanged host previous current =>
    [("host_id", host.text), ("previous", previous.label), ("current", current.label)]
  | healthOfUnknown host health | healthOfForcedDown host health =>
    [("host_id", host.text), ("state", health.label)]
  | placementFailed error distance => [("error", error.message), ("distance", distance.label)]
  | commandFailed kind host fault =>
    [("event", kind.label), ("host_id", host.text), ("error", fault.text)]
  | commandAfterClose kind host | commandBeforeStart kind host =>
    [("event", kind.label), ("host_id", host.text)]
  | inferred datacenter => [("local_datacenter", datacenter)]
  | mismatched datacenter contacts =>
    [("local_datacenter", datacenter), ("contact_points", ", ".intercalate (contacts.map contactText))]
  | evaluationFailed host fault => [("host_id", host.text), ("error", fault.text)]
  | ready datacenter nodes => [("local_datacenter", datacenter), ("nodes", toString nodes)]
  | startFailed error => [("error", error.message)]
  | closed => []
  | listenerFailed notice fault => [("event", notice.label), ("error", fault.text)]
  | trackerFailed notice fault =>
    match notice.tag? with
    | some tag => [("log_prefix", tag), ("event", notice.label), ("error", fault.text)]
    | none => [("error", fault.text)]
  | notReady lifecycle => [("lifecycle", lifecycle.caption)]

end LogRecord

def Registry.Upsert.logged : Registry.Upsert → List LogRecord
  | created peer distance => [.registered peer.host distance]
  | relocated peer previous current => [.relocated peer.host previous current]
  | updated peer => [.refreshed peer.host]
  | unchanged _ => []

end ClusterRouting
