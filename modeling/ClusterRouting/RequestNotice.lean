import ClusterRouting.Topology
import ClusterRouting.Request

namespace ClusterRouting

-- What every report on a request carries: the request, how long it took, and the tag of its session.
structure Attempt where
  request : Request
  nanoseconds : Nat
  tag : String
deriving DecidableEq

inductive RequestNotice where
  | success (attempt : Attempt) (node : Peer)
  -- The request failed for good; the node is the last one tried, if any was.
  | error (attempt : Attempt) (node : Option Peer) (reason : String)
  | nodeSuccess (attempt : Attempt) (node : Peer)
  | nodeError (attempt : Attempt) (node : Peer) (reason : String)
  | sessionReady (session : String)
  | closing
deriving DecidableEq

namespace RequestNotice

def label : RequestNotice → String
  | success .. => "on_success"
  | error .. => "on_error"
  | nodeSuccess .. => "on_node_success"
  | nodeError .. => "on_node_error"
  | sessionReady _ => "on_session_ready"
  | closing => "close"

-- The tag that names the session in the log. Closing concerns no session.
def tag? : RequestNotice → Option String
  | success attempt _ | error attempt _ _ | nodeSuccess attempt _ | nodeError attempt _ _ => some attempt.tag
  | sessionReady session => some session
  | closing => none

end RequestNotice
end ClusterRouting
