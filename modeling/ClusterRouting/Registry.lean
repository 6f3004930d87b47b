import ClusterRouting.Topology
import ClusterRouting.Error
import ClusterRouting.Fault

namespace ClusterRouting

-- Each membership has a live record of its own, which stays, flagged, when the node is dropped.
structure Registry where
  nodes : Array Node
  topology : Topology

namespace Registry

def empty : Registry := ⟨#[], .empty⟩

def node? (r : Registry) (peer : Peer) : Option Node := r.nodes[peer.serial]?

def peer? (r : Registry) (host : HostId) : Option Peer := r.topology.peer? host

def find? (r : Registry) (host : HostId) : Option (Peer × Node) :=
  (r.peer? host).bind fun peer => (r.node? peer).map fun node => (peer, node)

def distance? (r : Registry) (host : HostId) : Option Distance := r.topology.distance? host

def size (r : Registry) : Nat := r.topology.size

def isEligible (r : Registry) (peer : Peer) : Bool := (r.node? peer).any Node.isEligible

def amend (r : Registry) (peer : Peer) (change : Node → Node) : Registry :=
  { r with nodes := r.nodes.modify peer.serial change }

inductive Novelty where
  | newcomer
  | moved (peer : Peer)
  -- Another address or rack, in the same datacenter.
  | refreshed (peer : Peer)
  | same (peer : Peer)
deriving DecidableEq

def novelty (r : Registry) (d : Descriptor) : Novelty :=
  match r.find? d.host with
  | none => .newcomer
  | some (peer, node) =>
    if node.descriptor = d then .same peer
    else if node.descriptor.datacenter = d.datacenter then .refreshed peer
    else .moved peer

def needsDistance (r : Registry) (d : Descriptor) : Bool :=
  match r.novelty d with
  | .newcomer | .moved _ => true
  | .refreshed _ | .same _ => false

inductive Upsert where
  | created (peer : Peer) (distance : Distance)
  | relocated (peer : Peer) (previous current : Distance)
  | updated (peer : Peer)
  | unchanged (peer : Peer)
deriving DecidableEq

def Upsert.peer : Upsert → Peer
  | created peer _ | relocated peer _ _ | updated peer | unchanged peer => peer

def replaceDescriptor (r : Registry) (peer : Peer) (d : Descriptor) : Registry :=
  r.amend peer fun node => { node with descriptor := d }

def place (r : Registry) (peer : Peer) (d : Distance) : Registry :=
  { r.amend peer fun node => { node with distance := d } with
    topology := r.topology.relocate peer.host d }

def enter (r : Registry) (descriptor : Descriptor) (d : Distance) : Peer × Registry :=
  let peer : Peer := ⟨descriptor.host, r.nodes.size⟩
  (peer, ⟨r.nodes.push (.fresh descriptor d), r.topology.insert peer d⟩)

-- The distance is asked for when one has to be decided; if that breaks off, nothing has changed. Health is
-- no part of a descriptor, so recording one never touches it.
def upsert (r : Registry) (d : Descriptor) (evaluate : Descriptor → Except Fault Distance) :
    Except Fault (Upsert × Registry) :=
  match r.novelty d with
  | .same peer => .ok (.unchanged peer, r)
  | .refreshed peer => .ok (.updated peer, r.replaceDescriptor peer d)
  | .newcomer =>
    match evaluate d with
    | .error fault => .error fault
    | .ok current =>
      let (peer, next) := r.enter d current
      .ok (.created peer current, next)
  | .moved peer =>
    match evaluate d with
    | .error fault => .error fault
    | .ok current =>
      let previous := (r.distance? d.host).getD current
      .ok (.relocated peer previous current, (r.replaceDescriptor peer d).place peer current)

-- Drop a host. Views captured before keep its membership, whose record is flagged from now on.
def remove (r : Registry) (host : HostId) : Option (Peer × Registry) :=
  (r.peer? host).map fun peer =>
    (peer, { r.amend peer fun node => { node with removed := true } with
             topology := r.topology.erase host })

def setDistance (r : Registry) (host : HostId) (d : Distance) :
    Except UnknownNode (Distance × Registry) :=
  match r.topology.entry? host with
  | none => .error ⟨host⟩
  | some known =>
    if known.distance = d then .ok (known.distance, r)
    else .ok (known.distance, r.place known.peer d)

def setHealth (r : Registry) (host : HostId) (health : Health) :
    Except UnknownNode (Health × Registry) :=
  match r.find? host with
  | none => .error ⟨host⟩
  | some (peer, node) => .ok (node.health, r.amend peer fun node => { node with health })

end Registry
end ClusterRouting
