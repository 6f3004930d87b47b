import ClusterRouting.Node

namespace ClusterRouting

-- One membership of a host. A host that left and came back has another serial number.
structure Peer where
  host : HostId
  serial : Nat
deriving DecidableEq, Inhabited

structure Entry where
  peer : Peer
  distance : Distance
deriving DecidableEq

-- The known hosts in order of arrival, and the three groups in order of entry. No live value is held, so a topology
-- that was captured earlier never changes.
structure Topology where
  entries : List Entry
  home : List Peer
  remote : List Peer
  ignored : List Peer
deriving DecidableEq

namespace Topology

def empty : Topology := ⟨[], [], [], []⟩

def group (t : Topology) : Distance → List Peer
  | .home => t.home
  | .remote => t.remote
  | .ignored => t.ignored

def regroup (t : Topology) (d : Distance) (change : List Peer → List Peer) : Topology :=
  match d with
  | .home => { t with home := change t.home }
  | .remote => { t with remote := change t.remote }
  | .ignored => { t with ignored := change t.ignored }

def entry? (t : Topology) (host : HostId) : Option Entry :=
  t.entries.find? (·.peer.host = host)

def peer? (t : Topology) (host : HostId) : Option Peer := (t.entry? host).map Entry.peer

def distance? (t : Topology) (host : HostId) : Option Distance := (t.entry? host).map Entry.distance

def size (t : Topology) : Nat := t.entries.length

def isEmpty (t : Topology) : Bool := t.entries.isEmpty

def hosts (t : Topology) : List HostId := t.entries.map (·.peer.host)

def without (host : HostId) (peers : List Peer) : List Peer := peers.filter (·.host ≠ host)

def insert (t : Topology) (peer : Peer) (d : Distance) : Topology :=
  let t := t.regroup d (· ++ [peer])
  { t with entries := t.entries ++ [⟨peer, d⟩] }

def erase (t : Topology) (host : HostId) : Topology :=
  match t.distance? host with
  | none => t
  | some d =>
    let t := t.regroup d (without host)
    { t with entries := t.entries.filter (·.peer.host ≠ host) }

-- A known host goes to the end of another group; one that stays in its group keeps its place there.
def relocate (t : Topology) (host : HostId) (d : Distance) : Topology :=
  match t.entry? host with
  | none => t
  | some known =>
    if known.distance = d then t
    else
      let t := (t.regroup known.distance (without host)).regroup d (· ++ [known.peer])
      { t with
        entries := t.entries.map fun e => if e.peer.host = host then { e with distance := d } else e }

@[simp] theorem group_regroup_self (t : Topology) (d : Distance) (change : List Peer → List Peer) :
    (t.regroup d change).group d = change (t.group d) := by
  cases d <;> rfl

theorem group_regroup_of_ne (t : Topology) {d e : Distance} (other : e ≠ d)
    (change : List Peer → List Peer) : (t.regroup d change).group e = t.group e := by
  cases d <;> cases e <;> first | rfl | exact absurd rfl other

@[simp] theorem entries_regroup (t : Topology) (d : Distance) (change : List Peer → List Peer) :
    (t.regroup d change).entries = t.entries := by
  cases d <;> rfl

end Topology
end ClusterRouting
