import ClusterRouting.Coordinator

namespace ClusterRouting.Coordinator
variable {χ : Type}

-- What comes of a recorded descriptor. A new node is announced with its distance right after.
def announce (c : Coordinator χ) : Registry.Upsert → Coordinator χ
  | .created peer distance =>
    ((c.note (.nodeAdded peer.host distance)).begin (.assigning peer)).publish (.added peer)
  | .relocated peer previous current =>
    if previous = current then c else c.publish (.distanceChanged peer current)
  | .updated _ | .unchanged _ => c

def failure (purpose : Purpose) (host : HostId) (fault : Fault) : LogRecord :=
  match purpose with
  | .initial => .evaluationFailed host fault
  | .announced => .commandFailed .added host fault
  | .again _ => .commandFailed .reevaluate host fault

def adopt (c : Coordinator χ) (purpose : Purpose) (d : Descriptor) (decided : Except Fault Distance) :
    Coordinator χ :=
  match c.registry.upsert d fun _ => decided with
  | .ok (outcome, registry) => ({ c with registry }.noteAll outcome.logged).announce outcome
  | .error fault => c.note (failure purpose d.host fault)

def assign (c : Coordinator χ) (peer : Peer) (distance : Distance) : Coordinator χ :=
  match c.registry.setDistance peer.host distance with
  | .error error => c.note (.placementFailed error distance)
  | .ok (previous, registry) =>
    if previous = distance then c
    else ({ c with registry }.note (.moved peer.host previous distance)).publish
      (.distanceChanged peer distance)

def consider (c : Coordinator χ) (datacenter : String) (purpose : Purpose) (d : Descriptor) :
    Coordinator χ :=
  if c.rule.evaluated ∧ c.registry.needsDistance d then c.begin (.evaluating datacenter purpose d)
  else c.adopt purpose d (.ok (c.rule.byDatacenter datacenter d))

-- Set the health of a host. Only the operator overrules a node that is forced down.
def setHealth (c : Coordinator χ) (host : HostId) (health : Health) (forced : Bool) : Coordinator χ :=
  match c.registry.find? host with
  | none => c.note (.healthOfUnknown host health)
  | some (peer, node) =>
    if !forced ∧ node.health = .forcedDown then c.note (.healthOfForcedDown host health)
    else
      match c.registry.setHealth host health with
      | .error _ => c
      | .ok (previous, registry) =>
        let c := { c with registry }
        if previous = health then c
        else (c.note (.healthChanged host previous health)).publish (.healthChanged peer previous health)

def applyEvent (c : Coordinator χ) (datacenter : String) : Event → Coordinator χ
  | .added descriptor => c.consider datacenter .announced descriptor
  | .removed host =>
    match c.registry.remove host with
    | none => c.note (.removalOfUnknown host)
    | some (peer, registry) =>
      ({ c with registry }.noteAll [.unregistered host, .nodeRemoved host]).publish (.removed peer)
  | .up host => c.setHealth host .up false
  | .down host => c.setHealth host .down false
  | .forceDown host => c.setHealth host .forcedDown true
  | .forceUp host =>
    match c.registry.find? host with
    | none => c.note (.forceUpOfUnknown host)
    | some (_, node) =>
      if node.health = .forcedDown then c.setHealth host .up true else c.note (.forceUpOfOther host)
  | .reevaluate host =>
    match c.registry.find? host with
    | none => c.note (.reevaluationOfUnknown host)
    | some (peer, node) =>
      if c.rule.evaluated then c.begin (.evaluating datacenter (.again peer) node.descriptor)
      else c.assign peer (c.rule.byDatacenter datacenter node.descriptor)

def apply (c : Coordinator χ) (datacenter : String) : Command → Coordinator χ
  | .event event => c.applyEvent datacenter event
  | .report host distance =>
    match c.registry.peer? host with
    | none => c.note (.reportOfUnknown host distance)
    | some peer => c.assign peer distance

def dispatch (c : Coordinator χ) (command : Command) : Coordinator χ :=
  match c.lifecycle with
  | .ready =>
    match c.datacenter with
    | some datacenter => c.apply datacenter command
    | none => c
  | .closed => c.note (.commandAfterClose command.kind command.host)
  | .created | .initializing => c.note (.commandBeforeStart command.kind command.host)

-- Someone may have closed the coordinator while the initial nodes were recorded. Then the start
-- has failed, and what was queued meanwhile stays for the next submission to drop.
def finishStart (c : Coordinator χ) (datacenter : String) : Coordinator χ :=
  match c.lifecycle with
  | .initializing =>
    ({ c with lifecycle := .ready, answer := some (.ok ()) }.note
      (.ready datacenter c.registry.size)).begin .draining
  | _ => { c with answer := some (.error .closed) }

-- There is none when it is up to a listener or the evaluator, or when nothing is under way.
def step? (c : Coordinator χ) : Option (Coordinator χ) :=
  match c.stack with
  | [] => none
  | .round notice waiting :: rest => some { c with stack := Frame.advance notice waiting rest }
  | .inside .meter notice :: rest =>
    some { c with stack := rest, meters := c.meters.observe c.registry.topology notice }
  | .inside (.outside _) _ :: _ => none
  | .work (.evaluating ..) :: _ => none
  | .work (.populating datacenter []) :: rest => some ({ c with stack := rest }.finishStart datacenter)
  | .work (.populating datacenter (d :: left)) :: rest =>
    some ({ c with stack := .work (.populating datacenter left) :: rest }.consider datacenter .initial d)
  | .work .draining :: rest =>
    match c.queue with
    | [] => some { c with stack := rest }
    | command :: queue => some ({ c with queue }.dispatch command)
  | .work (.assigning peer) :: rest =>
    let c := { c with stack := rest }
    match c.registry.node? peer with
    | some node => some (c.publish (.distanceChanged peer node.distance))
    | none => some c

end ClusterRouting.Coordinator
