import ClusterRouting.Coordinator.Step

namespace ClusterRouting.Coordinator
variable {χ : Type}

-- Queue a command. Whoever is applying commands already comes to it; otherwise that starts now.
def submit (c : Coordinator χ) (command : Command) : Coordinator χ :=
  let c := { c with queue := c.queue ++ [command] }
  if c.busy then c else c.begin .draining

-- Add listeners. Fan-outs under way do not reach them.
def register (c : Coordinator χ) (sink : Sink (Listener χ)) : Coordinator χ :=
  { c with listeners := c.listeners ++ sink.children }

-- Take no more commands. The first close tells the listeners at once, whatever is under way.
def close (c : Coordinator χ) : Coordinator χ :=
  if c.lifecycle = .closed then c
  else ({ c with lifecycle := .closed }.note .closed).publish .closing

def failStart (c : Coordinator χ) (error : RoutingError) : Coordinator χ :=
  ({ c with
      lifecycle := .closed
      answer := some (.error error)
      meters := c.meters.bump (.initFailures error.kind) }.note (.startFailed error)).begin .draining

-- Only the first start counts, and a failed one closes for good. Nobody can start while commands are being applied.
def start? (c : Coordinator χ) (nodes : List Descriptor) (contacts : List HostId) :
    Option (Coordinator χ) :=
  if c.busy then none
  else
    match c.lifecycle with
    | .closed => some { c with answer := some (.error .closed) }
    | .initializing | .ready => some { c with answer := some (.error .alreadyInitialized) }
    | .created =>
      match Datacenter.atStart c.configured nodes contacts with
      | .error error => some (c.failStart error)
      | .ok (found, records) =>
        let datacenter := c.datacenter.getD found
        some (({ c with lifecycle := .initializing, datacenter := some datacenter }.noteAll records).begin
          (.populating datacenter nodes))

def return? (c : Coordinator χ) : Option (Coordinator χ) :=
  match c.stack with
  | .inside (.outside _) _ :: rest => some { c with stack := rest }
  | _ => none

-- No opinion leaves it to the datacenter. If the evaluator breaks off, the descriptor or the decision is dropped.
def evaluated? (c : Coordinator χ) (verdict : Except Fault (Option Distance)) :
    Option (Coordinator χ) :=
  match c.stack with
  | .work (.evaluating datacenter purpose d) :: rest =>
    let c := { c with stack := rest }
    let decided := verdict.map (c.rule.decide datacenter d)
    match purpose, decided with
    | .again peer, .ok distance => some (c.assign peer distance)
    | .again peer, .error fault => some (c.note (failure (.again peer) peer.host fault))
    | purpose, decided => some (c.adopt purpose d decided)
  | _ => none

-- The listeners after the one that breaks off are told all the same.
def throw? (c : Coordinator χ) (fault : Fault) : Option (Coordinator χ) :=
  match c.stack with
  | .inside (.outside _) notice :: rest =>
    some ({ c with stack := rest }.note (Delivered.failed notice fault))
  | .work (.evaluating ..) :: _ => c.evaluated? (.error fault)
  | _ => none

end ClusterRouting.Coordinator
