import ClusterRouting.Fanout
import ClusterRouting.Datacenter
import ClusterRouting.DistanceRule
import ClusterRouting.Meters

namespace ClusterRouting

inductive Listener (χ : Type) where
  | meter
  | outside (name : χ)
deriving DecidableEq

inductive Purpose where
  | initial
  | announced
  | again (peer : Peer)
deriving DecidableEq

inductive Job where
  -- Recording the initial nodes; these are left.
  | populating (datacenter : String) (left : List Descriptor)
  | draining
  | evaluating (datacenter : String) (purpose : Purpose) (descriptor : Descriptor)
  -- About to tell the listeners the distance of a node that was just added.
  | assigning (peer : Peer)
deriving DecidableEq

-- Whoever is at this comes to the commands that are queued meanwhile.
def Job.takesCommands : Job → Bool
  | .populating .. | .draining => true
  | .evaluating .. | .assigning _ => false

-- The evaluator is asked for the sake of a descriptor, which is recorded when it answers.
def Job.recordsDescriptor : Job → Bool
  | .evaluating _ .initial _ | .evaluating _ .announced _ => true
  | _ => false

-- While a listener or the evaluator runs, the coordinator stands still and may be called. What is under way meanwhile
-- is the stack, innermost first.
structure Coordinator (χ : Type) where
  rule : DistanceRule
  configured : Option String
  registry : Registry
  lifecycle : Lifecycle
  datacenter : Option String
  queue : List Command
  listeners : List (Listener χ)
  meters : Meters
  log : List LogRecord
  answer : Option (Except RoutingError Unit)
  stack : List (Frame (Listener χ) Notice Job)

namespace Coordinator
variable {χ : Type}

def fresh (rule : DistanceRule) (configured : Option String) (listeners : List (Listener χ)) :
    Coordinator χ where
  rule := rule
  configured := configured
  registry := .empty
  lifecycle := .created
  datacenter := none
  queue := []
  listeners := listeners
  meters := .blank
  log := []
  answer := none
  stack := []

def note (c : Coordinator χ) (record : LogRecord) : Coordinator χ := { c with log := c.log ++ [record] }

def noteAll (c : Coordinator χ) (records : List LogRecord) : Coordinator χ :=
  { c with log := c.log ++ records }

def begin (c : Coordinator χ) (job : Job) : Coordinator χ := { c with stack := .work job :: c.stack }

def publish (c : Coordinator χ) (notice : Notice) : Coordinator χ :=
  { c with stack := .round notice c.listeners :: c.stack }

-- Commands are being applied or initial nodes recorded, here or further out.
def busy (c : Coordinator χ) : Bool := c.stack.any (Frame.isWork Job.takesCommands)

def recording (c : Coordinator χ) : Bool := c.stack.any (Frame.isWork Job.recordsDescriptor)

end Coordinator
end ClusterRouting
