import ClusterRouting.Log

namespace ClusterRouting

-- One notice delivered to each of several children. A child may register further children or start another fan-out
-- before it returns, so calls in progress form a stack, innermost first.
inductive Frame (χ ν ω : Type) where
  -- The children that are still to be reached, of those registered when the fan-out started.
  | round (notice : ν) (waiting : List χ)
  | inside (child : χ) (notice : ν)
  | work (job : ω)

def Frame.advance (notice : ν) (waiting : List χ) (rest : List (Frame χ ν ω)) : List (Frame χ ν ω) :=
  match waiting with
  | [] => rest
  | child :: later => .inside child notice :: .round notice later :: rest

def Frame.isWork (wanted : ω → Bool) : Frame χ ν ω → Bool
  | .work job => wanted job
  | .round .. | .inside .. => false

class Delivered (ν : Type) where
  failed : ν → Fault → LogRecord

instance : Delivered Notice := ⟨.listenerFailed⟩
instance : Delivered RequestNotice := ⟨.trackerFailed⟩

-- What can be registered: one child, or the whole of a multiplexer.
inductive Sink (χ : Type) where
  | child (child : χ)
  | multiplexer (sinks : List (Sink χ))

mutual
-- A multiplexer never holds multiplexers: registering one registers its children in order.
def Sink.children : Sink χ → List χ
  | .child c => [c]
  | .multiplexer sinks => Sink.childrenOf sinks

def Sink.childrenOf : List (Sink χ) → List χ
  | [] => []
  | sink :: rest => sink.children ++ Sink.childrenOf rest
end

-- Multiplexers by name, and the calls that one thread has in progress on them.
structure Switchboard (μ χ ν : Type) where
  board : μ → List χ
  stack : List (Frame χ ν Empty)
  log : List LogRecord

namespace Switchboard
variable {μ χ ν : Type} [DecidableEq μ]

def empty : Switchboard μ χ ν := ⟨fun _ => [], [], []⟩

def extend (s : Switchboard μ χ ν) (name : μ) (children : List χ) : Switchboard μ χ ν :=
  { s with board := fun other => if other = name then s.board other ++ children else s.board other }

-- Make a new multiplexer, which takes the name from an older one.
def define (s : Switchboard μ χ ν) (name : μ) (sinks : List (Sink χ)) : Switchboard μ χ ν :=
  { s with board := fun other => if other = name then Sink.childrenOf sinks else s.board other }

def register (s : Switchboard μ χ ν) (name : μ) (sink : Sink χ) : Switchboard μ χ ν :=
  s.extend name sink.children

-- The children are those held at the time of the call, also when both names are the same.
def join (s : Switchboard μ χ ν) (name source : μ) : Switchboard μ χ ν :=
  s.extend name (s.board source)

def publish (s : Switchboard μ χ ν) (name : μ) (notice : ν) : Switchboard μ χ ν :=
  { s with stack := .round notice (s.board name) :: s.stack }

def step? (s : Switchboard μ χ ν) : Option (Switchboard μ χ ν) :=
  match s.stack with
  | .round notice waiting :: rest => some { s with stack := Frame.advance notice waiting rest }
  | _ => none

def return? (s : Switchboard μ χ ν) : Option (Switchboard μ χ ν) :=
  match s.stack with
  | .inside _ _ :: rest => some { s with stack := rest }
  | _ => none

-- The child that was told last breaks off, which is logged and ends nothing but its own call. What it leaves behind is
-- let go of by the fan-out, before anything is logged, so a charge ends the fan-out as well and goes to its caller.
def throw? [Delivered ν] (s : Switchboard μ χ ν) (payload : Payload) : Option (Switchboard μ χ ν) :=
  match s.stack, payload with
  | .inside _ notice :: rest, .quiet fault =>
    some { s with stack := rest, log := s.log ++ [Delivered.failed notice fault] }
  | .inside _ _ :: .round _ _ :: rest, .charged _ => some { s with stack := rest }
  | _, _ => none

end Switchboard
end ClusterRouting
