import ClusterRouting.Coordinator.Calls
import ClusterRouting.Coordinator.Direct
import ClusterRouting.Proofs.Runs

namespace ClusterRouting

-- What is done to a coordinator, by its holder or by the callback that runs.
inductive Call (χ : Type) where
  | submit (command : Command)
  | register (sink : Sink (Listener χ))
  | close
  | start (nodes : List Descriptor) (contacts : List HostId)
  | finish
  | answer (verdict : Except Fault (Option Distance))
  | throw (fault : Fault)
  | upsert (descriptor : Descriptor) (decided : Except Fault Distance)
  | remove (host : HostId)
  | place (host : HostId) (distance : Distance)
  | treat (host : HostId) (health : Health)

inductive Move (χ : Type) where
  | own
  | call (call : Call χ)

namespace Coordinator
variable {χ : Type}

def call? (c : Coordinator χ) : Call χ → Option (Coordinator χ)
  | .submit command => some (c.submit command)
  | .register sink => some (c.register sink)
  | .close => some c.close
  | .start nodes contacts => c.start? nodes contacts
  | .finish => c.return?
  | .answer verdict => c.evaluated? verdict
  | .throw fault => c.throw? fault
  | .upsert d decided => (c.upsert? d decided).map Prod.snd
  | .remove host => (c.remove? host).map Prod.snd
  | .place host distance => (c.setDistance? host distance).map Prod.snd
  | .treat host health => some (c.writeHealth host health).2

-- Whoever is outside gets a move whenever the coordinator has none of its own: while a listener or the evaluator runs,
-- and while nothing is under way.
inductive Step (c : Coordinator χ) : Move χ → Coordinator χ → Prop where
  | own {next} (moved : c.step? = some next) : Step c .own next
  | call {call next} (waits : c.step? = none) (called : c.call? call = some next) : Step c (.call call) next

abbrev Moment (χ : Type) := ClusterRouting.Moment (Coordinator χ) (Move χ)

abbrev Runs : Coordinator χ → List (Moment χ) → Coordinator χ → Prop := ClusterRouting.Runs Step

inductive Traffic where
  | still
  | enters (command : Command)
  | leaves (command : Command)

def Moment.traffic (moment : Moment χ) : Traffic :=
  match moment.move, moment.before.stack, moment.before.queue with
  | .call (.submit command), _, _ => .enters command
  | .own, .work .draining :: _, command :: _ => .leaves command
  | _, _, _ => .still

def Traffic.entered : Traffic → List Command
  | .enters command => [command]
  | .still | .leaves _ => []

def Traffic.left : Traffic → List Command
  | .leaves command => [command]
  | .still | .enters _ => []

def submitted (moments : List (Moment χ)) : List Command := moments.flatMap fun moment => moment.traffic.entered

def dispatched (moments : List (Moment χ)) : List Command := moments.flatMap fun moment => moment.traffic.left

def proceed? (c : Coordinator χ) : Move χ → Option (Coordinator χ)
  | .own => c.step?
  | .call call => if c.step?.isNone then c.call? call else none

theorem proceed?_exact {c next : Coordinator χ} {move : Move χ} : c.proceed? move = some next ↔ Step c move next := by
  constructor
  · intro proceeds
    cases move with
    | own => exact .own proceeds
    | call call =>
      simp only [proceed?] at proceeds
      split at proceeds
      · rename_i waits
        exact .call (Option.isNone_iff_eq_none.mp waits) proceeds
      · cases proceeds
  · intro step
    cases step with
    | own moved => exact moved
    | call waits called => simpa [proceed?, waits] using called

abbrev play : Coordinator χ → List (Move χ) → Option (List (Moment χ) × Coordinator χ) :=
  ClusterRouting.play proceed?

theorem play_exact {c last : Coordinator χ} {moves : List (Move χ)} {moments : List (Moment χ)} :
    c.play moves = some (moments, last) ↔ Runs c moments last ∧ moments.map Moment.move = moves :=
  ClusterRouting.play_exact proceed?_exact

end Coordinator
end ClusterRouting
