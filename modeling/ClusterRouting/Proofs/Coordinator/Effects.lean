import ClusterRouting.Proofs.Coordinator.Advances

namespace ClusterRouting

-- What a frame is to those who want to write: closing asks for nobody, taking keeps everybody else
-- waiting, and whatever stands within was put there by somebody who takes commands.
inductive Role where
  | closing
  | taking
  | within
deriving DecidableEq

def Frame.role {χ : Type} : Frame (Listener χ) Notice Job → Role
  | .round .closing _ | .inside _ .closing => .closing
  | .work (.populating ..) | .work .draining => .taking
  | _ => .within

theorem Frame.isWork_takesCommands {χ : Type} (frame : Frame (Listener χ) Notice Job) :
    frame.isWork Job.takesCommands = true ↔ frame.role = .taking := by
  cases frame with
  | round notice _ => cases notice <;> simp [isWork, role]
  | inside _ notice => cases notice <;> simp [isWork, role]
  | work job => cases job <;> simp [isWork, role, Job.takesCommands]

namespace Coordinator
variable {χ : Type}

theorem busy_iff {c : Coordinator χ} : c.busy = true ↔ ∃ frame ∈ c.stack, frame.role = .taking := by
  simp only [busy, List.any_eq_true, Frame.isWork_takesCommands]

section Applying
variable {c next : Coordinator χ} {host : HostId}

def Applies (c next : Coordinator χ) : Prop :=
  ∃ registry log frames, next = { c with registry := registry, log := log, stack := frames ++ c.stack } ∧
    ∀ frame ∈ frames, frame.role = .within

theorem Outcome.news {r after : Registry} {notice : Option Notice} (outcome : Outcome r host after notice) :
    notice ≠ some .closing := by
  cases outcome with
  | relocated => split <;> simp
  | treated => split <;> simp
  | _ => simp

theorem told_within {notice : Option Notice} (news : notice ≠ some .closing) (listeners : List (Listener χ)) :
    ∀ frame ∈ told listeners notice, frame.role = .within := by
  cases notice with
  | none => simp [told]
  | some notice => cases notice <;> simp_all [told, Notice.sequel, Frame.role]

theorem Results.applies (results : Results c host next) : Applies c next := by
  obtain ⟨registry, log, notice, rfl, outcome⟩ := results
  exact ⟨registry, log, told c.listeners notice, rfl, told_within outcome.news _⟩

theorem Applied.applies (applied : Applied c host next) : Applies c next := by
  cases applied with
  | done results => exact results.applies
  | asked => exact ⟨c.registry, c.log, [.work (.evaluating _ _ _)], rfl, by simp [Frame.role]⟩

-- Also when another node has the host by now.
theorem assign_applies (c : Coordinator χ) (peer : Peer) (distance : Distance) :
    Applies c (c.assign peer distance) := by
  unfold assign
  split
  · exact ⟨c.registry, _, [], rfl, by simp⟩
  · split
    · exact ⟨c.registry, c.log, [], rfl, by simp⟩
    · exact ⟨_, _, [.round (.distanceChanged peer distance) c.listeners], rfl, by simp [Frame.role]⟩

theorem Answered.applies {purpose : Purpose} {d : Descriptor} (answered : Answered c purpose d next) :
    Applies c next := by
  cases answered with
  | @assigned peer _ distance => exact assign_applies c peer distance
  | failed record => exact (note_results c d.host record).applies
  | adopted decided => exact (adopt_results c purpose d decided).applies

end Applying

inductive Effect (c : Coordinator χ) : Traffic → Coordinator χ → Prop where
  | aside {registry log listeners} :
      Effect c .still { c with registry := registry, log := log, listeners := listeners }
  -- the innermost frame, which takes no commands, moves on or ends
  | unwound {frame rest frames registry log meters} (top : c.stack = frame :: rest)
      (role : frame.role ≠ .taking) (same : ∀ other ∈ frames, other.role = frame.role) :
      Effect c .still { c with registry := registry, log := log, meters := meters, stack := frames ++ rest }
  | recorded {datacenter d left rest frames registry log}
      (top : c.stack = .work (.populating datacenter (d :: left)) :: rest)
      (within : ∀ frame ∈ frames, frame.role = .within) :
      Effect c .still { c with
        registry := registry, log := log, stack := frames ++ .work (.populating datacenter left) :: rest }
  | dispatched {command later rest frames registry log} (top : c.stack = .work .draining :: rest)
      (waiting : c.queue = command :: later) (within : ∀ frame ∈ frames, frame.role = .within) :
      Effect c (.leaves command) { c with
        queue := later, registry := registry, log := log, stack := frames ++ c.stack }
  | drained {rest} (top : c.stack = .work .draining :: rest) (empty : c.queue = []) :
      Effect c .still { c with stack := rest }
  | queued {command} (busy : c.busy = true) :
      Effect c (.enters command) { c with queue := c.queue ++ [command] }
  | taken {command} (free : c.busy = false) :
      Effect c (.enters command) { c with queue := c.queue ++ [command], stack := .work .draining :: c.stack }
  | closed {log} : Effect c .still { c with
      lifecycle := .closed, log := log, stack := .round .closing c.listeners :: c.stack }
  | refused {error} (free : c.busy = false) (late : c.lifecycle ≠ .created) :
      Effect c .still { c with answer := some (.error error) }
  | failed {error meters log} (free : c.busy = false) : Effect c .still { c with
      lifecycle := .closed, answer := some (.error error), meters := meters, log := log,
      stack := .work .draining :: c.stack }
  | started {datacenter nodes log} (free : c.busy = false) : Effect c .still { c with
      lifecycle := .initializing, datacenter := some datacenter, log := log,
      stack := .work (.populating datacenter nodes) :: c.stack }
  | readied {datacenter rest log} (top : c.stack = .work (.populating datacenter []) :: rest)
      (initializing : c.lifecycle = .initializing) : Effect c .still { c with
        lifecycle := .ready, answer := some (.ok ()), log := log, stack := .work .draining :: rest }
  | abandoned {datacenter rest} (top : c.stack = .work (.populating datacenter []) :: rest)
      (gone : c.lifecycle ≠ .initializing) :
      Effect c .still { c with answer := some (.error .closed), stack := rest }

section Moves
variable {c next : Coordinator χ}

theorem Effect.ended {frame : Frame (Listener χ) Notice Job} {rest : List (Frame (Listener χ) Notice Job)}
    {log : List LogRecord} {meters : Meters} (top : c.stack = frame :: rest) (role : frame.role ≠ .taking) :
    Effect c .still { c with log := log, meters := meters, stack := rest } := by
  have same : ∀ other ∈ ([] : List (Frame (Listener χ) Notice Job)), other.role = frame.role := by simp
  exact .unwound top role same

theorem traffic_still {frame : Frame (Listener χ) Notice Job} {rest : List (Frame (Listener χ) Notice Job)}
    (top : c.stack = frame :: rest) (other : frame ≠ .work .draining) : Moment.traffic ⟨c, .own⟩ = .still := by
  unfold Moment.traffic
  split
  · contradiction
  · rename_i innermost _
    cases top.symm.trans innermost
    exact absurd rfl other
  · rfl

theorem traffic_ends {call : Call χ} (ends : call.ends = true) : Moment.traffic ⟨c, .call call⟩ = .still := by
  cases call with
  | submit => cases ends
  | _ => rfl

theorem traffic_direct {call : Call χ} (direct : call.direct = true) : Moment.traffic ⟨c, .call call⟩ = .still := by
  cases call with
  | submit => cases direct
  | _ => rfl

theorem advance_effect {move : Move χ} (advance : Advance c move next) : Effect c (Moment.traffic ⟨c, move⟩) next := by
  cases advance with
  | @tells notice child later rest top =>
    rw [traffic_still top (by simp)]
    have same : ∀ other ∈ [Frame.inside child notice, .round notice later],
        other.role = Frame.role (.round notice (child :: later)) := by cases notice <;> simp [Frame.role]
    exact .unwound top (by cases notice <;> simp [Frame.role]) same
  | @finishes notice _ top =>
    rw [traffic_still top (by simp)]
    exact .ended top (by cases notice <;> simp [Frame.role])
  | @observes notice _ top =>
    rw [traffic_still top (by simp)]
    exact .ended top (by cases notice <;> simp [Frame.role])
  | @returns _ _ notice _ _ ends top =>
    rw [traffic_ends ends]
    exact .ended top (by cases notice <;> simp [Frame.role])
  | @assigns peer node _ top =>
    rw [traffic_still top (by simp)]
    have same : ∀ other ∈ [Frame.round (.distanceChanged peer node.distance) c.listeners],
        other.role = Frame.role (χ := χ) (.work (.assigning peer)) := by simp [Frame.role]
    exact .unwound top (by simp [Frame.role]) same
  | misses top =>
    rw [traffic_still top (by simp)]
    exact .ended top (by simp [Frame.role])
  | @records datacenter d left rest top =>
    rw [traffic_still top (by simp)]
    let opened : Coordinator χ := { c with stack := .work (.populating datacenter left) :: rest }
    obtain ⟨registry, log, frames, result, within⟩ := (initial_applied opened datacenter d).applies
    rw [result]
    exact .recorded top within
  | readies top starting =>
    rw [traffic_still top (by simp)]
    exact .readied top starting
  | abandons top gone =>
    rw [traffic_still top (by simp)]
    exact .abandoned top gone
  | @applies command later _ datacenter top waiting =>
    have passes : Moment.traffic ⟨c, .own⟩ = .leaves command := by simp [Moment.traffic, top, waiting]
    obtain ⟨registry, log, frames, result, within⟩ :=
      (apply_applied { c with queue := later } datacenter command).applies
    rw [passes, result]
    exact .dispatched top waiting within
  | @drops command _ _ _ top waiting =>
    have passes : Moment.traffic ⟨c, .own⟩ = .leaves command := by simp [Moment.traffic, top, waiting]
    have none : ∀ frame ∈ ([] : List (Frame (Listener χ) Notice Job)), frame.role = .within := by simp
    rw [passes]
    exact .dispatched top waiting none
  | drains top empty =>
    have calm : Moment.traffic ⟨c, .own⟩ = .still := by simp [Moment.traffic, top, empty]
    rw [calm]
    exact .drained top empty
  | answers given top answered =>
    rw [traffic_ends (Call.ends_of_verdict given)]
    obtain ⟨registry, log, frames, rfl, within⟩ := (evaluated_answered answered top).applies
    exact .unwound top (by simp [Frame.role]) (by simpa [Frame.role] using within)
  | queues busy => exact .queued busy
  | takes free => exact .taken free
  | registers => exact .aside
  | closes => exact .closed
  | stays => exact .aside
  | refuses free late => exact .refused free late
  | fails error free => exact .failed free
  | starts free => exact .started free
  | writes direct =>
    rw [traffic_direct direct]
    exact .aside

theorem call_effect {call : Call χ} (called : c.call? call = some next) :
    Effect c (Moment.traffic ⟨c, .call call⟩) next :=
  advance_effect (call_advance called)

theorem step_effect {move : Move χ} (step : Step c move next) : Effect c (Moment.traffic ⟨c, move⟩) next :=
  advance_effect (step_advance step)

end Moves

end Coordinator
end ClusterRouting
