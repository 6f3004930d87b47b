import ClusterRouting.Proofs.Coordinator.Runs
import ClusterRouting.Proofs.Coordinator.Outcomes

namespace ClusterRouting

namespace Call
variable {χ : Type}

-- Writes past the queue, which the coordinator does not hear of.
def direct : Call χ → Bool
  | .upsert .. | .remove _ | .place .. | .treat .. => true
  | _ => false

def ends : Call χ → Bool
  | .finish | .answer _ | .throw _ => true
  | _ => false

-- What the evaluator that runs comes to. One that breaks off has no answer.
def verdict? : Call χ → Option (Except Fault (Option Distance))
  | .answer verdict => some verdict
  | .throw fault => some (.error fault)
  | _ => none

theorem ends_of_verdict {call : Call χ} {verdict : Except Fault (Option Distance)}
    (given : call.verdict? = some verdict) : call.ends = true := by
  cases call with
  | answer | throw => rfl
  | _ => cases given

end Call

def Move.direct {χ : Type} : Move χ → Bool
  | .own => false
  | .call made => made.direct

def Move.starts {χ : Type} : Move χ → Bool
  | .call (.start ..) => true
  | _ => false

namespace Coordinator
variable {χ : Type}

-- What is applied stands here as it is; what comes of it is said by its outcome.
inductive Advance (c : Coordinator χ) : Move χ → Coordinator χ → Prop where
  | tells {notice child later rest} (top : c.stack = .round notice (child :: later) :: rest) :
      Advance c .own { c with stack := .inside child notice :: .round notice later :: rest }
  | finishes {notice rest} (top : c.stack = .round notice [] :: rest) : Advance c .own { c with stack := rest }
  | observes {notice rest} (top : c.stack = .inside .meter notice :: rest) :
      Advance c .own { c with stack := rest, meters := c.meters.observe c.registry.topology notice }
  | returns {call name notice rest log} (ends : call.ends = true)
      (top : c.stack = .inside (.outside name) notice :: rest) :
      Advance c (.call call) { c with stack := rest, log := log }
  | assigns {peer node rest} (top : c.stack = .work (.assigning peer) :: rest)
      (live : c.registry.node? peer = some node) :
      Advance c .own { c with stack := .round (.distanceChanged peer node.distance) c.listeners :: rest }
  | misses {peer rest} (top : c.stack = .work (.assigning peer) :: rest) (gone : c.registry.node? peer = none) :
      Advance c .own { c with stack := rest }
  | records {datacenter d left rest} (top : c.stack = .work (.populating datacenter (d :: left)) :: rest) :
      Advance c .own
        (consider { c with stack := .work (.populating datacenter left) :: rest } datacenter .initial d)
  | readies {datacenter rest log} (top : c.stack = .work (.populating datacenter []) :: rest)
      (starting : c.lifecycle = .initializing) :
      Advance c .own { c with
        lifecycle := .ready, answer := some (.ok ()), log := log, stack := .work .draining :: rest }
  | abandons {datacenter rest} (top : c.stack = .work (.populating datacenter []) :: rest)
      (gone : c.lifecycle ≠ .initializing) :
      Advance c .own { c with answer := some (.error .closed), stack := rest }
  | applies {command later rest datacenter} (top : c.stack = .work .draining :: rest)
      (waiting : c.queue = command :: later) (ready : c.lifecycle = .ready) (located : c.datacenter = some datacenter) :
      Advance c .own (apply { c with queue := later } datacenter command)
  | drops {command later rest log} (top : c.stack = .work .draining :: rest) (waiting : c.queue = command :: later)
      (idle : c.lifecycle ≠ .ready ∨ c.datacenter = none) : Advance c .own { c with queue := later, log := log }
  | drains {rest} (top : c.stack = .work .draining :: rest) (empty : c.queue = []) :
      Advance c .own { c with stack := rest }
  | answers {call verdict datacenter purpose d rest next} (given : call.verdict? = some verdict)
      (top : c.stack = .work (.evaluating datacenter purpose d) :: rest)
      (answered : c.evaluated? verdict = some next) : Advance c (.call call) next
  | queues {command} (busy : c.busy = true) :
      Advance c (.call (.submit command)) { c with queue := c.queue ++ [command] }
  | takes {command} (free : c.busy = false) :
      Advance c (.call (.submit command)) { c with
        queue := c.queue ++ [command], stack := .work .draining :: c.stack }
  | registers {sink} : Advance c (.call (.register sink)) { c with listeners := c.listeners ++ sink.children }
  | closes {log} (opened : c.lifecycle ≠ .closed) :
      Advance c (.call .close) { c with
        lifecycle := .closed, log := log, stack := .round .closing c.listeners :: c.stack }
  | stays (closed : c.lifecycle = .closed) : Advance c (.call .close) c
  | refuses {nodes contacts error} (free : c.busy = false) (late : c.lifecycle ≠ .created) :
      Advance c (.call (.start nodes contacts)) { c with answer := some (.error error) }
  | fails {nodes contacts} (error : RoutingError) (free : c.busy = false) (created : c.lifecycle = .created) :
      Advance c (.call (.start nodes contacts)) (c.failStart error)
  | starts {nodes contacts datacenter log} (free : c.busy = false) (created : c.lifecycle = .created) :
      Advance c (.call (.start nodes contacts)) { c with
        lifecycle := .initializing, datacenter := some datacenter, log := log,
        stack := .work (.populating datacenter nodes) :: c.stack }
  | writes {call registry log} (direct : call.direct = true) (changes : Registry.Changes c.registry registry) :
      Advance c (.call call) { c with registry := registry, log := log }

section Moves
variable {c next : Coordinator χ}

theorem own_advance (moved : c.step? = some next) : Advance c .own next := by
  unfold step? at moved
  split at moved
  · cases moved
  · rename_i notice waiting rest top
    cases moved
    cases waiting with
    | nil => exact .finishes top
    | cons child later => exact .tells top
  · rename_i notice rest top
    cases moved
    exact .observes top
  · cases moved
  · cases moved
  · rename_i datacenter rest top
    cases moved
    unfold finishStart
    split
    · rename_i starting
      exact .readies top starting
    · rename_i gone
      exact .abandons top gone
  · rename_i datacenter d left rest top
    cases moved
    exact .records top
  · rename_i rest top
    split at moved
    · rename_i empty
      cases moved
      exact .drains top empty
    · rename_i command later waiting
      cases moved
      unfold dispatch
      split
      · rename_i ready
        split
        · rename_i datacenter located
          exact .applies top waiting ready located
        · rename_i nowhere
          exact .drops top waiting (.inr nowhere)
      · rename_i closed
        exact .drops top waiting (.inl (closed ▸ by simp))
      · rename_i created
        exact .drops top waiting (.inl (created ▸ by simp))
      · rename_i starting
        exact .drops top waiting (.inl (starting ▸ by simp))
  · rename_i peer rest top
    dsimp only at moved
    split at moved
    · rename_i node live
      cases moved
      exact .assigns top live
    · rename_i gone
      cases moved
      exact .misses top gone

theorem submit_busy {command : Command} (working : c.busy = true) :
    c.submit command = { c with queue := c.queue ++ [command] } := by
  have busy : busy { c with queue := c.queue ++ [command] } = true := working
  simp [submit, busy]

theorem submit_free {command : Command} (free : c.busy = false) : c.submit command =
    { c with queue := c.queue ++ [command], stack := .work .draining :: c.stack } := by
  have idle : busy { c with queue := c.queue ++ [command] } = false := free
  simp [submit, idle, begin]

theorem submit_advance (c : Coordinator χ) (command : Command) :
    Advance c (.call (.submit command)) (c.submit command) := by
  cases working : c.busy with
  | true =>
    rw [submit_busy working]
    exact .queues working
  | false =>
    rw [submit_free working]
    exact .takes working

theorem close_advance (c : Coordinator χ) : Advance c (.call .close) c.close := by
  unfold close
  split
  · rename_i closed
    exact .stays closed
  · rename_i opened
    exact .closes opened

theorem start_decided {nodes : List Descriptor} {contacts : List HostId}
    (called : c.start? nodes contacts = some next) :
    c.busy = false ∧
      ((c.lifecycle ≠ .created ∧ next = { c with
          answer := some (.error (if c.lifecycle = .closed then .closed else .alreadyInitialized)) }) ∨
        (c.lifecycle = .created ∧ ∃ error, Datacenter.atStart c.configured nodes contacts = .error error ∧
          next = c.failStart error) ∨
        (c.lifecycle = .created ∧ ∃ found records, Datacenter.atStart c.configured nodes contacts = .ok (found, records) ∧
          next = { c with
            lifecycle := .initializing, datacenter := some (c.datacenter.getD found), log := c.log ++ records,
            stack := .work (.populating (c.datacenter.getD found) nodes) :: c.stack })) := by
  unfold start? at called
  split at called
  · cases called
  · rename_i free
    refine ⟨Bool.eq_false_iff.mpr free, ?_⟩
    split at called
    · rename_i late
      cases called
      exact .inl ⟨by simp [late], by simp [late]⟩
    · rename_i late
      cases called
      exact .inl ⟨by simp [late], by simp [late]⟩
    · rename_i late
      cases called
      exact .inl ⟨by simp [late], by simp [late]⟩
    · rename_i created
      split at called
      · rename_i error failed
        cases called
        exact .inr (.inl ⟨created, error, failed, rfl⟩)
      · rename_i found records resolved
        cases called
        exact .inr (.inr ⟨created, found, records, resolved, rfl⟩)

theorem start_exact {nodes : List Descriptor} {contacts : List HostId}
    (called : c.start? nodes contacts = some next) :
    c.busy = false ∧
      ((c.lifecycle ≠ .created ∧ ∃ error, next = { c with answer := some (.error error) }) ∨
        (c.lifecycle = .created ∧ ∃ error, next = c.failStart error) ∨
        (c.lifecycle = .created ∧ ∃ datacenter log, next = { c with
          lifecycle := .initializing, datacenter := some datacenter, log := log,
          stack := .work (.populating datacenter nodes) :: c.stack })) := by
  obtain ⟨free, ⟨late, rfl⟩ | ⟨created, error, _, rfl⟩ | ⟨created, _, _, _, rfl⟩⟩ := start_decided called
  · exact ⟨free, .inl ⟨late, _, rfl⟩⟩
  · exact ⟨free, .inr (.inl ⟨created, error, rfl⟩)⟩
  · exact ⟨free, .inr (.inr ⟨created, _, _, rfl⟩)⟩

theorem start_advance {nodes : List Descriptor} {contacts : List HostId}
    (called : c.start? nodes contacts = some next) : Advance c (.call (.start nodes contacts)) next := by
  obtain ⟨free, ⟨late, error, rfl⟩ | ⟨created, error, rfl⟩ | ⟨created, datacenter, log, rfl⟩⟩ := start_exact called
  · exact .refuses free late
  · exact .fails error free created
  · exact .starts free created

theorem throw_advance {fault : Fault} (called : c.throw? fault = some next) :
    Advance c (.call (.throw fault)) next := by
  unfold throw? at called
  split at called
  · rename_i name notice rest top
    cases called
    exact .returns rfl top
  · rename_i datacenter purpose d rest top
    exact .answers rfl top called
  · cases called

theorem answer_advance {verdict : Except Fault (Option Distance)} (called : c.evaluated? verdict = some next) :
    Advance c (.call (.answer verdict)) next := by
  have answered := called
  unfold evaluated? at called
  split at called
  · rename_i datacenter purpose d rest top
    exact .answers rfl top answered
  · cases called

theorem write_advance {call : Call χ} (direct : call.direct = true) (called : c.call? call = some next) :
    Advance c (.call call) next := by
  cases call with
  | upsert d decided =>
    simp only [call?, upsert?] at called
    split at called
    · cases called
    · split at called
      · cases called
        exact .writes rfl .refl
      · rename_i done
        cases called
        exact .writes rfl (Registry.upsert_changes done)
  | remove host =>
    simp only [call?, remove?] at called
    split at called
    · cases called
    · split at called
      · cases called
        exact .writes rfl .refl
      · rename_i done
        cases called
        exact .writes rfl (Registry.remove_changes done)
  | place host distance =>
    simp only [call?, setDistance?] at called
    split at called
    · cases called
    · split at called
      · cases called
        exact .writes rfl .refl
      · rename_i done
        split at called
        · cases called
          exact .writes rfl .refl
        · cases called
          exact .writes rfl (Registry.setDistance_changes done)
  | treat host health =>
    simp only [call?, writeHealth] at called
    split at called
    · cases called
      exact .writes rfl .refl
    · rename_i done
      cases called
      exact .writes rfl (Registry.setHealth_changes done)
  | _ => cases direct

theorem call_advance {call : Call χ} (called : c.call? call = some next) : Advance c (.call call) next := by
  cases call with
  | submit command =>
    cases called
    exact submit_advance c command
  | register sink =>
    cases called
    exact .registers
  | close =>
    cases called
    exact close_advance c
  | start nodes contacts => exact start_advance called
  | finish =>
    simp only [call?, return?] at called
    split at called
    · rename_i name notice rest top
      cases called
      exact .returns rfl top
    · cases called
  | answer verdict => exact answer_advance called
  | throw fault => exact throw_advance called
  | upsert | remove | place | treat => exact write_advance rfl called

theorem step_advance {move : Move χ} (step : Step c move next) : Advance c move next := by
  cases step with
  | own moved => exact own_advance moved
  | call _ called => exact call_advance called

inductive Answered (c : Coordinator χ) : Purpose → Descriptor → Coordinator χ → Prop where
  | assigned {peer d} (distance : Distance) : Answered c (.again peer) d (c.assign peer distance)
  | failed {peer d} (record : LogRecord) : Answered c (.again peer) d (c.note record)
  | adopted {purpose d} (decided : Except Fault Distance) (subject : purpose.subject d = d.host) :
      Answered c purpose d (c.adopt purpose d decided)

section Answering
variable {verdict : Except Fault (Option Distance)} {datacenter : String} {purpose : Purpose} {d : Descriptor}
variable {rest : List (Frame (Listener χ) Notice Job)} (answered : c.evaluated? verdict = some next)
variable (top : c.stack = .work (.evaluating datacenter purpose d) :: rest)
include answered top

theorem evaluated_answered : Answered { c with stack := rest } purpose d next := by
  unfold evaluated? at answered
  rw [top] at answered
  dsimp only at answered
  cases purpose with
  | again peer =>
    cases verdict with
    | ok opinion =>
      cases answered
      exact .assigned _
    | error fault =>
      cases answered
      exact .failed _
  | _ =>
    cases answered
    exact .adopted _ rfl

-- The node that the evaluator was asked about again may be gone by now.
theorem evaluated_results (current : ∀ peer, purpose = .again peer → c.registry.peer? peer.host = some peer) :
    Results { c with stack := rest } (purpose.subject d) next := by
  cases evaluated_answered answered top with
  | @assigned peer _ distance =>
    let inner : Coordinator χ := { c with stack := rest }
    have known : inner.registry.peer? peer.host = some peer := current peer rfl
    exact assign_results known distance
  | failed record => exact note_results _ _ record
  | adopted decided subject =>
    rw [subject]
    exact adopt_results _ _ _ decided

theorem evaluated_changes : Registry.Changes c.registry next.registry := by
  cases evaluated_answered answered top with
  | @assigned peer _ distance => exact assign_changes { c with stack := rest } peer distance
  | failed => exact .refl
  | adopted decided => exact (Applied.done (adopt_results { c with stack := rest } purpose d decided)).changes

end Answering

theorem advance_changes {move : Move χ} (advance : Advance c move next) :
    Registry.Changes c.registry next.registry := by
  cases advance with
  | @records datacenter d left rest =>
    let opened : Coordinator χ := { c with stack := .work (.populating datacenter left) :: rest }
    exact (initial_applied opened datacenter d).changes
  | @applies command later _ datacenter =>
    exact (apply_applied { c with queue := later } datacenter command).changes
  | answers _ top answered => exact evaluated_changes answered top
  | writes _ changes => exact changes
  | _ => exact .refl

theorem runs_coherent {start : Coordinator χ} {moments : List (Moment χ)} (valid : start.registry.Coherent)
    (path : Runs start moments c) : c.registry.Coherent := by
  induction path with
  | nil => exact valid
  | step _ step ih => exact Registry.changes_coherent ih (advance_changes (step_advance step))

end Moves

end Coordinator
end ClusterRouting
