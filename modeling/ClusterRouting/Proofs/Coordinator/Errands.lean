import ClusterRouting.Proofs.Coordinator.Outcomes

namespace ClusterRouting

inductive Errand where
  | initial (descriptor : Descriptor)
  | command (command : Command)
deriving DecidableEq

namespace Errand

def host : Errand → HostId
  | initial d => d.host
  | command given => given.host

def failure (fault : Fault) : Errand → LogRecord
  | initial d => .evaluationFailed d.host fault
  | command given => .commandFailed given.kind given.host fault

end Errand

def Purpose.errand : Purpose → Descriptor → Errand
  | .initial, d => .initial d
  | .announced, d => .command (.event (.added d))
  | .again peer, _ => .command (.event (.reevaluate peer.host))

theorem Purpose.failure_errand (purpose : Purpose) (d : Descriptor) (fault : Fault) :
    (purpose.errand d).failure fault = Coordinator.failure purpose (purpose.subject d) fault := by
  cases purpose <;> rfl

structure Digest where
  records : List LogRecord
  notice : Option Notice
deriving DecidableEq

namespace Digest

def silent : Digest := ⟨[], none⟩

def logged (record : LogRecord) : Digest := ⟨[record], none⟩

end Digest

namespace Registry

def Upsert.digest : Upsert → Digest
  | created peer distance =>
    ⟨[.registered peer.host distance, .nodeAdded peer.host distance], some (.added peer)⟩
  | relocated peer previous current =>
    ⟨[.relocated peer.host previous current],
      if previous = current then none else some (.distanceChanged peer current)⟩
  | updated peer => .logged (.refreshed peer.host)
  | unchanged _ => .silent

def recorded (r : Registry) (d : Descriptor) (decided : Except Fault Distance) : Except Fault (Digest × Registry) :=
  (r.upsert d fun _ => decided).map fun done => (done.1.digest, done.2)

def assigned (r : Registry) (peer : Peer) (distance : Distance) : Digest × Registry :=
  match r.setDistance peer.host distance with
  | .error error => (.logged (.placementFailed error distance), r)
  | .ok (previous, next) =>
    if previous = distance then (.silent, r)
    else (⟨[.moved peer.host previous distance], some (.distanceChanged peer distance)⟩, next)

def treated (r : Registry) (host : HostId) (health : Health) (forced : Bool) : Digest × Registry :=
  match r.find? host with
  | none => (.logged (.healthOfUnknown host health), r)
  | some (peer, node) =>
    if !forced ∧ node.health = .forcedDown then (.logged (.healthOfForcedDown host health), r)
    else
      (if node.health = health then .silent
        else ⟨[.healthChanged host node.health health], some (.healthChanged peer node.health health)⟩,
       r.amend peer fun node => { node with health })

-- What comes of an errand when distances are decided like this. If that breaks off, nothing does.
def perform (choose : Descriptor → Except Fault Distance) (r : Registry) : Errand → Except Fault (Digest × Registry)
  | .initial d | .command (.event (.added d)) => r.recorded d (choose d)
  | .command (.event (.removed host)) =>
    .ok <| match r.remove host with
      | none => (.logged (.removalOfUnknown host), r)
      | some (peer, next) => (⟨[.unregistered host, .nodeRemoved host], some (.removed peer)⟩, next)
  | .command (.event (.up host)) => .ok (r.treated host .up false)
  | .command (.event (.down host)) => .ok (r.treated host .down false)
  | .command (.event (.forceDown host)) => .ok (r.treated host .forcedDown true)
  | .command (.event (.forceUp host)) =>
    .ok <| match r.find? host with
      | none => (.logged (.forceUpOfUnknown host), r)
      | some (_, node) =>
        if node.health = .forcedDown then r.treated host .up true else (.logged (.forceUpOfOther host), r)
  | .command (.event (.reevaluate host)) =>
    match r.find? host with
    | none => .ok (.logged (.reevaluationOfUnknown host), r)
    | some (peer, node) => (choose node.descriptor).map (r.assigned peer)
  | .command (.report host distance) =>
    .ok <| match r.peer? host with
      | none => (.logged (.reportOfUnknown host distance), r)
      | some peer => r.assigned peer distance

-- What comes of a decision that was asked for, whatever has been written meanwhile.
def settled (r : Registry) (purpose : Purpose) (d : Descriptor) (decided : Except Fault Distance) :
    Except Fault (Digest × Registry) :=
  match purpose with
  | .initial | .announced => r.recorded d decided
  | .again peer => decided.map (r.assigned peer)

theorem settled_eq_perform {r : Registry} {purpose : Purpose} (d : Descriptor) (decided : Except Fault Distance)
    (aware : ∀ peer, purpose = .again peer → ∃ node, r.find? peer.host = some (peer, node)) :
    r.settled purpose d decided = r.perform (fun _ => decided) (purpose.errand d) := by
  cases purpose with
  | again peer =>
    obtain ⟨node, found⟩ := aware peer rfl
    simp only [settled, perform, Purpose.errand, found]
  | _ => rfl

def question? (r : Registry) : Errand → Option (Purpose × Descriptor)
  | .initial d => if r.needsDistance d then some (.initial, d) else none
  | .command (.event (.added d)) => if r.needsDistance d then some (.announced, d) else none
  | .command (.event (.reevaluate host)) => (r.find? host).map fun known => (.again known.1, known.2.descriptor)
  | .command _ => none

section Deciding
variable {choose other : Descriptor → Except Fault Distance} {r : Registry} {e : Errand}

theorem question?_errand {purpose : Purpose} {d : Descriptor} (asked : r.question? e = some (purpose, d)) :
    purpose.errand d = e := by
  unfold question? at asked
  split at asked
  · split at asked
    · cases asked
      rfl
    · cases asked
  · split at asked
    · cases asked
      rfl
    · cases asked
  · rename_i host
    obtain ⟨⟨peer, node⟩, found, same⟩ := Option.map_eq_some_iff.mp asked
    cases same
    simp [Purpose.errand, find?_host found]
  · cases asked

theorem find?_of_asked_again {peer : Peer} {d : Descriptor}
    (asked : r.question? (Purpose.errand (.again peer) d) = some (.again peer, d)) :
    ∃ node, r.find? peer.host = some (peer, node) := by
  obtain ⟨⟨known, node⟩, found, same⟩ := Option.map_eq_some_iff.mp asked
  cases same
  exact ⟨node, found⟩

theorem recorded_of_decided {d : Descriptor} (settled : r.needsDistance d = false) (decided later : Except Fault Distance) :
    r.recorded d decided = r.recorded d later := by
  unfold needsDistance at settled
  unfold recorded upsert
  cases novel : r.novelty d with
  | newcomer => simp [novel] at settled
  | moved => simp [novel] at settled
  | refreshed => rfl
  | same => rfl

-- No other decision counts.
theorem perform_congr (agree : ∀ purpose d, r.question? e = some (purpose, d) → choose d = other d) :
    r.perform choose e = r.perform other e := by
  have recorded : ∀ {d : Descriptor}, (r.needsDistance d = true → choose d = other d) →
      r.recorded d (choose d) = r.recorded d (other d) := by
    intro d agree
    cases asked : r.needsDistance d with
    | true => rw [agree asked]
    | false => exact recorded_of_decided asked _ _
  cases e with
  | initial d => exact recorded fun asked => agree .initial d (if_pos asked)
  | command command =>
    cases command with
    | report => rfl
    | event event =>
      cases event with
      | added d => exact recorded fun asked => agree .announced d (if_pos asked)
      | reevaluate host =>
        cases found : r.find? host with
        | none => simp only [perform, found]
        | some known =>
          have same := agree (.again known.1) known.2.descriptor (by simp [question?, found])
          simp only [perform, found, same]
      | _ => rfl

theorem perform_of_asked {purpose : Purpose} {d : Descriptor} (asked : r.question? e = some (purpose, d))
    (agree : choose d = other d) : r.perform choose e = r.perform other e :=
  perform_congr fun _ _ again => by
    cases asked.symm.trans again
    exact agree

theorem perform_of_settled (settled : r.question? e = none) : r.perform choose e = r.perform other e :=
  perform_congr fun purpose d asked => by
    rw [settled] at asked
    cases asked

theorem perform_total (r : Registry) (distance : Descriptor → Distance) (e : Errand) :
    ∃ done, r.perform (fun d => .ok (distance d)) e = .ok done := by
  have recorded : ∀ d, ∃ done, r.recorded d (.ok (distance d)) = .ok done := by
    intro d
    unfold recorded upsert
    cases r.novelty d <;> exact ⟨_, rfl⟩
  cases e with
  | initial d => exact recorded d
  | command command =>
    cases command with
    | report => exact ⟨_, rfl⟩
    | event event =>
      cases event with
      | added d => exact recorded d
      | reevaluate host => cases found : r.find? host <;> simp [perform, found, Except.map]
      | _ => exact ⟨_, rfl⟩

theorem recorded_of_fault {d : Descriptor} (asked : r.needsDistance d = true) (fault : Fault) :
    r.recorded d (.error fault) = .error fault := by
  unfold needsDistance at asked
  unfold recorded upsert
  cases novel : r.novelty d with
  | newcomer => rfl
  | moved => rfl
  | refreshed => simp [novel] at asked
  | same => simp [novel] at asked

theorem perform_of_fault {purpose : Purpose} {d : Descriptor} {fault : Fault}
    (asked : r.question? e = some (purpose, d)) (broken : choose d = .error fault) :
    r.perform choose e = .error fault := by
  obtain rfl := question?_errand asked
  cases purpose with
  | again peer =>
    obtain ⟨⟨known, node⟩, found, same⟩ := Option.map_eq_some_iff.mp asked
    cases same
    simp only [perform, Purpose.errand, found, broken, Except.map]
  | _ =>
    simp only [question?, Purpose.errand] at asked
    split at asked
    · rename_i needed
      simp only [perform, Purpose.errand, broken]
      exact recorded_of_fault needed fault
    · cases asked

theorem perform_of_answer {purpose : Purpose} {d : Descriptor} {distance : Distance}
    (asked : r.question? e = some (purpose, d)) (decided : choose d = .ok distance) :
    ∃ done, r.perform choose e = .ok done := by
  have same : r.perform choose e = r.perform (fun _ => .ok distance) e := perform_of_asked asked decided
  rw [same]
  exact perform_total r (fun _ => distance) e

end Deciding

def status (r : Registry) (host : HostId) : Option Node := (r.find? host).map Prod.snd

end Registry

def Event.health : Event → Health → Health
  | up _, before => if before = .forcedDown then .forcedDown else .up
  | down _, before => if before = .forcedDown then .forcedDown else .down
  | forceDown _, _ => .forcedDown
  | forceUp _, before => if before = .forcedDown then .up else before
  | added _, before | removed _, before | reevaluate _, before => before

-- What a descriptor makes of the node that its host is known as.
def Descriptor.becomes (choose : Descriptor → Except Fault Distance) (d : Descriptor) : Option Node → Option Node
  | none => (choose d).toOption.map (.fresh d)
  | some node =>
    if node.descriptor.datacenter = d.datacenter then some { node with descriptor := d }
    else some <| match choose d with
      | .ok distance => { node with descriptor := d, distance }
      | .error _ => node

-- What becomes of a host, whatever else the registry knows.
def Errand.becomes (choose : Descriptor → Except Fault Distance) : Errand → Option Node → Option Node
  | initial d, known | command (.event (.added d)), known => d.becomes choose known
  | command (.event (.removed _)), _ => none
  | command (.event (.reevaluate _)), known => known.map fun node =>
    match choose node.descriptor with
    | .ok distance => { node with distance }
    | .error _ => node
  | command (.event event), known => known.map fun node => { node with health := event.health node.health }
  | command (.report _ distance), known => known.map fun node => { node with distance }

namespace Registry

section Becoming
variable {choose : Descriptor → Except Fault Distance} {r next : Registry} {e : Errand} {digest : Digest}

theorem recorded_exact {d : Descriptor} {decided : Except Fault Distance}
    (done : r.recorded d decided = .ok (digest, next)) :
    ∃ upsert, r.upsert d (fun _ => decided) = .ok (upsert, next) ∧ upsert.digest = digest := by
  unfold recorded at done
  cases upserted : r.upsert d (fun _ => decided) with
  | error fault =>
    rw [upserted] at done
    cases done
  | ok result =>
    rw [upserted] at done
    cases done
    exact ⟨result.1, rfl, rfl⟩

theorem recorded_outcome {d : Descriptor} {decided : Except Fault Distance}
    (done : r.recorded d decided = .ok (digest, next)) : Coordinator.Outcome r d.host next digest.notice := by
  obtain ⟨upsert, upserted, rfl⟩ := recorded_exact done
  have outcome := Coordinator.upsert_outcome upserted
  cases upsert <;> exact outcome

theorem assigned_outcome {peer : Peer} {distance : Distance} (current : r.peer? peer.host = some peer)
    (done : r.assigned peer distance = (digest, next)) : Coordinator.Outcome r peer.host next digest.notice := by
  unfold assigned at done
  split at done
  · cases done
    exact .kept
  · rename_i placed
    split at done
    · cases done
      exact .kept
    · rename_i other
      cases done
      obtain ⟨_, known, outcome⟩ := Coordinator.setDistance_outcome placed other
      cases current.symm.trans known
      exact outcome

theorem treated_outcome {host : HostId} {health : Health} {forced : Bool}
    (done : r.treated host health forced = (digest, next)) : Coordinator.Outcome r host next digest.notice := by
  unfold treated at done
  split at done
  · cases done
    exact .kept
  · rename_i peer node found
    split at done
    · cases done
      exact .kept
    · have outcome : Coordinator.Outcome r host (r.amend peer fun node => { node with health }) _ := .treated found
      cases done
      by_cases same : node.health = health
      · simpa [same, Digest.silent] using outcome
      · simpa [same] using outcome

inductive Performed (r : Registry) (host : HostId) (digest : Digest) (next : Registry) : Prop where
  | recorded {d : Descriptor} {decided : Except Fault Distance} (about : d.host = host)
      (done : r.recorded d decided = .ok (digest, next))
  | assigned {peer : Peer} {distance : Distance} (current : r.peer? peer.host = some peer) (about : peer.host = host)
      (done : r.assigned peer distance = (digest, next))
  | treated {health : Health} {forced : Bool} (done : r.treated host health forced = (digest, next))
  | removed {peer : Peer} (gone : r.remove host = some (peer, next))
      (told : digest = ⟨[.unregistered host, .nodeRemoved host], some (.removed peer)⟩)
  | refused {record : LogRecord} (mild : record.level ≠ .error) (told : digest = .logged record) (same : next = r)

theorem perform_performed (done : r.perform choose e = .ok (digest, next)) : r.Performed e.host digest next := by
  cases e with
  | initial d => exact .recorded rfl done
  | command command =>
    cases command with
    | report host distance =>
      simp only [perform] at done
      split at done
      · cases done
        exact .refused (by simp [LogRecord.level]) rfl rfl
      · rename_i peer known
        have named : peer.host = host := host_of_peer? known
        subst named
        exact .assigned known rfl (Except.ok.inj done)
    | event event =>
      cases event with
      | added d => exact .recorded rfl done
      | removed host =>
        simp only [perform] at done
        split at done
        · cases done
          exact .refused (by simp [LogRecord.level]) rfl rfl
        · rename_i dropped
          cases done
          exact .removed dropped rfl
      | up host => exact .treated (Except.ok.inj done)
      | down host => exact .treated (Except.ok.inj done)
      | forceDown host => exact .treated (Except.ok.inj done)
      | forceUp host =>
        simp only [perform] at done
        split at done
        · cases done
          exact .refused (by simp [LogRecord.level]) rfl rfl
        · split at done
          · exact .treated (Except.ok.inj done)
          · cases done
            exact .refused (by simp [LogRecord.level]) rfl rfl
      | reevaluate host =>
        simp only [perform] at done
        split at done
        · cases done
          exact .refused (by simp [LogRecord.level]) rfl rfl
        · rename_i peer node found
          have known := peer?_of_find? found
          have named : peer.host = host := host_of_peer? known
          subst named
          obtain ⟨distance, done⟩ : ∃ distance, r.assigned peer distance = (digest, next) := by
            cases decided : choose node.descriptor with
            | error fault => simp [decided, Except.map] at done
            | ok distance => exact ⟨distance, by simpa [decided, Except.map] using done⟩
          exact .assigned known rfl done

theorem perform_outcome (done : r.perform choose e = .ok (digest, next)) :
    Coordinator.Outcome r e.host next digest.notice := by
  generalize about : e.host = host
  cases about ▸ perform_performed done with
  | recorded about done => exact about ▸ recorded_outcome done
  | assigned current about done => exact about ▸ assigned_outcome current done
  | treated done => exact treated_outcome done
  | removed gone told =>
    obtain ⟨peer, known, same⟩ := Option.map_eq_some_iff.mp gone
    cases same
    cases told
    exact .dropped known
  | refused _ told same =>
    cases told
    cases same
    exact .kept

theorem perform_changes (choose : Descriptor → Except Fault Distance) (r : Registry) (e : Errand) :
    Changes r (r.after (r.perform choose e)) := by
  apply after_changes
  intro digest next done
  exact (perform_outcome done).changes

theorem status_of_unchanged {host : HostId} (same : next.find? host = r.find? host) : next.status host = r.status host :=
  congrArg (Option.map Prod.snd) same

theorem status_of_found {host : HostId} {peer : Peer} {node : Node} (found : r.find? host = some (peer, node)) :
    r.status host = some node := by
  simp [status, found]

theorem status_recorded (valid : r.Coherent) (d : Descriptor) :
    (r.after (r.recorded d (choose d))).status d.host = d.becomes choose (r.status d.host) := by
  have exact := novelty_exact r d
  unfold recorded upsert
  cases novel : r.novelty d with
  | newcomer =>
    simp only [novel] at exact
    cases decided : choose d with
    | error fault => simp [Except.map, after, status, exact, Descriptor.becomes, decided, Except.toOption]
    | ok distance =>
      have found := @find?_enter r valid d distance exact d.host
      simp [Except.map, after, status, exact, Descriptor.becomes, decided, Except.toOption, found]
  | same peer =>
    simp only [novel] at exact
    obtain ⟨node, found, rfl⟩ := exact
    simp [Except.map, after, status, found, Descriptor.becomes]
  | refreshed peer =>
    simp only [novel] at exact
    obtain ⟨node, found, _, near⟩ := exact
    have amended := find?_amend valid found (fun node => { node with descriptor := d }) d.host
    simp only [Except.map, after, status, replaceDescriptor, amended, found, if_true, Option.map_some,
      Descriptor.becomes, near]
  | moved peer =>
    simp only [novel] at exact
    obtain ⟨node, found, far⟩ := exact
    cases decided : choose d with
    | error fault => simp [Except.map, after, status, found, Descriptor.becomes, far, decided]
    | ok distance =>
      have described := find?_amend valid found (fun node => { node with descriptor := d }) d.host
      rw [if_pos rfl] at described
      have kept : (r.replaceDescriptor peer d).Coherent := change_coherent valid (.described found)
      have placed := find?_place kept described distance d.host
      simp only [Except.map, after, status, placed, found, if_true, Option.map_some, Descriptor.becomes, far, if_false,
        decided]

theorem status_assigned (valid : r.Coherent) {host : HostId} {peer : Peer} {node : Node}
    (found : r.find? host = some (peer, node)) (distance : Distance) :
    (r.assigned peer distance).2.status host = some { node with distance } := by
  obtain rfl := find?_host found
  have entered := (valid.entered found).1
  unfold assigned setDistance
  rw [entered]
  by_cases same : node.distance = distance
  · subst same
    simp [status, found]
  · have placed := find?_place valid found distance peer.host
    simp [same, status, placed]

theorem status_treated (valid : r.Coherent) (host : HostId) (health : Health) (forced : Bool) :
    (r.treated host health forced).2.status host = (r.status host).map fun node =>
      if !forced ∧ node.health = .forcedDown then node else { node with health } := by
  unfold treated
  cases found : r.find? host with
  | none => simp [status, found]
  | some known =>
    obtain ⟨peer, node⟩ := known
    have amended := find?_amend valid found (fun node => { node with health }) host
    dsimp only
    split
    · rename_i refused
      simp [status, found, refused]
    · rename_i free
      simp only [status, found, amended, if_true, Option.map_some, if_neg free]

-- No errand reaches beyond its host, and what it makes of that host lies in the node alone.
theorem status_perform (valid : r.Coherent) (choose : Descriptor → Except Fault Distance) (e : Errand) (host : HostId) :
    (r.after (r.perform choose e)).status host =
      if host = e.host then e.becomes choose (r.status host) else r.status host := by
  split
  · rename_i same
    subst same
    cases e with
    | initial d => exact status_recorded valid d
    | command command =>
      cases command with
      | report host distance =>
        simp only [perform, Errand.host, Command.host, Errand.becomes]
        cases found : r.find? host with
        | none =>
          have unknown := valid.find?_eq_none.mp found
          simp [unknown, after, status, found]
        | some known =>
          obtain ⟨peer, node⟩ := known
          simpa [peer?_of_find? found, after, status_of_found found] using status_assigned valid found distance
      | event event =>
        cases event with
        | added d => exact status_recorded valid d
        | removed host =>
          simp only [perform, Errand.host, Command.host, Event.host, Errand.becomes]
          cases known : r.peer? host with
          | none => simp [remove, known, after, status, valid.find?_eq_none.mpr known]
          | some peer =>
            have dropped := find?_drop valid known (fun node => { node with removed := true }) host
            simp only [remove, known, Option.map_some, after, status, dropped, if_true, Option.map_none]
        | up host =>
          refine (status_treated valid host .up false).trans (Option.map_congr ?_)
          rintro ⟨d, health, distance, removed⟩ _
          cases health <;> rfl
        | down host =>
          refine (status_treated valid host .down false).trans (Option.map_congr ?_)
          rintro ⟨d, health, distance, removed⟩ _
          cases health <;> rfl
        | forceDown host =>
          refine (status_treated valid host .forcedDown true).trans (Option.map_congr fun node _ => ?_)
          simp [Event.health]
        | forceUp host =>
          simp only [perform, Errand.host, Command.host, Event.host, Errand.becomes]
          cases found : r.find? host with
          | none => simp [after, status, found]
          | some known =>
            obtain ⟨peer, node⟩ := known
            dsimp only
            split
            · rename_i down
              refine (status_treated valid host .up true).trans ?_
              simp [status_of_found found, Event.health, down]
            · rename_i other
              simp [after, status_of_found found, Event.health, other]
        | reevaluate host =>
          simp only [perform, Errand.host, Command.host, Event.host, Errand.becomes]
          cases found : r.find? host with
          | none => simp [after, status, found]
          | some known =>
            obtain ⟨peer, node⟩ := known
            cases decided : choose node.descriptor with
            | error fault => simp [Except.map, after, status_of_found found, decided]
            | ok distance =>
              simpa [Except.map, after, status_of_found found, decided] using status_assigned valid found distance
  · rename_i differ
    cases done : r.perform choose e with
    | error fault => rfl
    | ok result =>
      obtain ⟨digest, next⟩ := result
      exact status_of_unchanged ((perform_outcome done).others valid differ)

end Becoming

end Registry
end ClusterRouting
