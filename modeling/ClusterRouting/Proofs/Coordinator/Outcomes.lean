import ClusterRouting.Coordinator.Step
import ClusterRouting.Proofs.Registry.Lookup

namespace ClusterRouting

def Purpose.subject : Purpose → Descriptor → HostId
  | .initial, d | .announced, d => d.host
  | .again peer, _ => peer.host

-- A node that was just added still gets its distance told when the round has ended.
def Notice.sequel {χ : Type} : Notice → List (Frame (Listener χ) Notice Job)
  | .added peer => [.work (.assigning peer)]
  | _ => []

def Registry.Upsert.notice : Registry.Upsert → Option Notice
  | created peer _ => some (.added peer)
  | relocated peer previous current => if previous = current then none else some (.distanceChanged peer current)
  | updated _ | unchanged _ => none

namespace Coordinator
variable {χ : Type}

def told (listeners : List (Listener χ)) : Option Notice → List (Frame (Listener χ) Notice Job)
  | none => []
  | some notice => .round notice listeners :: notice.sequel

-- One change for one host at most, and at most one notice of it.
inductive Outcome (r : Registry) (host : HostId) : Registry → Option Notice → Prop where
  | kept : Outcome r host r none
  | entered {d distance} (named : d.host = host) (unknown : r.find? host = none) :
      Outcome r host (r.enter d distance).2 (some (.added (r.enter d distance).1))
  | described {d peer node} (named : d.host = host) (known : r.find? host = some (peer, node)) :
      Outcome r host (r.replaceDescriptor peer d) none
  | relocated {d peer node distance} (named : d.host = host) (known : r.find? host = some (peer, node)) :
      Outcome r host ((r.replaceDescriptor peer d).place peer distance)
        (if (r.distance? host).getD distance = distance then none else some (.distanceChanged peer distance))
  | placed {known distance} (found : r.topology.entry? host = some known) (other : known.distance ≠ distance) :
      Outcome r host (r.place known.peer distance) (some (.distanceChanged known.peer distance))
  | treated {peer node health} (known : r.find? host = some (peer, node)) :
      Outcome r host (r.amend peer fun node => { node with health })
        (if node.health = health then none else some (.healthChanged peer node.health health))
  | dropped {peer} (known : r.peer? host = some peer) :
      Outcome r host
        { r.amend peer fun node => { node with removed := true } with topology := r.topology.erase host }
        (some (.removed peer))

theorem Outcome.changes {r next : Registry} {host : HostId} {notice : Option Notice}
    (outcome : Outcome r host next notice) : Registry.Changes r next := by
  cases outcome with
  | kept => exact .refl
  | entered named unknown => exact .single (.entered (named ▸ unknown))
  | described named known => exact .single (.described (named ▸ known))
  | @relocated d peer _ distance named known =>
    have before : r.peer? host = some peer := Registry.peer?_of_find? known
    have still : (r.replaceDescriptor peer d).peer? host = some peer := before
    exact .tail (.single (.described (named ▸ known))) (.placed still)
  | placed found => exact .single (.placed (Registry.peer?_of_entered found))
  | treated known => exact .single (.treated known)
  | dropped known => exact .single (.dropped known)

inductive Shift : Option (Peer × Node) → Option (Peer × Node) → Option Notice → Prop where
  | none : Shift none none none
  | silent {peer node next} (health : next.health = node.health) (distance : next.distance = node.distance) :
      Shift (some (peer, node)) (some (peer, next)) none
  | entered {peer d distance} : Shift none (some (peer, .fresh d distance)) (some (.added peer))
  | moved {peer node next} (health : next.health = node.health) (other : node.distance ≠ next.distance) :
      Shift (some (peer, node)) (some (peer, next)) (some (.distanceChanged peer next.distance))
  | treated {peer node next} (distance : next.distance = node.distance) (other : node.health ≠ next.health) :
      Shift (some (peer, node)) (some (peer, next)) (some (.healthChanged peer node.health next.health))
  | dropped {peer node} : Shift (some (peer, node)) none (some (.removed peer))

theorem Shift.kept (known : Option (Peer × Node)) : Shift known known .none := by
  cases known with
  | none => exact .none
  | some known => exact .silent rfl rfl

section Outcome
variable {r next : Registry} {host : HostId} {notice : Option Notice}

theorem Outcome.others (valid : r.Coherent) (outcome : Outcome r host next notice) {other : HostId}
    (differ : other ≠ host) : next.find? other = r.find? other := by
  cases outcome with
  | kept => rfl
  | entered named unknown =>
    subst named
    rw [Registry.find?_enter valid unknown, if_neg differ]
  | described named known => rw [Registry.replaceDescriptor, Registry.find?_amend valid known, if_neg differ]
  | @relocated d peer node distance named known =>
    have found := Registry.find?_amend valid known fun node => { node with descriptor := d }
    have kept : (r.replaceDescriptor peer d).Coherent := Registry.change_coherent valid (.described (named ▸ known))
    rw [Registry.find?_place kept ((found host).trans (if_pos rfl)), if_neg differ]
    exact (found other).trans (if_neg differ)
  | placed found =>
    obtain ⟨node, known⟩ := valid.find?_of_peer? (Registry.peer?_of_entered found)
    rw [Registry.find?_place valid known, if_neg differ]
  | treated known => rw [Registry.find?_amend valid known, if_neg differ]
  | dropped known => rw [Registry.find?_drop valid known, if_neg differ]

theorem Outcome.shift (valid : r.Coherent) (outcome : Outcome r host next notice) :
    Shift (r.find? host) (next.find? host) notice := by
  cases outcome with
  | kept => exact .kept _
  | entered named unknown =>
    subst named
    rw [Registry.find?_enter valid unknown, if_pos rfl, unknown]
    exact .entered
  | described named known =>
    rw [Registry.replaceDescriptor, Registry.find?_amend valid known, if_pos rfl, known]
    exact .silent rfl rfl
  | @relocated d peer node distance named known =>
    have found := (Registry.find?_amend valid known fun node => { node with descriptor := d }) host
    rw [if_pos rfl] at found
    have kept : (r.replaceDescriptor peer d).Coherent := Registry.change_coherent valid (.described (named ▸ known))
    have previous : (r.distance? host).getD distance = node.distance := by simp [valid.distance?_eq, known]
    rw [Registry.find?_place kept found, if_pos rfl, known, previous]
    by_cases same : node.distance = distance
    · rw [if_pos same]
      exact .silent rfl same.symm
    · rw [if_neg same]
      exact .moved rfl same
  | @placed known distance found other =>
    obtain ⟨node, shown⟩ := valid.find?_of_peer? (Registry.peer?_of_entered found)
    have before : known.distance = node.distance := by
      have whole := (valid.entered shown).1
      rw [found] at whole
      exact congrArg Entry.distance (Option.some.inj whole)
    rw [Registry.find?_place valid shown, if_pos rfl, shown]
    exact .moved rfl (before ▸ other)
  | @treated peer node health known =>
    rw [Registry.find?_amend valid known, if_pos rfl, known]
    by_cases same : node.health = health
    · rw [if_pos same]
      exact .silent same.symm rfl
    · rw [if_neg same]
      exact .treated rfl same
  | dropped known =>
    obtain ⟨node, shown⟩ := valid.find?_of_peer? known
    rw [Registry.find?_drop valid known, if_pos rfl, shown]
    exact .dropped

theorem Outcome.named (valid : r.Coherent) {notice : Notice} (outcome : Outcome r host next (some notice)) :
    notice.peer?.map Peer.host = some host := by
  have shift := outcome.shift valid
  clear outcome
  generalize known : r.find? host = before, found : next.find? host = now, said : some notice = news at shift
  cases shift with
  | none => cases said
  | silent => cases said
  | dropped =>
    cases said
    exact congrArg some (Registry.find?_host known)
  | _ =>
    cases said
    exact congrArg some (Registry.find?_host found)

-- A node that leaves is flagged before anybody hears of it.
theorem Outcome.flagged (valid : r.Coherent) {peer : Peer} (outcome : Outcome r host next (some (.removed peer))) :
    ∃ node, next.node? peer = some node ∧ node.removed = true := by
  generalize said : some (Notice.removed peer) = notice at outcome
  cases outcome with
  | dropped known =>
    cases said
    obtain ⟨node, shown⟩ := valid.find?_of_peer? known
    have live : r.node? peer = some node := (Registry.find?_eq_some.mp shown).2
    refine ⟨{ node with removed := true }, (Registry.node?_amend r peer peer _).trans ?_, rfl⟩
    simp [live]
  | relocated => split at said <;> cases said
  | treated => split at said <;> cases said
  | _ => cases said

theorem upsert_outcome {d : Descriptor} {evaluate : Descriptor → Except Fault Distance} {upsert : Registry.Upsert}
    (done : r.upsert d evaluate = .ok (upsert, next)) : Outcome r d.host next upsert.notice := by
  have exact := Registry.novelty_exact r d
  unfold Registry.upsert at done
  cases novel : r.novelty d with
  | newcomer =>
    simp only [novel] at exact done
    split at done
    · cases done
    · cases done
      exact .entered rfl exact
  | same peer =>
    simp only [novel] at done
    cases done
    exact .kept
  | refreshed peer =>
    simp only [novel] at exact done
    obtain ⟨node, known, _⟩ := exact
    cases done
    exact .described rfl known
  | moved peer =>
    simp only [novel] at exact done
    obtain ⟨node, known, _⟩ := exact
    split at done
    · cases done
    · cases done
      exact .relocated rfl known

theorem setDistance_outcome {distance previous : Distance} (done : r.setDistance host distance = .ok (previous, next))
    (other : previous ≠ distance) :
    ∃ peer, r.peer? host = some peer ∧ Outcome r host next (some (.distanceChanged peer distance)) := by
  unfold Registry.setDistance at done
  split at done
  · cases done
  · rename_i known found
    split at done
    · rename_i same
      cases done
      exact absurd same other
    · cases done
      exact ⟨known.peer, Registry.peer?_of_entered found, .placed found other⟩

end Outcome

def Results (c : Coordinator χ) (host : HostId) (next : Coordinator χ) : Prop :=
  ∃ registry log notice,
    next = { c with registry := registry, log := log, stack := told c.listeners notice ++ c.stack } ∧
      Outcome c.registry host registry notice

inductive Applied (c : Coordinator χ) (host : HostId) : Coordinator χ → Prop where
  | done {next} (results : Results c host next) : Applied c host next
  | asked {datacenter purpose d} (subject : purpose.subject d = host)
      (current : ∀ peer, purpose = .again peer → c.registry.peer? peer.host = some peer) :
      Applied c host (c.begin (.evaluating datacenter purpose d))

section Results
variable {c : Coordinator χ}

theorem note_results (c : Coordinator χ) (host : HostId) (record : LogRecord) : Results c host (c.note record) :=
  ⟨c.registry, _, none, rfl, .kept⟩

theorem kept_results (c : Coordinator χ) (host : HostId) : Results c host c := ⟨c.registry, c.log, none, rfl, .kept⟩

theorem adopt_results (c : Coordinator χ) (purpose : Purpose) (d : Descriptor) (decided : Except Fault Distance) :
    Results c d.host (c.adopt purpose d decided) := by
  unfold adopt
  split
  · rename_i upsert registry done
    have outcome := upsert_outcome done
    cases upsert with
    | relocated peer previous current =>
      refine ⟨registry, c.log ++ [.relocated peer.host previous current], _, ?_, outcome⟩
      simp only [announce, Registry.Upsert.notice]
      split <;> rfl
    | _ => exact ⟨registry, _, _, rfl, outcome⟩
  · exact note_results c _ _

-- A node that is not the known one of its host any more would be named in the notice all the same.
theorem assign_results {peer : Peer} (current : c.registry.peer? peer.host = some peer) (distance : Distance) :
    Results c peer.host (c.assign peer distance) := by
  unfold assign
  split
  · exact note_results c _ _
  · rename_i previous registry done
    split
    · exact kept_results c _
    · rename_i other
      obtain ⟨_, known, outcome⟩ := setDistance_outcome done other
      cases current.symm.trans known
      exact ⟨registry, c.log ++ [.moved peer.host previous distance], _, rfl, outcome⟩

theorem assign_changes (c : Coordinator χ) (peer : Peer) (distance : Distance) :
    Registry.Changes c.registry (c.assign peer distance).registry := by
  unfold assign
  split
  · exact .refl
  · rename_i done
    split
    · exact .refl
    · exact Registry.setDistance_changes done

theorem setHealth_results (c : Coordinator χ) (host : HostId) (health : Health) (forced : Bool) :
    Results c host (c.setHealth host health forced) := by
  unfold setHealth Registry.setHealth
  cases found : c.registry.find? host with
  | none => exact note_results c _ _
  | some known =>
    obtain ⟨peer, node⟩ := known
    dsimp only
    split
    · exact note_results c _ _
    · by_cases same : node.health = health
      · refine ⟨c.registry.amend peer fun node => { node with health }, c.log, _, ?_, .treated found⟩
        simp [same, told]
      · refine ⟨c.registry.amend peer fun node => { node with health },
          c.log ++ [.healthChanged host node.health health], _, ?_, .treated found⟩
        simp only [same, if_false]
        rfl

theorem remove_results (c : Coordinator χ) (datacenter : String) (host : HostId) :
    Results c host (c.applyEvent datacenter (.removed host)) := by
  cases known : c.registry.peer? host with
  | none =>
    simp only [applyEvent, Registry.remove, known, Option.map_none]
    exact note_results c _ _
  | some peer =>
    simp only [applyEvent, Registry.remove, known, Option.map_some]
    exact ⟨_, c.log ++ [.unregistered host, .nodeRemoved host], _, rfl, .dropped known⟩

end Results

section Applied

theorem consider_applied (c : Coordinator χ) (datacenter : String) {purpose : Purpose} (d : Descriptor)
    (fresh : ∀ peer, purpose ≠ .again peer) : Applied c d.host (c.consider datacenter purpose d) := by
  unfold consider
  split
  · refine .asked ?_ fun peer again => absurd again (fresh peer)
    cases purpose with
    | again peer => exact absurd rfl (fresh peer)
    | _ => rfl
  · exact .done (adopt_results c _ _ _)

theorem initial_applied (c : Coordinator χ) (datacenter : String) (d : Descriptor) :
    Applied c d.host (c.consider datacenter .initial d) :=
  consider_applied c datacenter d (by simp)

theorem applyEvent_applied (c : Coordinator χ) (datacenter : String) (event : Event) :
    Applied c event.host (c.applyEvent datacenter event) := by
  cases event with
  | added d => exact consider_applied c _ d (by simp)
  | removed host => exact .done (remove_results c _ _)
  | up host => exact .done (setHealth_results c _ _ _)
  | down host => exact .done (setHealth_results c _ _ _)
  | forceDown host => exact .done (setHealth_results c _ _ _)
  | forceUp host =>
    simp only [applyEvent]
    split
    · exact .done (note_results c _ _)
    · split
      · exact .done (setHealth_results c _ _ _)
      · exact .done (note_results c _ _)
  | reevaluate host =>
    simp only [applyEvent]
    cases found : c.registry.find? host with
    | none => exact .done (note_results c _ _)
    | some known =>
      obtain ⟨peer, node⟩ := known
      have current : c.registry.peer? host = some peer := Registry.peer?_of_find? found
      have named : peer.host = host := Registry.host_of_peer? current
      dsimp only [Event.host]
      split
      · refine .asked named ?_
        rintro _ ⟨⟩
        rwa [named]
      · rw [← named] at current ⊢
        exact .done (assign_results current _)

theorem Applied.changes {c next : Coordinator χ} {host : HostId} (applied : Applied c host next) :
    Registry.Changes c.registry next.registry := by
  cases applied with
  | done results =>
    obtain ⟨registry, log, notice, rfl, outcome⟩ := results
    exact outcome.changes
  | asked => exact .refl

theorem apply_applied (c : Coordinator χ) (datacenter : String) (command : Command) :
    Applied c command.host (c.apply datacenter command) := by
  cases command with
  | event event => exact applyEvent_applied c _ _
  | report host distance =>
    simp only [apply]
    cases known : c.registry.peer? host with
    | none => exact .done (note_results c _ _)
    | some peer =>
      have named : peer.host = host := Registry.host_of_peer? known
      subst named
      exact .done (assign_results known _)

end Applied

end Coordinator
end ClusterRouting
