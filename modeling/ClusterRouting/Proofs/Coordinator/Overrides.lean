import ClusterRouting.Proofs.Coordinator.Conclusions
import ClusterRouting.Proofs.Policy.Captured

namespace ClusterRouting

inductive Event.Turns : Event → Health → Health → Prop where
  | up {host before} (free : before ≠ .forcedDown) : Turns (.up host) before .up
  | down {host before} (free : before ≠ .forcedDown) : Turns (.down host) before .down
  | forceDown {host before} : Turns (.forceDown host) before .forcedDown
  | forceUp {host} : Turns (.forceUp host) .forcedDown .up

theorem Event.turns_health {event : Event} {before : Health} (other : event.health before ≠ before) :
    event.Turns before (event.health before) := by
  cases event with
  | up host | down host =>
    by_cases down : before = .forcedDown
    · exact absurd (by simp [health, down]) other
    · simp only [health, down, if_false]
      constructor
      exact down
  | forceDown host => exact .forceDown
  | forceUp host =>
    by_cases down : before = .forcedDown
    · subst down
      exact .forceUp
    · exact absurd (by simp [health, down]) other
  | _ => exact absurd rfl other

theorem Event.Turns.confirms {event : Event} {before after : Health} (turns : event.Turns before after) :
    after ≠ .unknown := by
  cases turns <;> simp

namespace Errand

def health : Errand → Health → Health
  | command (.event event), before => event.health before
  | initial _, before | command (.report ..), before => before

theorem health_of_asked (purpose : Purpose) (d : Descriptor) (before : Health) :
    (purpose.errand d).health before = before := by
  cases purpose <;> rfl

variable {choose : Descriptor → Except Fault Distance} {e : Errand} {node after : Node}

theorem becomes_health (becomes : e.becomes choose (some node) = some after) : after.health = e.health node.health := by
  have described : ∀ d : Descriptor, d.becomes choose (some node) = some after → after.health = node.health := by
    intro d becomes
    simp only [Descriptor.becomes] at becomes
    split at becomes
    · cases becomes
      rfl
    · cases Option.some.inj becomes
      cases choose d <;> rfl
  cases e with
  | initial d => exact described d becomes
  | command command =>
    cases command with
    | report =>
      cases becomes
      rfl
    | event event =>
      cases event with
      | added d => exact described d becomes
      | removed => cases becomes
      | reevaluate host =>
        simp only [Errand.becomes, Option.map_some] at becomes
        cases becomes
        cases choose node.descriptor <;> rfl
      | _ =>
        cases becomes
        rfl

theorem becomes_none (gone : e.becomes choose (some node) = none) : e = .command (.event (.removed e.host)) := by
  have described : ∀ d : Descriptor, d.becomes choose (some node) ≠ none := by
    intro d
    simp only [Descriptor.becomes]
    split <;> simp
  cases e with
  | initial d => exact absurd gone (described d)
  | command command =>
    cases command with
    | report => cases gone
    | event event =>
      cases event with
      | added d => exact absurd gone (described d)
      | removed => rfl
      | _ => cases gone

end Errand

namespace Registry

section Known
variable {r : Registry} {host : HostId} {peer : Peer} {node : Node}

-- No errand drops a host and enters it again.
theorem perform_keeps_peer (valid : r.Coherent) (found : r.find? host = some (peer, node))
    (choose : Descriptor → Except Fault Distance) (e : Errand) {shown : Node}
    (status : (r.after (r.perform choose e)).status host = some shown) :
    (r.after (r.perform choose e)).find? host = some (peer, shown) := by
  obtain ⟨⟨other, _⟩, now, rfl⟩ := Option.map_eq_some_iff.mp status
  suffices same : other = peer by rw [now, same]
  cases done : r.perform choose e with
  | error fault =>
    simp only [done, after] at now
    cases found.symm.trans now
    rfl
  | ok result =>
    obtain ⟨digest, next⟩ := result
    simp only [done, after] at now
    have outcome := perform_outcome done
    by_cases same : host = e.host
    · subst same
      have shift := outcome.shift valid
      rw [found, now] at shift
      generalize digest.notice = notice at shift
      cases shift <;> rfl
    · rw [outcome.others valid same, found] at now
      cases now
      rfl

-- What an errand leaves of a known host: the membership, in the health that the errand turns it to, or nothing.
theorem perform_known (valid : r.Coherent) (found : r.find? host = some (peer, node))
    (choose : Descriptor → Except Fault Distance) (e : Errand) :
    (∃ after, (r.after (r.perform choose e)).find? host = some (peer, after) ∧
      after.health = if host = e.host then e.health node.health else node.health) ∨
    (e = .command (.event (.removed host)) ∧ (r.after (r.perform choose e)).find? host = none ∧
      (r.after (r.perform choose e)).node? peer = some { node with removed := true }) := by
  have status := status_perform valid choose e host
  rw [status_of_found found] at status
  by_cases same : host = e.host
  · rw [if_pos same] at status ⊢
    cases becomes : e.becomes choose (some node) with
    | none =>
      right
      have dropped := Errand.becomes_none becomes
      rw [← same] at dropped
      rw [becomes] at status
      subst dropped
      refine ⟨rfl, Option.map_eq_none_iff.mp status, ?_⟩
      have live := (find?_eq_some.mp found).2
      simp only [perform, remove, peer?_of_find? found, Option.map_some, after]
      refine (node?_amend r peer peer _).trans ?_
      simp [live]
    | some shown =>
      left
      rw [becomes] at status
      exact ⟨shown, perform_keeps_peer valid found choose e status, Errand.becomes_health becomes⟩
  · left
    rw [if_neg same] at status ⊢
    exact ⟨node, perform_keeps_peer valid found choose e status, rfl⟩

end Known

end Registry

namespace Coordinator
variable {χ φ σ : Type}

def Moment.health (moment : Moment χ) (host : HostId) (before : Health) : Health :=
  match moment.errand? with
  | some e => if host = e.host then e.health before else before
  | none => before

theorem Moment.health_of_idle {moment : Moment χ} (idle : moment.errand? = none) (host : HostId) (before : Health) :
    moment.health host before = before := by
  simp [Moment.health, idle]

theorem Moment.turns_health {moment : Moment χ} {host : HostId} {before : Health}
    (other : moment.health host before ≠ before) :
    ∃ event, moment.errand? = some (.command (.event event)) ∧ event.host = host ∧
      event.Turns before (moment.health host before) := by
  unfold Moment.health at other ⊢
  cases taken : moment.errand? with
  | none => simp [taken] at other
  | some e =>
    simp only [taken] at other ⊢
    by_cases same : host = e.host
    · rw [if_pos same] at other ⊢
      cases e with
      | initial d => exact absurd rfl other
      | command command =>
        cases command with
        | report => exact absurd rfl other
        | event event => exact ⟨event, rfl, same.symm, Event.turns_health other⟩
    · rw [if_neg same] at other
      exact absurd rfl other

section Stepping
variable {start b c next : Coordinator χ} {later moments : List (Moment χ)} {move : Move χ} {stage : Stage χ}
variable {host : HostId} {peer : Peer} {node : Node}

theorem step_known (valid : c.registry.Coherent) (staged : Staged c stage) (step : Step c move next)
    (mediated : move.direct = false) (found : c.registry.find? host = some (peer, node)) :
    (∃ after, next.registry.find? host = some (peer, after) ∧ after.health = Moment.health ⟨c, move⟩ host node.health) ∨
    (Moment.errand? ⟨c, move⟩ = some (.command (.event (.removed host))) ∧ next.registry.find? host = none ∧
      next.registry.node? peer = some { node with removed := true }) := by
  cases step_carries valid staged step mediated with
  | still idle same =>
    left
    rw [same]
    exact ⟨node, found, (Moment.health_of_idle idle _ _).symm⟩
  | @asks purpose d taken same =>
    left
    rw [same]
    refine ⟨node, found, ?_⟩
    simp [Moment.health, taken, Errand.health_of_asked]
  | @takes choose e taken done =>
    rw [done]
    rcases Registry.perform_known valid found choose e with ⟨after, now, turned⟩ | ⟨dropped, gone⟩
    · exact .inl ⟨after, now, by simpa [Moment.health, taken] using turned⟩
    · exact .inr ⟨dropped ▸ taken, gone⟩
  | @answers choose purpose d idle done =>
    left
    rw [done, Moment.health_of_idle idle]
    rcases Registry.perform_known valid found choose (purpose.errand d) with ⟨after, now, turned⟩ | ⟨dropped, _⟩
    · exact ⟨after, now, by simpa [Errand.health_of_asked] using turned⟩
    · cases purpose <;> simp [Purpose.errand] at dropped

theorem step_event (valid : c.registry.Coherent) (staged : Staged c stage) (step : Step c move next)
    (mediated : move.direct = false) (found : c.registry.find? host = some (peer, node)) {event : Event}
    (taken : Moment.errand? ⟨c, move⟩ = some (.command (.event event))) (about : event.host = host)
    (stays : event ≠ .removed host) :
    ∃ after, next.registry.find? host = some (peer, after) ∧ after.health = event.health node.health := by
  rcases step_known valid staged step mediated found with ⟨after, now, health⟩ | ⟨dropped, _⟩
  · have subject : host = (Errand.command (.event event)).host := about.symm
    refine ⟨after, now, ?_⟩
    rw [health]
    simp only [Moment.health, taken]
    exact if_pos subject
  · cases taken.symm.trans dropped
    exact absurd rfl stays

theorem step_drops (valid : c.registry.Coherent) (staged : Staged c stage) (step : Step c move next)
    (mediated : move.direct = false) (taken : Moment.errand? ⟨c, move⟩ = some (.command (.event (.removed host)))) :
    next.registry.find? host = none := by
  cases step_carries valid staged step mediated with
  | still idle => cases idle.symm.trans taken
  | @asks purpose d asked =>
    have same := Option.some.inj (asked.symm.trans taken)
    cases purpose <;> simp [Purpose.errand] at same
  | @takes choose e other done =>
    cases other.symm.trans taken
    have status := Registry.status_perform valid choose (.command (.event (.removed host))) host
    rw [done]
    exact Option.map_eq_none_iff.mp (status.trans (if_pos rfl))
  | answers idle => cases idle.symm.trans taken

theorem step_turns (valid : c.registry.Coherent) (accounted : c.registry.Accounted) (staged : Staged c stage)
    (step : Step c move next) (mediated : move.direct = false) (live : c.registry.node? peer = some node)
    {turned : Node} (after : next.registry.node? peer = some turned) (other : turned.health ≠ node.health) :
    ∃ event, Moment.errand? ⟨c, move⟩ = some (.command (.event event)) ∧ event.host = node.descriptor.host ∧
      event.Turns node.health turned.health := by
  cases flagged : node.removed with
  | true =>
    have kept := Registry.changes_keep_retired valid (advance_changes (step_advance step)) live flagged
    cases kept.symm.trans after
    exact absurd rfl other
  | false =>
    have found := accounted peer node live flagged
    rcases step_known valid staged step mediated found with ⟨shown, now, health⟩ | ⟨_, _, gone⟩
    · cases (Registry.find?_eq_some.mp now).2.symm.trans after
      rw [health] at other ⊢
      exact Moment.turns_health other
    · cases gone.symm.trans after
      exact absurd rfl other

end Stepping

structure Tended (c : Coordinator χ) : Prop where
  coherent : c.registry.Coherent
  accounted : c.registry.Accounted
  staged : ∃ stage, Staged c stage

theorem fresh_tended (rule : DistanceRule) (configured : Option String) (listeners : List (Listener χ))
    (writes : List Registry.Write) :
    Tended { fresh rule configured listeners with registry := Registry.empty.run writes } := by
  have changes := Registry.run_changes .empty writes
  refine ⟨Registry.changes_coherent Registry.empty_coherent changes, ?_, .idle, fresh_staged _ _ _ _⟩
  exact Registry.changes_accounted Registry.empty_coherent Registry.empty_accounted changes

section Tending
variable {b c next : Coordinator χ} {later : List (Moment χ)} {move : Move χ}
variable {host : HostId} {peer : Peer} {node : Node}

theorem step_tended (tended : Tended c) (step : Step c move next) (mediated : move.direct = false) : Tended next := by
  have advance := step_advance step
  have changes := advance_changes advance
  obtain ⟨stage, staged⟩ := tended.staged
  obtain ⟨later, after, _⟩ := advance_proceeds staged advance mediated
  exact ⟨Registry.changes_coherent tended.coherent changes,
    Registry.changes_accounted tended.coherent tended.accounted changes, later, after⟩

theorem runs_tended (tended : Tended b) (path : Runs b later c) (mediated : Mediated later) : Tended c := by
  refine path.keeps Tended tended fun moment member next step before => ?_
  exact step_tended before step (mediated _ (List.mem_map_of_mem member))

theorem Moment.health_of_forcedDown {moment : Moment χ}
    (kept : moment.errand? ≠ some (.command (.event (.forceUp host)))) : moment.health host .forcedDown = .forcedDown := by
  by_contra other
  obtain ⟨event, taken, named, turns⟩ := Moment.turns_health other
  generalize moment.health host .forcedDown = after at turns other
  cases turns with
  | up free => exact free rfl
  | down free => exact free rfl
  | forceDown => exact other rfl
  | forceUp => exact kept (named ▸ taken)

theorem step_holds (tended : Tended c) (step : Step c move next) (mediated : move.direct = false)
    (found : c.registry.find? host = some (peer, node)) (down : node.health = .forcedDown)
    (held : Moment.errand? ⟨c, move⟩ ≠ some (.command (.event (.forceUp host))) ∧
      Moment.errand? ⟨c, move⟩ ≠ some (.command (.event (.removed host)))) :
    ∃ after, next.registry.find? host = some (peer, after) ∧ after.health = .forcedDown := by
  obtain ⟨stage, staged⟩ := tended.staged
  rcases step_known tended.coherent staged step mediated found with ⟨after, now, health⟩ | ⟨dropped, _⟩
  · rw [down, Moment.health_of_forcedDown held.1] at health
    exact ⟨after, now, health⟩
  · exact absurd dropped held.2

theorem runs_hold (tended : Tended b) (path : Runs b later c) (mediated : Mediated later)
    (found : b.registry.find? host = some (peer, node)) (down : node.health = .forcedDown)
    (held : ∀ moment ∈ later, moment.errand? ≠ some (.command (.event (.forceUp host))) ∧
      moment.errand? ≠ some (.command (.event (.removed host)))) :
    ∃ after, c.registry.find? host = some (peer, after) ∧ after.health = .forcedDown := by
  induction path with
  | nil => exact ⟨node, found, down⟩
  | step path step ih =>
    obtain ⟨earlier, last⟩ := mediated.append
    obtain ⟨after, now, still⟩ := ih earlier fun moment member => held moment (List.mem_append_left _ member)
    have move := held _ (List.mem_append_right _ List.mem_cons_self)
    exact step_holds (runs_tended tended path earlier) step (last _ List.mem_cons_self) now still move

theorem runs_confirm (tended : Tended b) (path : Runs b later c) (mediated : Mediated later)
    (live : b.registry.node? peer = some node) (confirmed : node.health ≠ .unknown) :
    ∃ after, c.registry.node? peer = some after ∧ after.health ≠ .unknown := by
  induction path with
  | nil => exact ⟨node, live, confirmed⟩
  | step path step ih =>
    obtain ⟨earlier, last⟩ := mediated.append
    obtain ⟨before, shown, known⟩ := ih earlier
    have whole := runs_tended tended path earlier
    obtain ⟨stage, staged⟩ := whole.staged
    obtain ⟨after, now⟩ := Registry.changes_keep_record (advance_changes (step_advance step)) shown
    refine ⟨after, now, ?_⟩
    by_cases same : after.health = before.health
    · rw [same]
      exact known
    · obtain ⟨event, _, _, turns⟩ :=
        step_turns whole.coherent whole.accounted staged step (last _ List.mem_cons_self) shown now same
      exact turns.confirms

-- A host that is known in another membership was dropped and entered again meanwhile.
theorem runs_return (tended : Tended b) (path : Runs b later c) (mediated : Mediated later) {again : Peer}
    (known : b.registry.peer? host = some peer) (returned : c.registry.peer? host = some again)
    (other : again ≠ peer) :
    ∃ before removal between arrival after entered, later = before ++ removal :: (between ++ arrival :: after) ∧
      removal.errand? = some (.command (.event (.removed host))) ∧
      arrival.before.registry.find? host = none ∧ Step arrival.before arrival.move entered ∧
      (entered.registry.find? host).isSome := by
  obtain ⟨before, removal, rest, gone, rfl, first, stands, drops, left, second⟩ :=
    path.crossing (fun middle => middle.registry.peer? host = some peer) known (by simp [returned, other])
  obtain ⟨earlier, onward⟩ := mediated.append
  have mediates : removal.move.direct = false := onward _ List.mem_cons_self
  have whole := runs_tended tended first earlier
  obtain ⟨stage, staged⟩ := whole.staged
  obtain ⟨node, found⟩ := whole.coherent.find?_of_peer? stands
  rcases step_known whole.coherent staged drops mediates found with ⟨after, now, _⟩ | ⟨dropped, none, _⟩
  · exact absurd (Registry.peer?_of_find? now) left
  · have valid : c.registry.Coherent := (runs_tended tended path mediated).coherent
    obtain ⟨back, shown⟩ := valid.find?_of_peer? returned
    obtain ⟨between, arrival, after, entered, rfl, _, unknown, enters, comes, _⟩ :=
      second.crossing (fun middle => middle.registry.find? host = .none) none (by simp [shown])
    exact ⟨before, removal, between, arrival, after, entered, rfl, dropped, unknown, enters,
      Option.isSome_iff_ne_none.mpr comes⟩

-- A plan comes to the host by its record, whenever the plan was made.
theorem plan_passes_forced_down {made : Coordinator χ} {rest : List (Moment χ)} {held : Node} (valid : made.registry.Coherent)
    (onward : Runs made rest c) (now : c.registry.find? host = some (peer, held)) (down : held.health = .forcedDown)
    {plan : QueryPlan φ} (stems : plan.Stems made.registry) (judge : Judge φ σ) (state : σ) {pulled : Peer}
    (yields : (plan.pull judge c.registry state).1 = .node pulled) : pulled.host ≠ host := by
  intro same
  obtain ⟨_, stands⟩ := stems.follows valid (runs_changes onward) yields
  obtain ⟨_, eligible⟩ := stems.yields yields
  rw [same, Registry.peer?_of_find? now] at stands
  cases stands
  obtain ⟨shown, live, _, free, _⟩ := Registry.isEligible_iff.mp eligible
  cases live.symm.trans (Registry.find?_eq_some.mp now).2
  rw [down] at free
  simp at free

end Tending

-- A node that is forced down stays so whatever else is reported of it or of others, and no plan of any age yields
-- it, until the operator forces it up or it is removed. That is the only way to unknown health, too.
theorem forced_down_until_lifted (rule : DistanceRule) (configured : Option String) (listeners : List (Listener χ))
    (writes : List Registry.Write) {earlier later : List (Moment χ)} {b c : Coordinator χ} (host : HostId)
    (reached : Runs { fresh rule configured listeners with registry := Registry.empty.run writes } earlier b)
    (path : Runs b later c) (mediated : Mediated (earlier ++ later)) :
    (∀ next peer node, Step b .own next → Moment.errand? ⟨b, .own⟩ = some (.command (.event (.forceDown host))) →
      b.registry.find? host = some (peer, node) →
      ∃ held, next.registry.find? host = some (peer, held) ∧ held.health = .forcedDown) ∧
    (∀ peer node, b.registry.find? host = some (peer, node) → node.health = .forcedDown →
      (∀ moment ∈ later, moment.errand? ≠ some (.command (.event (.forceUp host))) ∧
        moment.errand? ≠ some (.command (.event (.removed host)))) →
      ∃ held, c.registry.find? host = some (peer, held) ∧ held.health = .forcedDown ∧
        (∀ next, Step c .own next →
          (Moment.errand? ⟨c, .own⟩ = some (.command (.event (.forceUp host))) →
            ∃ freed, next.registry.find? host = some (peer, freed) ∧ freed.health = .up) ∧
          (Moment.errand? ⟨c, .own⟩ = some (.command (.event (.removed host))) → next.registry.find? host = none)) ∧
        ∀ first made rest,
          Runs { fresh rule configured listeners with registry := Registry.empty.run writes } first made →
          Runs made rest c → ∀ plan : QueryPlan φ, plan.Stems made.registry →
          ∀ (judge : Judge φ σ) state pulled, (plan.pull judge c.registry state).1 = .node pulled → pulled.host ≠ host) ∧
    (∀ move next, Step c move next → move.direct = false → ∀ peer node turned,
      c.registry.node? peer = some node → next.registry.node? peer = some turned → turned.health ≠ node.health →
      ∃ event, Moment.errand? ⟨c, move⟩ = some (.command (.event event)) ∧ event.host = node.descriptor.host ∧
        event.Turns node.health turned.health) ∧
    (∀ peer node after, b.registry.node? peer = some node → node.health ≠ .unknown →
      c.registry.node? peer = some after → after.health ≠ .unknown) ∧
    ∀ peer node again back, b.registry.find? host = some (peer, node) → node.health ≠ .unknown →
      c.registry.find? host = some (again, back) → back.health = .unknown →
      ∃ before removal between arrival after entered, later = before ++ removal :: (between ++ arrival :: after) ∧
        removal.errand? = some (.command (.event (.removed host))) ∧
        arrival.before.registry.find? host = none ∧ Step arrival.before arrival.move entered ∧
        (entered.registry.find? host).isSome := by
  obtain ⟨before, after⟩ := mediated.append
  have start := fresh_tended rule configured listeners writes
  have tended := runs_tended start reached before
  have later_tended := runs_tended tended path after
  refine ⟨?_, ?_, ?_, ?_, ?_⟩
  · intro next peer node step taken found
    obtain ⟨stage, staged⟩ := tended.staged
    exact step_event tended.coherent staged step rfl found taken rfl (by simp)
  · intro peer node found down held
    obtain ⟨last, now, still⟩ := runs_hold tended path after found down held
    obtain ⟨stage, staged⟩ := later_tended.staged
    refine ⟨last, now, still, ?_, ?_⟩
    · intro next step
      refine ⟨?_, step_drops later_tended.coherent staged step rfl⟩
      intro taken
      obtain ⟨freed, there, health⟩ :=
        step_event later_tended.coherent staged step rfl now taken rfl (by simp)
      rw [still] at health
      exact ⟨freed, there, health⟩
    · intro first made rest begun onward plan stems judge state pulled yields
      have valid : made.registry.Coherent := runs_coherent start.coherent begun
      exact plan_passes_forced_down valid onward now still stems judge state yields
  · intro move next step mediates peer node turned live shown other
    obtain ⟨stage, staged⟩ := later_tended.staged
    exact step_turns later_tended.coherent later_tended.accounted staged step mediates live shown other
  · intro peer node shown live confirmed now
    obtain ⟨last, found, known⟩ := runs_confirm tended path after live confirmed
    cases found.symm.trans now
    exact known
  · intro peer node again back found confirmed returned unknown
    apply runs_return tended path after (Registry.peer?_of_find? found) (Registry.peer?_of_find? returned)
    rintro rfl
    -- it would be the same record, which cannot be unknown again
    obtain ⟨last, live, known⟩ := runs_confirm tended path after (Registry.find?_eq_some.mp found).2 confirmed
    cases live.symm.trans (Registry.find?_eq_some.mp returned).2
    exact known unknown

-- It is reported to be up, and then to have moved to another datacenter.
theorem moved_node_stays_forced_down :
    let idle : Coordinator Unit := fresh ⟨true, false⟩ (some "dc1") []
    let node (datacenter : String) : Descriptor := ⟨⟨1⟩, .v4 ⟨10, 0, 0, 1⟩ 9042, some datacenter, none⟩
    ∃ (earlier later : List (Moment Unit)) (b c : Coordinator Unit) (held : Node),
      Runs { idle with registry := Registry.empty.run [] } earlier b ∧ Runs b later c ∧ Mediated (earlier ++ later) ∧
      later.filterMap Moment.errand? = [.command (.event (.up ⟨1⟩)), .command (.event (.added (node "dc2")))] ∧
      c.registry.find? ⟨1⟩ = some (⟨⟨1⟩, 0⟩, held) ∧ held.health = .forcedDown ∧ held.distance = .remote ∧
      ∀ plan : QueryPlan Unit, plan.Stems b.registry → ∀ (judge : Judge Unit Unit) state pulled,
        (plan.pull judge c.registry state).1 = .node pulled → pulled.host ≠ ⟨1⟩ := by
  intro idle node
  let opening : List (Move Unit) := .call (.start [node "dc1"] []) :: List.replicate 6 .own ++
    [.call (.submit (.event (.forceDown ⟨1⟩))), .own]
  let rest : List (Move Unit) :=
    [.own, .own, .call (.submit (.event (.up ⟨1⟩))), .own, .own, .call (.submit (.event (.added (node "dc2")))), .own]
  have shown : ((idle.play opening).bind fun first => (first.2.play rest).map fun second =>
      ((first.2.registry.find? ⟨1⟩).map fun known => (known.1, known.2.health),
        second.1.filterMap Moment.errand?, (second.2.registry.status ⟨1⟩).map Node.distance)) =
      some (some (⟨⟨1⟩, 0⟩, .forcedDown),
        [.command (.event (.up ⟨1⟩)), .command (.event (.added (node "dc2")))], some .remote) := by
    decide +kernel
  obtain ⟨⟨earlier, b⟩, opened, continued⟩ := Option.bind_eq_some_iff.mp shown
  obtain ⟨⟨later, c⟩, ended, facts⟩ := Option.map_eq_some_iff.mp continued
  obtain ⟨before, calls⟩ := play_exact.mp opened
  obtain ⟨after, others⟩ := play_exact.mp ended
  simp only [Prod.mk.injEq] at facts
  obtain ⟨forced, errands, distance⟩ := facts
  obtain ⟨⟨peer, first⟩, found, same⟩ := Option.map_eq_some_iff.mp forced
  obtain ⟨rfl, down⟩ := Prod.mk.inj same
  have mediated : Mediated (earlier ++ later) := by
    rw [Mediated, List.map_append, calls, others]
    decide
  have untouched : ∀ moment ∈ later, moment.errand? ≠ some (.command (.event (.forceUp ⟨1⟩))) ∧
      moment.errand? ≠ some (.command (.event (.removed ⟨1⟩))) := by
    intro moment member
    have listed : ∀ e, moment.errand? = some e → e ∈ later.filterMap Moment.errand? := fun e taken =>
      List.mem_filterMap.mpr ⟨moment, member, taken⟩
    rw [errands] at listed
    constructor <;> intro taken <;> simpa using listed _ taken
  obtain ⟨held, now, still, _, plans⟩ :=
    (@forced_down_until_lifted _ Unit Unit ⟨true, false⟩ (some "dc1") [] [] _ _ _ _ ⟨1⟩ before after mediated).2.1
      ⟨⟨1⟩, 0⟩ first found down untouched
  refine ⟨earlier, later, b, c, held, before, after, mediated, errands, now, still, ?_, ?_⟩
  · rw [Registry.status_of_found now] at distance
    exact Option.some.inj distance
  · intro plan stems judge state pulled yields
    exact plans _ b later before after plan stems judge state pulled yields

end Coordinator
end ClusterRouting
