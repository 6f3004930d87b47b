import ClusterRouting.Proofs.Coordinator.Overrides

namespace ClusterRouting

namespace Errand

-- The errands that can give a known node another distance, and which one.
inductive Places (node : Node) : Errand → Distance → Prop where
  | initial {d distance} (moved : d.datacenter ≠ node.descriptor.datacenter) : Places node (.initial d) distance
  | added {d distance} (moved : d.datacenter ≠ node.descriptor.datacenter) :
      Places node (.command (.event (.added d))) distance
  | reevaluated {host distance} : Places node (.command (.event (.reevaluate host))) distance
  | reported {host distance} : Places node (.command (.report host distance)) distance

variable {choose : Descriptor → Except Fault Distance} {e : Errand} {node after : Node}

theorem becomes_places (becomes : e.becomes choose (some node) = some after)
    (other : after.distance ≠ node.distance) : e.Places node after.distance := by
  have moved : ∀ d : Descriptor, d.becomes choose (some node) = some after →
      d.datacenter ≠ node.descriptor.datacenter := by
    intro d becomes same
    simp only [Descriptor.becomes, same, if_true] at becomes
    cases becomes
    exact other rfl
  cases e with
  | initial d => exact .initial (moved d becomes)
  | command command =>
    cases command with
    | report host distance =>
      cases becomes
      exact .reported
    | event event =>
      cases event with
      | added d => exact .added (moved d becomes)
      | reevaluate host => exact .reevaluated
      | removed host => cases becomes
      | _ =>
        cases becomes
        exact absurd rfl other

end Errand

namespace Coordinator
variable {χ : Type}

-- The errand that a move is about: one that is taken up, or the one for whose sake the evaluator answers.
def Moment.pursued? (moment : Moment χ) : Option Errand :=
  match moment.move, moment.before.stack with
  | .call made, .work (.evaluating _ purpose d) :: _ => made.verdict?.map fun _ => purpose.errand d
  | _, _ => moment.errand?

section Pursuing
variable {c next : Coordinator χ} {move : Move χ} {stage : Stage χ}

theorem Moment.pursued?_own (c : Coordinator χ) : Moment.pursued? ⟨c, .own⟩ = Moment.errand? ⟨c, .own⟩ := rfl

theorem Moment.pursued?_answer {made : Call χ} {verdict : Except Fault (Option Distance)} {datacenter : String}
    {purpose : Purpose} {d : Descriptor} {rest : List (Frame (Listener χ) Notice Job)}
    (given : made.verdict? = some verdict) (top : c.stack = .work (.evaluating datacenter purpose d) :: rest) :
    Moment.pursued? ⟨c, .call made⟩ = some (purpose.errand d) := by
  simp [Moment.pursued?, top, given]

theorem TakenUp.changes {inner : Coordinator χ} {datacenter : String} {e : Errand}
    (takenUp : TakenUp inner datacenter e next) :
    next.registry = inner.registry ∨ ∃ choose, next.registry = inner.registry.after (inner.registry.perform choose e) := by
  cases takenUp with
  | asks => exact .inl rfl
  | concludes => exact .inr ⟨_, conclude_registry _ _ _⟩

theorem step_pursues (valid : c.registry.Coherent) (staged : Staged c stage) (step : Step c move next)
    (mediated : move.direct = false) :
    next.registry = c.registry ∨
      ∃ e choose, Moment.pursued? ⟨c, move⟩ = some e ∧ next.registry = c.registry.after (c.registry.perform choose e) := by
  cases step_advance step with
  | @records datacenter d left rest top =>
    let opened : Coordinator χ := { c with stack := .work (.populating datacenter left) :: rest }
    rcases (takeUp_exact opened datacenter (.initial d)).changes with same | ⟨choose, done⟩
    · exact .inl same
    · exact .inr ⟨.initial d, choose, by simp [Moment.pursued?_own, Moment.errand?, top], done⟩
  | @applies command later rest datacenter top waiting ready located =>
    rcases (takeUp_exact { c with queue := later } datacenter (.command command)).changes with same | ⟨choose, done⟩
    · exact .inl same
    · refine .inr ⟨.command command, choose, ?_, done⟩
      simp [Moment.pursued?_own, Moment.errand?, top, waiting, ready, located]
  | @answers made verdict datacenter purpose d rest _ given top answered =>
    have concluded := congrArg registry (evaluated_concludes answered top (staged.knows_asked valid top))
    exact .inr ⟨purpose.errand d, _, Moment.pursued?_answer given top, concluded.trans (conclude_registry _ _ _)⟩
  | writes direct => cases direct.symm.trans mediated
  | _ => exact .inl rfl

theorem step_places (tended : Tended c) (step : Step c move next) (mediated : move.direct = false) {host : HostId}
    {peer again : Peer} {node after : Node} (found : c.registry.find? host = some (peer, node))
    (now : next.registry.find? host = some (again, after)) (other : after.distance ≠ node.distance) :
    again = peer ∧ ∃ e, Moment.pursued? ⟨c, move⟩ = some e ∧ e.host = host ∧ e.Places node after.distance := by
  obtain ⟨stage, staged⟩ := tended.staged
  rcases step_pursues tended.coherent staged step mediated with same | ⟨e, choose, pursued, done⟩
  · rw [same, found] at now
    cases now
    exact absurd rfl other
  · rw [done] at now
    have status := Registry.status_of_found now
    have kept := Registry.perform_keeps_peer tended.coherent found choose e status
    cases now.symm.trans kept
    rw [Registry.status_perform tended.coherent, Registry.status_of_found found] at status
    by_cases about : host = e.host
    · rw [if_pos about] at status
      exact ⟨rfl, e, pursued, about.symm, Errand.becomes_places status other⟩
    · rw [if_neg about] at status
      cases status
      exact absurd rfl other

end Pursuing

-- A known node leaves its distance, and so an ignored one counts again, when it is evaluated again, when it turns up in
-- another datacenter, or when somebody reports the new distance. Nothing else that is said of anybody changes it.
theorem distance_left_on_decision (rule : DistanceRule) (configured : Option String) (listeners : List (Listener χ))
    (writes : List Registry.Write) {moments : List (Moment χ)} {c next : Coordinator χ} {move : Move χ}
    (path : Runs { fresh rule configured listeners with registry := Registry.empty.run writes } moments c)
    (mediated : Mediated moments) (step : Step c move next) (mediates : move.direct = false)
    {host : HostId} {peer again : Peer} {node after : Node}
    (found : c.registry.find? host = some (peer, node)) (now : next.registry.find? host = some (again, after))
    (left : after.distance ≠ node.distance) :
    again = peer ∧
      (Moment.pursued? ⟨c, move⟩ = some (.command (.event (.reevaluate host))) ∨
        (∃ d, d.host = host ∧ d.datacenter ≠ node.descriptor.datacenter ∧
          (Moment.pursued? ⟨c, move⟩ = some (.command (.event (.added d))) ∨
            Moment.pursued? ⟨c, move⟩ = some (.initial d))) ∨
        Moment.pursued? ⟨c, move⟩ = some (.command (.report host after.distance))) := by
  have tended := runs_tended (fresh_tended rule configured listeners writes) path mediated
  obtain ⟨same, e, pursued, about, places⟩ := step_places tended step mediates found now left
  subst about
  refine ⟨same, ?_⟩
  generalize after.distance = distance at places ⊢
  cases places with
  | initial moved => exact .inr (.inl ⟨_, rfl, moved, .inr pursued⟩)
  | added moved => exact .inr (.inl ⟨_, rfl, moved, .inl pursued⟩)
  | reevaluated => exact .inl pursued
  | reported => exact .inr (.inr pursued)

-- The node has moved to the home datacenter.
theorem ignored_node_left_on_move :
    let idle : Coordinator Unit := fresh ⟨false, false⟩ (some "dc1") []
    ∃ (moments : List (Moment Unit)) (c next : Coordinator Unit) (before after : Node),
      Runs { idle with registry := Registry.empty.run [] } moments c ∧ Mediated moments ∧ Step c .own next ∧
      c.registry.find? ⟨1⟩ = some (⟨⟨1⟩, 0⟩, before) ∧ before.distance = .ignored ∧
      next.registry.find? ⟨1⟩ = some (⟨⟨1⟩, 0⟩, after) ∧ after.distance = .home ∧
      ∃ d, d.host = ⟨1⟩ ∧ d.datacenter ≠ before.descriptor.datacenter ∧
        Moment.pursued? ⟨c, .own⟩ = some (.command (.event (.added d))) := by
  intro idle
  let node (datacenter : String) : Descriptor := ⟨⟨1⟩, .v4 ⟨10, 0, 0, 1⟩ 9042, some datacenter, none⟩
  let moves : List (Move Unit) := .call (.start [node "dc2"] []) :: List.replicate 6 .own ++
    [.call (.submit (.event (.added (node "dc1"))))]
  have shown : ((idle.play moves).bind fun played => played.2.step?.bind fun next =>
      (played.2.registry.find? ⟨1⟩).bind fun known => (next.registry.find? ⟨1⟩).map fun again =>
        ((known.1, known.2.distance), (again.1, again.2.distance), Moment.pursued? ⟨played.2, .own⟩)) =
      some ((⟨⟨1⟩, 0⟩, .ignored), (⟨⟨1⟩, 0⟩, .home), some (.command (.event (.added (node "dc1"))))) := by
    decide +kernel
  obtain ⟨⟨moments, c⟩, played, continued⟩ := Option.bind_eq_some_iff.mp shown
  obtain ⟨next, moved, continued⟩ := Option.bind_eq_some_iff.mp continued
  obtain ⟨⟨peer, before⟩, found, continued⟩ := Option.bind_eq_some_iff.mp continued
  obtain ⟨⟨again, after⟩, now, facts⟩ := Option.map_eq_some_iff.mp continued
  obtain ⟨path, calls⟩ := play_exact.mp played
  simp only [Prod.mk.injEq] at facts
  obtain ⟨⟨rfl, ignored⟩, ⟨rfl, home⟩, pursued⟩ := facts
  have mediated : Mediated moments := by
    rw [Mediated, calls]
    decide
  refine ⟨moments, c, next, before, after, path, mediated, .own moved, found, ignored, now, home, ?_⟩
  obtain ⟨_, again | ⟨d, about, other, added | first⟩ | reported⟩ :=
    distance_left_on_decision ⟨false, false⟩ (some "dc1") [] [] path mediated (.own moved) rfl found now
      (by simp [ignored, home])
  · rw [pursued] at again
    cases again
  · exact ⟨d, about, other, added⟩
  · rw [pursued] at first
    cases first
  · rw [pursued] at reported
    cases reported

-- A report alone is enough: the datacenter is still another one, and nobody has asked for a new decision.
theorem ignored_node_left_on_report :
    ¬ ∀ (moments : List (Moment Unit)) (c next : Coordinator Unit) (move : Move Unit) (host : HostId) (peer again : Peer)
        (node after : Node) (command : Command),
      Runs (fresh ⟨false, false⟩ (some "dc1") []) moments c → Mediated moments → Step c move next →
      move.direct = false → Moment.pursued? ⟨c, move⟩ = some (.command command) →
      c.registry.find? host = some (peer, node) → node.distance = .ignored →
      next.registry.find? host = some (again, after) → after.distance = .home ∨ after.distance = .remote →
      command = .event (.reevaluate host) ∨
        ∃ d, d.host = host ∧ d.datacenter ≠ node.descriptor.datacenter ∧ command = .event (.added d) := by
  intro holds
  let idle : Coordinator Unit := fresh ⟨false, false⟩ (some "dc1") []
  let node : Descriptor := ⟨⟨1⟩, .v4 ⟨10, 0, 0, 1⟩ 9042, some "dc2", none⟩
  let moves : List (Move Unit) :=
    .call (.start [node] []) :: List.replicate 6 .own ++ [.call (.submit (.report ⟨1⟩ .home))]
  have shown : ((idle.play moves).bind fun played => played.2.step?.bind fun next =>
      (played.2.registry.find? ⟨1⟩).bind fun known => (next.registry.find? ⟨1⟩).map fun again =>
        (known.2.distance, again.2.distance, Moment.pursued? ⟨played.2, .own⟩)) =
      some (.ignored, .home, some (.command (.report ⟨1⟩ .home))) := by
    decide +kernel
  obtain ⟨⟨moments, c⟩, played, continued⟩ := Option.bind_eq_some_iff.mp shown
  obtain ⟨next, moved, continued⟩ := Option.bind_eq_some_iff.mp continued
  obtain ⟨⟨peer, before⟩, found, continued⟩ := Option.bind_eq_some_iff.mp continued
  obtain ⟨⟨again, after⟩, now, facts⟩ := Option.map_eq_some_iff.mp continued
  obtain ⟨path, calls⟩ := play_exact.mp played
  simp only [Prod.mk.injEq] at facts
  obtain ⟨ignored, home, pursued⟩ := facts
  have mediated : Mediated moments := by
    rw [Mediated, calls]
    decide
  rcases holds _ _ _ _ _ _ _ _ _ _ path mediated (.own moved) rfl pursued found ignored now (.inl home) with
    asked | ⟨d, _, _, added⟩
  · cases asked
  · cases added

end Coordinator
end ClusterRouting
