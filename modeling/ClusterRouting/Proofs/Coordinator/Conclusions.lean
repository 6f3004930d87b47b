import ClusterRouting.Proofs.Coordinator.Errands
import ClusterRouting.Proofs.Coordinator.Stages

namespace ClusterRouting.Coordinator
variable {χ : Type}

def conclude (c : Coordinator χ) (e : Errand) : Except Fault (Digest × Registry) → Coordinator χ
  | .ok (digest, registry) =>
    { c with registry, log := c.log ++ digest.records, stack := told c.listeners digest.notice ++ c.stack }
  | .error fault => c.note (e.failure fault)

def takeUp (c : Coordinator χ) (datacenter : String) : Errand → Coordinator χ
  | .initial d => c.consider datacenter .initial d
  | .command command => c.apply datacenter command

section Concluding
variable (c : Coordinator χ)

theorem conclude_silent (e : Errand) : c.conclude e (.ok (.silent, c.registry)) = c := by
  simp [conclude, Digest.silent, told]

theorem conclude_logged (e : Errand) (record : LogRecord) :
    c.conclude e (.ok (.logged record, c.registry)) = c.note record := by
  simp [conclude, Digest.logged, told, note]

theorem adopt_concludes {purpose : Purpose} (fresh : ∀ peer, purpose ≠ .again peer) (d : Descriptor)
    (decided : Except Fault Distance) :
    c.adopt purpose d decided = c.conclude (purpose.errand d) (c.registry.recorded d decided) := by
  unfold adopt Registry.recorded
  split
  · rename_i outcome registry done
    rw [done]
    cases outcome with
    | created peer distance =>
      simp [Except.map, conclude, Registry.Upsert.logged, Registry.Upsert.digest, announce, note, noteAll, begin, publish,
        told, Notice.sequel]
    | relocated peer previous current =>
      by_cases same : previous = current
      · simp [Except.map, conclude, Registry.Upsert.logged, Registry.Upsert.digest, announce, noteAll, told, same]
      · simp [Except.map, conclude, Registry.Upsert.logged, Registry.Upsert.digest, announce, noteAll, publish, told,
          Notice.sequel, same]
    | updated peer =>
      simp [Except.map, conclude, Registry.Upsert.logged, Registry.Upsert.digest, announce, noteAll, told, Digest.logged]
    | unchanged peer =>
      simp [Except.map, conclude, Registry.Upsert.logged, Registry.Upsert.digest, announce, noteAll, told, Digest.silent]
  · rename_i fault done
    rw [done]
    have subject : purpose.subject d = d.host := by
      cases purpose with
      | again peer => exact absurd rfl (fresh peer)
      | _ => rfl
    simp only [Except.map, conclude, Purpose.failure_errand, subject]

theorem assign_concludes (e : Errand) (peer : Peer) (distance : Distance) :
    c.assign peer distance = c.conclude e (.ok (c.registry.assigned peer distance)) := by
  unfold assign Registry.assigned
  cases c.registry.setDistance peer.host distance with
  | error error => exact (conclude_logged c e _).symm
  | ok answer =>
    obtain ⟨previous, registry⟩ := answer
    by_cases same : previous = distance
    · simpa [same] using (conclude_silent c e).symm
    · simp only [same, if_false]
      rfl

theorem setHealth_concludes (e : Errand) (host : HostId) (health : Health) (forced : Bool) :
    c.setHealth host health forced = c.conclude e (.ok (c.registry.treated host health forced)) := by
  unfold setHealth Registry.treated
  cases found : c.registry.find? host with
  | none => exact (conclude_logged c e _).symm
  | some known =>
    obtain ⟨peer, node⟩ := known
    dsimp only
    split
    · exact (conclude_logged c e _).symm
    · simp only [Registry.setHealth, found]
      by_cases same : node.health = health
      · simp [conclude, same, Digest.silent, told]
      · simp only [same, if_false]
        rfl

theorem remove_concludes (datacenter : String) (host : HostId) :
    c.applyEvent datacenter (.removed host) = c.conclude (.command (.event (.removed host)))
      (c.registry.perform (fun d => .ok (c.rule.byDatacenter datacenter d)) (.command (.event (.removed host)))) := by
  simp only [applyEvent, Registry.perform]
  cases dropped : c.registry.remove host with
  | none => exact (conclude_logged c _ _).symm
  | some known => rfl

end Concluding

section TakingUp
variable (c : Coordinator χ) (datacenter : String)

-- Without an evaluator, or with nothing to choose, an errand is concluded at once.
inductive TakenUp (e : Errand) : Coordinator χ → Prop where
  | asks {purpose d} (evaluated : c.rule.evaluated = true) (asked : c.registry.question? e = some (purpose, d)) :
      TakenUp e (c.begin (.evaluating datacenter purpose d))
  | concludes (settled : c.rule.evaluated = true → c.registry.question? e = none) :
      TakenUp e (c.conclude e (c.registry.perform (fun d => .ok (c.rule.byDatacenter datacenter d)) e))

theorem consider_takenUp (purpose : Purpose) (fresh : ∀ peer, purpose ≠ .again peer) (d : Descriptor)
    (question : c.registry.question? (purpose.errand d) = if c.registry.needsDistance d then some (purpose, d) else none)
    (performed : ∀ choose, c.registry.perform choose (purpose.errand d) = c.registry.recorded d (choose d)) :
    TakenUp c datacenter (purpose.errand d) (c.consider datacenter purpose d) := by
  unfold consider
  split
  · rename_i asked
    exact .asks asked.1 (question.trans (if_pos asked.2))
  · rename_i settled
    rw [adopt_concludes c fresh d, ← performed fun d => .ok (c.rule.byDatacenter datacenter d)]
    refine .concludes fun evaluated => question.trans (if_neg ?_)
    exact fun needed => settled ⟨evaluated, needed⟩

theorem takeUp_exact (e : Errand) : TakenUp c datacenter e (c.takeUp datacenter e) := by
  -- what has no question to ask is concluded as it stands
  have done : ∀ {e : Errand} {next : Coordinator χ}, c.registry.question? e = none →
      next = c.conclude e (c.registry.perform (fun d => .ok (c.rule.byDatacenter datacenter d)) e) →
      TakenUp c datacenter e next := by
    rintro e _ settled rfl
    exact .concludes fun _ => settled
  cases e with
  | initial d => exact consider_takenUp c datacenter .initial (by simp) d rfl fun _ => rfl
  | command command =>
    cases command with
    | report host distance =>
      apply done rfl
      simp only [takeUp, apply, Registry.perform]
      cases known : c.registry.peer? host with
      | none => exact (conclude_logged c _ _).symm
      | some peer => exact assign_concludes c _ peer distance
    | event event =>
      cases event with
      | added d => exact consider_takenUp c datacenter .announced (by simp) d rfl fun _ => rfl
      | removed host => exact done rfl (remove_concludes c datacenter host)
      | up host => exact done rfl (setHealth_concludes c _ host _ _)
      | down host => exact done rfl (setHealth_concludes c _ host _ _)
      | forceDown host => exact done rfl (setHealth_concludes c _ host _ _)
      | forceUp host =>
        apply done rfl
        simp only [takeUp, apply, applyEvent, Registry.perform]
        cases found : c.registry.find? host with
        | none => exact (conclude_logged c _ _).symm
        | some known =>
          obtain ⟨peer, node⟩ := known
          dsimp only
          split
          · exact setHealth_concludes c _ host _ _
          · exact (conclude_logged c _ _).symm
      | reevaluate host =>
        cases found : c.registry.find? host with
        | none =>
          apply done
          · simp [Registry.question?, found]
          · simp only [takeUp, apply, applyEvent, Registry.perform, found]
            exact (conclude_logged c _ _).symm
        | some known =>
          obtain ⟨peer, node⟩ := known
          by_cases evaluated : c.rule.evaluated = true
          · have asks : c.takeUp datacenter (.command (.event (.reevaluate host))) =
                c.begin (.evaluating datacenter (.again peer) node.descriptor) := by
              simp [takeUp, apply, applyEvent, found, evaluated]
            rw [asks]
            exact .asks evaluated (by simp [Registry.question?, found])
          · have concluded : c.takeUp datacenter (.command (.event (.reevaluate host))) =
                c.conclude (.command (.event (.reevaluate host)))
                  (c.registry.perform (fun d => .ok (c.rule.byDatacenter datacenter d))
                    (.command (.event (.reevaluate host)))) := by
              simp only [takeUp, apply, applyEvent, found, evaluated, Registry.perform, Except.map]
              exact assign_concludes c _ peer _
            rw [concluded]
            exact .concludes fun asked => absurd asked evaluated

end TakingUp

theorem evaluated_settles {c next : Coordinator χ} {verdict : Except Fault (Option Distance)} {datacenter : String}
    {purpose : Purpose} {d : Descriptor} {rest : List (Frame (Listener χ) Notice Job)}
    (answered : c.evaluated? verdict = some next) (top : c.stack = .work (.evaluating datacenter purpose d) :: rest) :
    next = conclude { c with stack := rest } (purpose.errand d)
      (c.registry.settled purpose d (verdict.map (c.rule.decide datacenter d))) := by
  unfold evaluated? at answered
  rw [top] at answered
  dsimp only at answered
  cases purpose with
  | again peer =>
    cases verdict with
    | ok opinion =>
      cases answered
      exact assign_concludes { c with stack := rest } _ peer _
    | error fault =>
      cases answered
      rfl
  | initial =>
    cases answered
    exact adopt_concludes { c with stack := rest } (by simp) d _
  | announced =>
    cases answered
    exact adopt_concludes { c with stack := rest } (by simp) d _

theorem evaluated_concludes {c next : Coordinator χ} {verdict : Except Fault (Option Distance)} {datacenter : String}
    {purpose : Purpose} {d : Descriptor} {rest : List (Frame (Listener χ) Notice Job)}
    (answered : c.evaluated? verdict = some next) (top : c.stack = .work (.evaluating datacenter purpose d) :: rest)
    (aware : ∀ peer, purpose = .again peer → ∃ node, c.registry.find? peer.host = some (peer, node)) :
    next = conclude { c with stack := rest } (purpose.errand d)
      (c.registry.perform (fun _ => verdict.map (c.rule.decide datacenter d)) (purpose.errand d)) := by
  rw [← Registry.settled_eq_perform d _ aware]
  exact evaluated_settles answered top

theorem evaluated_of_verdict {c next : Coordinator χ} {made : Call χ} {verdict : Except Fault (Option Distance)}
    {datacenter : String} {purpose : Purpose} {d : Descriptor} {rest : List (Frame (Listener χ) Notice Job)}
    (given : made.verdict? = some verdict) (top : c.stack = .work (.evaluating datacenter purpose d) :: rest)
    (called : c.call? made = some next) : c.evaluated? verdict = some next := by
  cases made with
  | answer => exact Option.some.inj given ▸ called
  | throw fault =>
    have same : Except.error fault = verdict := Option.some.inj given
    rw [← same]
    simpa [call?, throw?, top] using called
  | _ => cases given

-- The errand that is taken up in a move. A command that is dropped is none.
def Moment.errand? (moment : Moment χ) : Option Errand :=
  match moment.move, moment.before.stack, moment.before.queue with
  | .own, .work (.populating _ (d :: _)) :: _, _ => some (.initial d)
  | .own, .work .draining :: _, command :: _ =>
    if moment.before.lifecycle = .ready ∧ moment.before.datacenter.isSome then some (.command command) else none
  | _, _, _ => none

inductive Carries (moment : Moment χ) (next : Coordinator χ) : Prop where
  | still (idle : moment.errand? = none) (same : next.registry = moment.before.registry)
  | asks {purpose : Purpose} {d} (taken : moment.errand? = some (purpose.errand d)) (same : next.registry = moment.before.registry)
  | takes {choose e} (taken : moment.errand? = some e)
      (done : next.registry = moment.before.registry.after (moment.before.registry.perform choose e))
  | answers {choose} {purpose : Purpose} {d} (idle : moment.errand? = none)
      (done : next.registry =
        moment.before.registry.after (moment.before.registry.perform choose (purpose.errand d)))

section Carrying
variable {c next : Coordinator χ} {move : Move χ} {stage : Stage χ}

theorem Staged.knows_asked (staged : Staged c stage) (valid : c.registry.Coherent) {datacenter : String}
    {purpose : Purpose} {d : Descriptor} {rest : List (Frame (Listener χ) Notice Job)}
    (top : c.stack = .work (.evaluating datacenter purpose d) :: rest) (peer : Peer) (again : purpose = .again peer) :
    ∃ node, c.registry.find? peer.host = some (peer, node) := by
  subst again
  obtain ⟨service, rfl, _⟩ := Stage.of_evaluating (staged.top top (afoot_work _))
  exact valid.find?_of_peer? staged.aware

theorem conclude_registry (c : Coordinator χ) (e : Errand) (result : Except Fault (Digest × Registry)) :
    (c.conclude e result).registry = c.registry.after result := by
  cases result <;> rfl

theorem TakenUp.carries {moment : Moment χ} {inner : Coordinator χ} {datacenter : String} {e : Errand}
    (taken : moment.errand? = some e) (takenUp : TakenUp inner datacenter e next)
    (same : inner.registry = moment.before.registry) : Carries moment next := by
  cases takenUp with
  | asks evaluated asked =>
    rw [← Registry.question?_errand asked] at taken
    exact .asks taken same
  | concludes =>
    have concluded := conclude_registry inner e
      (inner.registry.perform (fun d => .ok (inner.rule.byDatacenter datacenter d)) e)
    rw [same] at concluded ⊢
    exact .takes taken concluded

theorem step_carries (valid : c.registry.Coherent) (staged : Staged c stage) (step : Step c move next)
    (mediated : move.direct = false) : Carries ⟨c, move⟩ next := by
  cases step_advance step with
  | tells top => exact .still (by simp [Moment.errand?, top]) rfl
  | finishes top => exact .still (by simp [Moment.errand?, top]) rfl
  | observes top => exact .still (by simp [Moment.errand?, top]) rfl
  | assigns top => exact .still (by simp [Moment.errand?, top]) rfl
  | misses top => exact .still (by simp [Moment.errand?, top]) rfl
  | readies top => exact .still (by simp [Moment.errand?, top]) rfl
  | abandons top => exact .still (by simp [Moment.errand?, top]) rfl
  | drains top empty => exact .still (by simp [Moment.errand?, top, empty]) rfl
  | drops top waiting idle =>
    refine .still ?_ rfl
    rcases idle with other | nowhere
    · simp [Moment.errand?, top, waiting, other]
    · simp [Moment.errand?, top, waiting, nowhere]
  | @records datacenter d left rest top =>
    have taken : Moment.errand? ⟨c, .own⟩ = some (.initial d) := by simp [Moment.errand?, top]
    exact (takeUp_exact { c with stack := .work (.populating datacenter left) :: rest } datacenter (.initial d)).carries
      taken rfl
  | @applies command later _ datacenter top waiting ready located =>
    have taken : Moment.errand? ⟨c, .own⟩ = some (.command command) := by
      simp [Moment.errand?, top, waiting, ready, located]
    exact (takeUp_exact { c with queue := later } datacenter (.command command)).carries taken rfl
  | @answers _ verdict datacenter purpose d rest _ _ top answered =>
    have concluded := congrArg registry (evaluated_concludes answered top (staged.knows_asked valid top))
    exact .answers rfl (concluded.trans (conclude_registry _ _ _))
  | writes direct => cases direct.symm.trans mediated
  | _ => exact .still rfl rfl

end Carrying

end ClusterRouting.Coordinator
