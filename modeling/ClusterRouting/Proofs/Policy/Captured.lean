import ClusterRouting.Proofs.Policy.Exclusion
import ClusterRouting.Proofs.Registry.Records

namespace ClusterRouting

-- A plan that was made over a registry. It may have been consumed, at whatever registries and whoever judged,
-- and further filters may stand around it by now.
inductive QueryPlan.Stems {φ : Type} (r : Registry) : QueryPlan φ → Prop where
  | walk (offset : UInt64) (budget : Nat) (filters : List φ) : Stems r ⟨.ofTopology r.topology offset budget, filters⟩
  | nowhere (filters : List φ) : Stems r ⟨.nowhere, filters⟩
  | pulled {plan : QueryPlan φ} {σ : Type} (judge : Judge φ σ) (found : Registry) (state : σ) (stems : Stems r plan) :
      Stems r (plan.pull judge found state).2.1
  | filtered {plan : QueryPlan φ} (filter : φ) (stems : Stems r plan) : Stems r (plan.filtered filter)

theorem Policy.plan_stems {χ φ : Type} (p : Policy χ φ) (request : Request) :
    (p.plan request).1.Stems p.coordinator.registry := by
  unfold plan
  dsimp only
  split
  · exact .walk _ _ _
  · exact .nowhere _

namespace QueryPlan
variable {φ σ : Type} {r found : Registry} {plan : QueryPlan φ} {judge : Judge φ σ} {state : σ} {peer : Peer}

theorem Stems.drawn (stems : plan.Stems r) : ∃ budget yielded, plan.walk.Drawn r.topology budget yielded := by
  induction stems with
  | walk offset budget => exact ⟨budget, [], Walk.ofTopology_drawn _ offset budget⟩
  | nowhere => exact ⟨0, [], Walk.nowhere_drawn _ 0⟩
  | pulled judge found state _ ih =>
    obtain ⟨budget, yielded, drawn⟩ := ih
    exact ⟨budget, _, (pull_drawn judge found _ state drawn).1⟩
  | filtered _ _ ih => exact ih

theorem Stems.yields (stems : plan.Stems r) (yields : (plan.pull judge found state).1 = .node peer) :
    (peer ∈ r.topology.home ∨ peer ∈ r.topology.remote) ∧ found.isEligible peer = true := by
  obtain ⟨budget, yielded, drawn⟩ := stems.drawn
  obtain ⟨after, eligible⟩ := pull_drawn judge found plan state drawn
  obtain ⟨fromHome, fromRemote, all, home, remote, _⟩ := after.split
  refine ⟨?_, eligible peer yields⟩
  have listed : peer ∈ yielded ++ (Pulled.peer? (plan.pull judge found state).1).toList := by
    simp [yields, Pulled.peer?]
  rw [all] at listed
  rcases List.mem_append.mp listed with near | far
  · exact .inl (home near)
  · exact .inr (remote far)

theorem Stems.follows (valid : r.Coherent) (stems : plan.Stems r) (changes : Registry.Changes r found)
    (yields : (plan.pull judge found state).1 = .node peer) :
    r.peer? peer.host = some peer ∧ found.peer? peer.host = some peer := by
  obtain ⟨grouped, eligible⟩ := stems.yields yields
  have known : r.peer? peer.host = some peer := by
    rcases grouped with home | remote
    · exact Registry.peer?_of_entered
        (valid.partitioned.entry?_of_mem ((valid.partitioned.mem_group .home peer).mp home))
    · exact Registry.peer?_of_entered
        (valid.partitioned.entry?_of_mem ((valid.partitioned.mem_group .remote peer).mp remote))
  refine ⟨known, ?_⟩
  rcases Registry.changes_follow valid changes known with stands | ⟨gone, live, flagged⟩
  · exact stands
  · obtain ⟨node, shown, present, _⟩ := Registry.isEligible_iff.mp eligible
    cases live.symm.trans shown
    rw [flagged] at present
    cases present

end QueryPlan

namespace Coordinator
variable {χ φ σ : Type}

section Steps
variable {c next : Coordinator χ}

theorem assign_outcome (c : Coordinator χ) (peer : Peer) (distance : Distance) :
    ∃ notice, Outcome c.registry peer.host (c.assign peer distance).registry notice := by
  unfold assign
  split
  · exact ⟨_, .kept⟩
  · rename_i done
    split
    · exact ⟨_, .kept⟩
    · rename_i other
      obtain ⟨_, _, outcome⟩ := setDistance_outcome done other
      exact ⟨_, outcome⟩

theorem direct_outcome {call : Call χ} (direct : call.direct = true) (called : c.call? call = some next) :
    ∃ host notice, Outcome c.registry host next.registry notice := by
  cases call with
  | upsert d decided =>
    simp only [call?, upsert?] at called
    split at called
    · cases called
    · split at called
      · cases called
        exact ⟨d.host, _, .kept⟩
      · rename_i done
        cases called
        exact ⟨d.host, _, upsert_outcome done⟩
  | remove host =>
    simp only [call?, remove?] at called
    split at called
    · cases called
    · split at called
      · cases called
        exact ⟨host, _, .kept⟩
      · rename_i peer registry done
        cases called
        obtain ⟨found, known, dropped⟩ := Option.map_eq_some_iff.mp done
        cases dropped
        exact ⟨host, _, .dropped known⟩
  | place host distance =>
    simp only [call?, setDistance?] at called
    split at called
    · cases called
    · split at called
      · cases called
        exact ⟨host, _, .kept⟩
      · rename_i done
        split at called
        · cases called
          exact ⟨host, _, .kept⟩
        · rename_i other
          cases called
          obtain ⟨_, _, outcome⟩ := setDistance_outcome done other
          exact ⟨host, _, outcome⟩
  | treat host health =>
    simp only [call?, writeHealth, Registry.setHealth] at called
    cases known : c.registry.find? host with
    | none =>
      simp only [known] at called
      cases called
      exact ⟨host, _, .kept⟩
    | some found =>
      simp only [known] at called
      cases called
      exact ⟨host, _, .treated known⟩
  | _ => cases direct

theorem Applied.outcome {host : HostId} (applied : Applied c host next) :
    ∃ notice, Outcome c.registry host next.registry notice := by
  cases applied with
  | done results =>
    obtain ⟨registry, log, notice, rfl, outcome⟩ := results
    exact ⟨notice, outcome⟩
  | asked => exact ⟨_, .kept⟩

theorem step_outcome {move : Move χ} (step : Step c move next) :
    ∃ host notice, Outcome c.registry host next.registry notice := by
  cases step_advance step with
  | @records datacenter d left rest =>
    exact ⟨d.host, (initial_applied { c with stack := .work (.populating datacenter left) :: rest } datacenter d).outcome⟩
  | @applies command later _ datacenter =>
    exact ⟨command.host, (apply_applied { c with queue := later } datacenter command).outcome⟩
  | @answers _ _ _ purpose d rest _ _ top answered =>
    cases evaluated_answered answered top with
    | @assigned peer _ distance => exact ⟨peer.host, assign_outcome { c with stack := rest } peer distance⟩
    | failed => exact ⟨d.host, _, .kept⟩
    | adopted decided =>
      exact ⟨d.host, (Applied.done (adopt_results { c with stack := rest } purpose d decided)).outcome⟩
  | writes direct =>
    cases step with
    | call _ called => exact direct_outcome direct called
  | _ => exact ⟨⟨0⟩, _, .kept⟩

theorem runs_changes {start : Coordinator χ} {moments : List (Moment χ)} (path : Runs start moments c) :
    Registry.Changes start.registry c.registry := by
  induction path with
  | nil => exact .refl
  | step _ step ih => exact ih.trans (advance_changes (step_advance step))

-- A host that comes is not confirmed to be up or down, and takes a record of its own.
theorem step_enters {move : Move χ} (valid : c.registry.Coherent) (step : Step c move next) {host : HostId}
    {peer : Peer} {node : Node} (unknown : c.registry.find? host = none)
    (known : next.registry.find? host = some (peer, node)) :
    c.registry.node? peer = none ∧ node = .fresh node.descriptor node.distance := by
  obtain ⟨subject, notice, outcome⟩ := step_outcome step
  constructor
  · rcases Registry.changes_origin valid outcome.changes (Registry.peer?_of_find? known) with stands | new
    · obtain ⟨before, found⟩ := valid.find?_of_peer? stands
      cases unknown.symm.trans found
    · exact new
  · by_cases same : host = subject
    · subst same
      have shift := outcome.shift valid
      rw [unknown, known] at shift
      cases shift
      rfl
    · rw [outcome.others valid same, unknown] at known
      cases known

end Steps

theorem upsert_enters {r : Registry} (valid : r.Coherent) {d : Descriptor} {distance : Distance}
    {evaluate : Descriptor → Except Fault Distance} (unknown : r.find? d.host = none)
    (decided : evaluate d = .ok distance) :
    ∃ peer after, r.upsert d evaluate = .ok (.created peer distance, after) ∧ r.node? peer = none ∧
      after.find? d.host = some (peer, .fresh d distance) := by
  refine ⟨(r.enter d distance).1, (r.enter d distance).2, ?_, ?_, ?_⟩
  · simp [Registry.upsert, Registry.novelty, unknown, decided]
  · simp [Registry.enter, Registry.node?]
  · rw [Registry.find?_enter valid unknown, if_pos rfl]

-- A plan yields a host only as long as the membership that it was made with has not ended.
theorem ended_membership_stays_ended (rule : DistanceRule) (configured : Option String) (listeners : List (Listener χ))
    (writes : List Registry.Write) {earlier later : List (Moment χ)} {c next : Coordinator χ}
    (reached : Runs { fresh rule configured listeners with registry := Registry.empty.run writes } earlier c)
    (path : Runs c later next) :
    (∀ peer node, c.registry.node? peer = some node → node.removed = true → next.registry.node? peer = some node) ∧
    (∀ host peer, c.registry.peer? host = some peer → next.registry.peer? host ≠ some peer →
      ∃ node, next.registry.node? peer = some node ∧ node.removed = true) ∧
    (∀ host, c.registry.find? host = none →
      (∀ d evaluate distance, d.host = host → evaluate d = .ok distance →
        ∃ peer after, c.registry.upsert d evaluate = .ok (.created peer distance, after) ∧
          c.registry.node? peer = none ∧ after.find? host = some (peer, ⟨d, .unknown, distance, false⟩)) ∧
      (∀ move after, Step c move after → ∀ peer node, after.registry.find? host = some (peer, node) →
        c.registry.node? peer = none ∧ node.health = .unknown ∧ node.removed = false) ∧
      ∀ peer, next.registry.peer? host = some peer → c.registry.node? peer = none) ∧
    ∀ plan : QueryPlan φ, plan.Stems c.registry → ∀ (judge : Judge φ σ) (state : σ) (peer : Peer),
      (plan.pull judge next.registry state).1 = .node peer →
      c.registry.peer? peer.host = some peer ∧ next.registry.peer? peer.host = some peer ∧
        ∀ moment ∈ later, moment.before.registry.peer? peer.host = some peer := by
  have valid : c.registry.Coherent := runs_coherent (Registry.run_coherent Registry.empty_coherent writes) reached
  have changes := runs_changes path
  refine ⟨?_, ?_, ?_, ?_⟩
  · intro peer node live flagged
    exact Registry.changes_keep_retired valid changes live flagged
  · intro host peer known left
    rcases Registry.changes_follow valid changes known with stands | ended
    · exact absurd stands left
    · exact ended
  · intro host unknown
    refine ⟨?_, ?_, ?_⟩
    · rintro d evaluate distance rfl decided
      exact upsert_enters valid unknown decided
    · intro move after step peer node known
      obtain ⟨new, fresh⟩ := step_enters valid step unknown known
      rw [fresh]
      exact ⟨new, rfl, rfl⟩
    · intro peer known
      rcases Registry.changes_origin valid changes known with stands | new
      · obtain ⟨node, found⟩ := valid.find?_of_peer? stands
        cases unknown.symm.trans found
      · exact new
  · intro plan stems judge state peer yields
    obtain ⟨known, stands⟩ := stems.follows valid changes yields
    refine ⟨known, stands, ?_⟩
    intro moment member
    obtain ⟨before, after, rfl⟩ := List.append_of_mem member
    obtain ⟨middle, first, second⟩ := path.split
    obtain ⟨rfl, _⟩ := second.first
    -- had it ended by then, its record would still say so
    rcases Registry.changes_follow valid (runs_changes first) known with still | ⟨node, live, flagged⟩
    · exact still
    · have coherent : moment.before.registry.Coherent := runs_coherent valid first
      have shown := Registry.changes_keep_retired coherent (runs_changes second) live flagged
      obtain ⟨last, found⟩ := (runs_coherent valid path).find?_of_peer? stands
      cases shown.symm.trans (Registry.find?_eq_some.mp found).2
      rw [(runs_coherent valid path).present found] at flagged
      cases flagged

-- The host is dropped and comes back, and the plan that was made before has nobody left to yield.
theorem plan_misses_returned_host :
    let judge : Judge Unit Unit := fun _ _ state => (.accept, state)
    let idle : Coordinator Unit := fresh ⟨true, false⟩ (some "dc1") []
    ∃ (earlier later : List (Moment Unit)) (c next : Coordinator Unit) (plan : QueryPlan Unit),
      Runs { idle with registry := Registry.empty.run [] } earlier c ∧ Runs c later next ∧ plan.Stems c.registry ∧
      c.registry.peer? ⟨1⟩ = some ⟨⟨1⟩, 0⟩ ∧ next.registry.peer? ⟨1⟩ = some ⟨⟨1⟩, 1⟩ ∧
      next.registry.Retired ⟨⟨1⟩, 0⟩ ∧ ∀ peer, (plan.pull judge next.registry ()).1 = .node peer → peer.host ≠ ⟨1⟩ := by
  intro judge idle
  let node : Descriptor := ⟨⟨1⟩, .v4 ⟨10, 0, 0, 1⟩ 9042, some "dc1", none⟩
  let opening : List (Move Unit) := .call (.start [node] []) :: List.replicate 6 .own
  let rest : List (Move Unit) :=
    [.call (.submit (.event (.removed ⟨1⟩))), .own, .own, .own, .call (.submit (.event (.added node))), .own]
  have shown : ((idle.play opening).bind fun first => (first.2.play rest).map fun second =>
      (first.2.registry.peer? ⟨1⟩, second.2.registry.peer? ⟨1⟩)) = some (some ⟨⟨1⟩, 0⟩, some ⟨⟨1⟩, 1⟩) := rfl
  obtain ⟨⟨earlier, c⟩, opened, continued⟩ := Option.bind_eq_some_iff.mp shown
  obtain ⟨⟨later, next⟩, ended, facts⟩ := Option.map_eq_some_iff.mp continued
  obtain ⟨before, _⟩ := play_exact.mp opened
  obtain ⟨after, _⟩ := play_exact.mp ended
  simp only [Prod.mk.injEq] at facts
  obtain ⟨first, second⟩ := facts
  let plan : QueryPlan Unit := ⟨.ofTopology c.registry.topology 0 0, []⟩
  have stems : plan.Stems c.registry := .walk 0 0 []
  obtain ⟨_, ends, _, yields⟩ :=
    @ended_membership_stays_ended _ Unit Unit ⟨true, false⟩ (some "dc1") [] [] _ _ _ _ before after
  refine ⟨earlier, later, c, next, plan, before, after, stems, first, second, ?_, ?_⟩
  · apply ends ⟨1⟩ _ first
    rw [second]
    decide
  · intro peer pulled same
    obtain ⟨known, stands, _⟩ := yields plan stems judge () peer pulled
    rw [same, first] at known
    rw [same, second] at stands
    cases known.trans stands.symm

end Coordinator
end ClusterRouting
