import ClusterRouting.Policy
import ClusterRouting.Proofs.Coordinator.Advances
import ClusterRouting.Proofs.Plan.Consumption

namespace ClusterRouting

theorem Registry.isEligible_iff {r : Registry} {peer : Peer} :
    r.isEligible peer = true ↔ ∃ node, r.node? peer = some node ∧ node.removed = false ∧
      (node.health = .unknown ∨ node.health = .up) ∧ node.distance ≠ .ignored := by
  have alive : ∀ health : Health, health.isEligible = true ↔ health = .unknown ∨ health = .up := by
    intro health
    cases health <;> simp [Health.isEligible]
  simp [isEligible, Option.any_eq_true, Node.isEligible, alive, and_assoc]

namespace Walk

-- What a walk through a topology has yielded, and what may still come.
structure Drawn (t : Topology) (budget : Nat) (walk : Walk) (yielded : List Peer) : Prop where
  sound : walk.Sound
  homeAhead : walk.homePending ⊆ t.home
  remoteAhead : walk.remotePending ⊆ t.remote
  split : ∃ fromHome fromRemote, yielded = fromHome ++ fromRemote ∧ fromHome ⊆ t.home ∧ fromRemote ⊆ t.remote ∧
    fromRemote.length + walk.budget ≤ budget ∧ (fromRemote ≠ [] → walk.homePending = [])

section Drawn
variable {t : Topology} {budget : Nat} {walk after : Walk} {yielded examined : List Peer} {r : Registry}

theorem ofTopology_drawn (t : Topology) (offset : UInt64) (budget : Nat) :
    (ofTopology t offset budget).Drawn t budget [] := by
  refine ⟨ofTopology_sound t offset budget, rotated_subset _ _, rotated_subset _ _, [], [], rfl, ?_⟩
  simp [ofTopology]

theorem nowhere_drawn (t : Topology) (budget : Nat) : nowhere.Drawn t budget [] := by
  refine ⟨⟨Nat.le_refl _, Nat.le_refl _⟩, ?_, ?_, [], [], rfl, ?_⟩
  · simp [homePending, nowhere, rotated]
  · simp [remotePending, nowhere, rotated]
  · simp [nowhere]

theorem Advance.home_subset {answer : Option Peer} (advance : Advance walk r examined answer after) :
    after.homePending ⊆ walk.homePending := by
  cases advance with
  | home serves => exact serves.order ▸ List.subset_append_right _ _
  | spent serves => exact serves.order ▸ List.subset_append_right _ _
  | remote through => exact through.order ▸ List.subset_append_right _ _
  | through through => exact through.order ▸ List.subset_append_right _ _

theorem Advance.budget_le {answer : Option Peer} (advance : Advance walk r examined answer after) :
    after.budget ≤ walk.budget := by
  cases advance <;> omega

theorem Drawn.skip {answer : Option Peer} (drawn : walk.Drawn t budget yielded) (sound : after.Sound)
    (advance : Advance walk r examined answer after) : after.Drawn t budget yielded := by
  obtain ⟨fromHome, fromRemote, all, home, remote, paid, ordered⟩ := drawn.split
  refine ⟨sound, List.Subset.trans advance.home_subset drawn.homeAhead,
    List.Subset.trans advance.remote_subset drawn.remoteAhead,
    fromHome, fromRemote, all, home, remote, ?_, ?_⟩
  · have spent := advance.budget_le
    omega
  · intro some
    exact List.eq_nil_of_subset_nil (ordered some ▸ advance.home_subset)

theorem Drawn.take {peer : Peer} (drawn : walk.Drawn t budget yielded) (sound : after.Sound)
    (advance : Advance walk r examined (some peer) after) :
    r.isEligible peer = true ∧ after.Drawn t budget (yielded ++ [peer]) := by
  obtain ⟨fromHome, fromRemote, rfl, home, remote, paid, ordered⟩ := drawn.split
  have homeAhead := List.Subset.trans advance.home_subset drawn.homeAhead
  have remoteAhead := List.Subset.trans advance.remote_subset drawn.remoteAhead
  cases advance with
  | home serves _ kept =>
    have ahead : peer ∈ walk.homePending := by simp [serves.order]
    -- a home node is still ahead, so no remote node has come
    have none : fromRemote = [] := by
      by_contra some
      rw [ordered some] at ahead
      cases ahead
    subst none
    refine ⟨serves.passed peer rfl, sound, homeAhead, remoteAhead, fromHome ++ [peer], [], by simp, ?_, by simp, ?_,
      by simp⟩
    · exact List.append_subset.mpr ⟨home, by simpa using drawn.homeAhead ahead⟩
    · simpa [kept] using paid
  | remote through serves cost =>
    have ahead : peer ∈ walk.remotePending := by simp [serves.order]
    refine ⟨serves.passed peer rfl, sound, homeAhead, remoteAhead, fromHome, fromRemote ++ [peer], by simp, home, ?_,
      ?_, fun _ => through.through rfl⟩
    · exact List.append_subset.mpr ⟨remote, by simpa using drawn.remoteAhead ahead⟩
    · simp only [List.length_append, List.length_singleton]
      omega

end Drawn

end Walk
namespace QueryPlan
variable {φ σ : Type}

def Pulled.peer? : Pulled → Option Peer
  | .node peer => some peer
  | .exhausted | .fault _ => none

theorem pull_drawn {t : Topology} {budget : Nat} (judge : Judge φ σ) (r : Registry) (plan : QueryPlan φ) (state : σ)
    {yielded : List Peer} (drawn : plan.walk.Drawn t budget yielded) :
    (pull judge r plan state).2.1.walk.Drawn t budget
      (yielded ++ (Pulled.peer? (pull judge r plan state).1).toList) ∧
    ∀ peer, (pull judge r plan state).1 = .node peer → r.isEligible peer = true := by
  fun_induction pull judge r plan state with
  | case1 plan state after found =>
    obtain ⟨sound, advance⟩ := Walk.next_advance drawn.sound found
    exact ⟨by simpa [Pulled.peer?] using drawn.skip sound advance, by simp⟩
  | case2 plan state peer after found judged passed =>
    obtain ⟨sound, advance⟩ := Walk.next_advance drawn.sound found
    obtain ⟨eligible, taken⟩ := drawn.take sound advance
    refine ⟨taken, ?_⟩
    rintro _ ⟨⟩
    exact eligible
  | case3 plan state peer after found fault judged broken =>
    obtain ⟨sound, advance⟩ := Walk.next_advance drawn.sound found
    exact ⟨by simpa [Pulled.peer?] using drawn.skip sound advance, by simp⟩
  | case4 plan state peer after found judged refused ih =>
    obtain ⟨sound, advance⟩ := Walk.next_advance drawn.sound found
    exact ih (drawn.skip sound advance)

end QueryPlan

namespace Planner

theorem remoteBudget_le {planner : Planner} {limit : UInt64} (limited : planner.maxRemoteNodes = some limit)
    (request : Request) : planner.remoteBudget request ≤ limit.toNat := by
  unfold remoteBudget
  split
  · exact Nat.zero_le _
  · split
    · exact Nat.zero_le _
    · simp [limited]

theorem remoteBudget_of_forbidden {planner : Planner} {request : Request}
    (forbidden : planner.allowRemote = false ∨
      (request.isDatacenterLocal = true ∧ planner.remoteForLocalConsistency = false)) :
    planner.remoteBudget request = 0 := by
  unfold remoteBudget
  rcases forbidden with never | ⟨near, only⟩
  · simp [never]
  · simp [near, only]

end Planner

namespace Policy
variable {χ φ σ : Type}

-- What can befall a policy: a move of its coordinator, or of those around it, and a request.
inductive Acts (p : Policy χ φ) : Policy χ φ → Prop where
  | moves {move next} (step : p.coordinator.Step move next) : Acts p { p with coordinator := next }
  | plans (request : Request) : Acts p (p.plan request).2

abbrev Reaches : Policy χ φ → Policy χ φ → Prop := Relation.ReflTransGen Acts

structure Draw where
  registry : Registry
  pulled : Pulled

def yielded (draws : List Draw) : List Peer := draws.filterMap fun draw => QueryPlan.Pulled.peer? draw.pulled

theorem yielded_pulled (draws : List Draw) (draw : Draw) :
    yielded (draws ++ [draw]) = yielded draws ++ (QueryPlan.Pulled.peer? draw.pulled).toList := by
  cases result : QueryPlan.Pulled.peer? draw.pulled <;> simp [yielded, result]

-- A plan is consumed, with everything else going on in between.
inductive Draws (judge : Judge φ σ) (p : Policy χ φ) (plan : QueryPlan φ) (state : σ) :
    List Draw → Policy χ φ → QueryPlan φ → σ → Prop where
  | nil : Draws judge p plan state [] p plan state
  | acts {draws middle rest held next} (path : Draws judge p plan state draws middle rest held)
      (act : Acts middle next) : Draws judge p plan state draws next rest held
  | pulls {draws middle rest held pulled after left} (path : Draws judge p plan state draws middle rest held)
      (done : rest.pull judge middle.coordinator.registry held = (pulled, after, left)) :
      Draws judge p plan state (draws ++ [⟨middle.coordinator.registry, pulled⟩]) middle after left

structure Kept (config : Config) (p : Policy χ φ) : Prop where
  allowRemote : p.planner.allowRemote = config.allowRemote
  remoteForLocalConsistency : p.planner.remoteForLocalConsistency = config.remoteForLocalConsistency
  maxRemoteNodes : p.planner.maxRemoteNodes = config.maxRemoteNodes
  coherent : p.coordinator.registry.Coherent

section Drawing
variable {config : Config} {p next : Policy χ φ} {request : Request} {plan : QueryPlan φ}

theorem build_kept {evaluated : Bool} {sinks : List (Sink (Listener χ))} {built : Policy χ φ} (filters : List φ)
    (settings : build config evaluated sinks = .ok built) : Kept config { built with filters } := by
  unfold build at settings
  cases checked : config.validate with
  | error error => simp [checked] at settings
  | ok =>
    simp only [checked] at settings
    cases settings
    exact ⟨rfl, rfl, rfl, Registry.empty_coherent⟩

theorem acts_kept (kept : Kept config p) (act : Acts p next) : Kept config next := by
  cases act with
  | moves step =>
    have changes := Coordinator.advance_changes (Coordinator.step_advance step)
    exact ⟨kept.allowRemote, kept.remoteForLocalConsistency, kept.maxRemoteNodes,
      Registry.changes_coherent kept.coherent changes⟩
  | plans request =>
    unfold Policy.plan
    dsimp only
    split
    · exact ⟨kept.allowRemote, kept.remoteForLocalConsistency, kept.maxRemoteNodes, kept.coherent⟩
    · exact ⟨kept.allowRemote, kept.remoteForLocalConsistency, kept.maxRemoteNodes, kept.coherent⟩

theorem runs_reach {moments : List (Coordinator.Moment χ)} {c : Coordinator χ}
    (path : Coordinator.Runs p.coordinator moments c) :
    Reaches p { p with coordinator := c } := by
  induction path with
  | nil => exact .refl
  | step _ step ih => exact ih.tail (.moves step)

theorem Draws.follow {judge : Judge φ σ} {state held : σ} {rest : QueryPlan φ} {draws : List Draw} {later : Policy χ φ}
    (path : Draws judge p plan state draws next rest held) (reached : Reaches next later) :
    Draws judge p plan state draws later rest held := by
  induction reached with
  | refl => exact path
  | tail _ act ih => exact ih.acts act

theorem reaches_kept (kept : Kept config p) (reached : Reaches p next) : Kept config next := by
  induction reached with
  | refl => exact kept
  | tail _ act ih => exact acts_kept ih act

theorem plan_drawn (p : Policy χ φ) (request : Request) :
    (p.plan request).1.walk.Drawn p.coordinator.registry.topology (p.planner.remoteBudget request) [] := by
  unfold Policy.plan
  dsimp only
  split
  · exact Walk.ofTopology_drawn _ _ _
  · exact Walk.nowhere_drawn _ _

theorem draws_drawn {judge : Judge φ σ} {state left : σ} {rest : QueryPlan φ} {draws : List Draw} {t : Topology}
    {budget : Nat} (drawn : plan.walk.Drawn t budget []) (path : Draws judge p plan state draws next rest left) :
    rest.walk.Drawn t budget (yielded draws) ∧
      ∀ draw ∈ draws, ∀ peer, draw.pulled = .node peer → draw.registry.isEligible peer = true := by
  induction path with
  | nil => exact ⟨drawn, by simp⟩
  | acts _ _ ih => exact ih
  | @pulls draws middle rest held pulled after left _ done ih =>
    obtain ⟨before, earlier⟩ := ih
    obtain ⟨now, eligible⟩ := QueryPlan.pull_drawn judge middle.coordinator.registry rest held before
    rw [done] at now eligible
    constructor
    · rw [yielded_pulled]
      exact now
    · intro draw member peer node
      rcases List.mem_append.mp member with old | last
      · exact earlier draw old peer node
      · obtain rfl := List.mem_singleton.mp last
        exact eligible peer node

end Drawing

-- Only the budget of the moment in which the plan is made counts for the remote group.
theorem plan_yields_admitted (config : Config) (evaluated : Bool) (sinks : List (Sink (Listener χ))) (filters : List φ)
    {built p : Policy χ φ} (settings : build config evaluated sinks = .ok built)
    (reached : Reaches { built with filters } p) (rotation : UInt64) (request : Request) (judge : Judge φ σ)
    {state left : σ} {draws : List Draw} {next : Policy χ φ} {rest : QueryPlan φ}
    (path : let turned := { p with planner := { p.planner with rotation } }
      Draws judge (turned.plan request).2 (turned.plan request).1 state draws next rest left) :
    let t := p.coordinator.registry.topology
    (∀ draw ∈ draws, ∀ peer, draw.pulled = .node peer →
      ∃ node, draw.registry.node? peer = some node ∧ node.removed = false ∧
        (node.health = .unknown ∨ node.health = .up) ∧ node.distance ≠ .ignored) ∧
    (∃ fromHome fromRemote, yielded draws = fromHome ++ fromRemote ∧
      (∀ peer ∈ fromHome, peer ∈ t.home ∧ peer ∉ t.remote) ∧ ∀ peer ∈ fromRemote, peer ∈ t.remote ∧ peer ∉ t.home) ∧
    (∀ limit, config.maxRemoteNodes = some limit → (yielded draws).countP (· ∈ t.remote) ≤ limit.toNat) ∧
    (config.allowRemote = false ∨
        (request.consistency ∈ [some .localOne, some .localQuorum, some .localSerial] ∧
          config.remoteForLocalConsistency = false) →
      (yielded draws).countP (· ∈ t.remote) = 0) := by
  intro t
  have kept : Kept config p := reaches_kept (build_kept filters settings) reached
  have valid : t.Partitioned := kept.coherent.partitioned
  obtain ⟨drawn, eligible⟩ := draws_drawn (plan_drawn _ request) path
  obtain ⟨fromHome, fromRemote, all, home, remote, funded, _⟩ := drawn.split
  let planner : Planner := { p.planner with rotation }
  have paid : fromRemote.length ≤ planner.remoteBudget request := Nat.le_of_add_right_le funded
  have near : ∀ peer ∈ fromHome, peer ∈ t.home ∧ peer ∉ t.remote := fun peer member =>
    ⟨home member, fun shared => valid.apart (home member) shared⟩
  have far : ∀ peer ∈ fromRemote, peer ∈ t.remote ∧ peer ∉ t.home := fun peer member =>
    ⟨remote member, fun shared => valid.apart shared (remote member)⟩
  have counted : (yielded draws).countP (· ∈ t.remote) = fromRemote.length :=
    all ▸ valid.countP_remote home remote
  refine ⟨?_, ⟨fromHome, fromRemote, all, near, far⟩, ?_, ?_⟩
  · intro draw member peer node
    exact Registry.isEligible_iff.mp (eligible draw member peer node)
  · intro limit limited
    have most : planner.remoteBudget request ≤ limit.toNat :=
      Planner.remoteBudget_le (kept.maxRemoteNodes.trans limited) request
    omega
  · intro forbidden
    have none : planner.remoteBudget request = 0 := by
      apply Planner.remoteBudget_of_forbidden
      rcases forbidden with never | ⟨level, only⟩
      · exact .inl (kept.allowRemote.trans never)
      · refine .inr ⟨?_, kept.remoteForLocalConsistency.trans only⟩
        simp only [List.mem_cons, List.not_mem_nil, or_false] at level
        rcases level with one | quorum | serial
        · simp [Request.isDatacenterLocal, one, Consistency.isDatacenterLocal]
        · simp [Request.isDatacenterLocal, quorum, Consistency.isDatacenterLocal]
        · simp [Request.isDatacenterLocal, serial, Consistency.isDatacenterLocal]
    omega

-- One remote node is allowed. The one that is next in turn goes down before it is pulled.
theorem down_node_passed_over :
    let config : Config := ⟨some "dc1", true, some 1, false⟩
    let judge : Judge Unit Unit := fun _ _ state => (.accept, state)
    ∃ (built p next : Policy Unit Unit) (rest : QueryPlan Unit) (draws : List Draw),
      build config false [] = .ok built ∧ Reaches { built with filters := [] } p ∧
      Draws judge (p.plan .plain).2 (p.plan .plain).1 () draws next rest () ∧
      draws.map Draw.pulled = [.node ⟨⟨1⟩, 0⟩, .node ⟨⟨3⟩, 2⟩, .exhausted] ∧
      (yielded draws).countP (· ∈ p.coordinator.registry.topology.remote) ≤ 1 := by
  intro config judge
  let node (host : BitVec 128) (datacenter : String) : Descriptor :=
    ⟨⟨host⟩, .v4 ⟨10, 0, 0, 1⟩ 9042, some datacenter, none⟩
  let idle : Coordinator Unit := .fresh ⟨true, false⟩ (some "dc1") []
  let built : Policy Unit Unit := ⟨config, idle, .ofConfig config, []⟩
  let opening : List (Move Unit) :=
    .call (.start [node 1 "dc1", node 2 "dc2", node 3 "dc2"] []) :: List.replicate 14 .own
  let outage : List (Move Unit) := [.call (.submit (.event (.down ⟨2⟩))), .own, .own, .own]
  have settings : build config false [] = .ok built := rfl
  let begun (c : Coordinator Unit) := ({ built with coordinator := c } : Policy Unit Unit).plan .plain
  have shown : ((idle.play opening).bind fun first =>
      let start := begun first.2
      (start.2.coordinator.play outage).map fun second =>
        let one := start.1.pull judge start.2.coordinator.registry ()
        let two := one.2.1.pull judge second.2.registry ()
        [one.1, two.1, (two.2.1.pull judge second.2.registry ()).1]) =
        some [.node ⟨⟨1⟩, 0⟩, .node ⟨⟨3⟩, 2⟩, .exhausted] := by
    decide +kernel
  obtain ⟨⟨_, c⟩, opened, continued⟩ := Option.bind_eq_some_iff.mp shown
  obtain ⟨⟨_, d⟩, down, pulled⟩ := Option.map_eq_some_iff.mp continued
  have reached : Reaches built { built with coordinator := c } := runs_reach (Coordinator.play_exact.mp opened).1
  have outlived : Reaches (begun c).2 { (begun c).2 with coordinator := d } :=
    runs_reach (Coordinator.play_exact.mp down).1
  have start : Draws judge (begun c).2 (begun c).1 () [] (begun c).2 (begun c).1 () := .nil
  have first := (start.pulls rfl).follow outlived
  have path := (first.pulls rfl).pulls rfl
  refine ⟨built, _, _, _, _, settings, reached, path, pulled, ?_⟩
  exact (plan_yields_admitted config false [] [] settings reached 0 .plain judge path).2.2.1 1 rfl

end Policy
end ClusterRouting
