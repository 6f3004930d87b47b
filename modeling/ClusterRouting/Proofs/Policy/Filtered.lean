import ClusterRouting.Proofs.Plan.Course
import ClusterRouting.Proofs.Plan.Offers
import ClusterRouting.Proofs.Policy.Exclusion

namespace ClusterRouting

-- What a bare walk has yielded, with what is left of its agenda and of its budget.
structure Walk.Charged (t : Topology) (offset : UInt64) (budget : Nat) (walk : Walk) (yielded : List Peer) : Prop where
  sound : walk.Sound
  homeAhead : walk.homePending ⊆ t.home
  remoteAhead : walk.remotePending ⊆ t.remote
  order : (yielded ++ (walk.homePending ++ walk.remotePending)).Sublist
    (rotated t.home offset ++ rotated t.remote offset)
  cost : yielded.countP (· ∈ t.remote) + walk.budget = budget

namespace Walk
variable {t : Topology} {offset : UInt64} {budget : Nat} {walk after : Walk} {yielded : List Peer} {r : Registry}

theorem ofTopology_charged (t : Topology) (offset : UInt64) (budget : Nat) :
    (ofTopology t offset budget).Charged t offset budget [] :=
  ⟨ofTopology_sound t offset budget, rotated_subset _ _, rotated_subset _ _, .refl _, by simp [ofTopology]⟩

theorem nowhere_charged (t : Topology) (offset : UInt64) : nowhere.Charged t offset 0 [] := by
  refine ⟨⟨Nat.le_refl _, Nat.le_refl _⟩, ?_, ?_, ?_, rfl⟩
  · simp [homePending, nowhere, rotated]
  · simp [remotePending, nowhere, rotated]
  · simp [homePending, remotePending, nowhere, rotated]

theorem Charged.next {answer : Option Peer} (valid : t.Partitioned) (charged : walk.Charged t offset budget yielded)
    (done : walk.next r = (answer, after)) : after.Charged t offset budget (yielded ++ answer.toList) := by
  obtain ⟨sound, advance⟩ := next_advance charged.sound done
  generalize walk.between after = examined at advance
  refine ⟨sound, List.Subset.trans advance.home_subset charged.homeAhead,
    List.Subset.trans advance.remote_subset charged.remoteAhead, ?_, ?_⟩
  · refine List.Sublist.trans ?_ charged.order
    rw [List.append_assoc]
    refine (List.Sublist.refl yielded).append ?_
    cases advance with
    | home serves still =>
      rw [serves.order, still]
      simp
    | spent serves still =>
      rw [serves.order, still]
      simp
    | remote through serves =>
      rw [through.order, through.through rfl, serves.order]
      simp
    | through through serves =>
      rw [through.order, serves.order]
      simp
  · have spent := charged.cost
    cases advance with
    | @home skipped peer _ serves _ kept =>
      -- a member of one group is not in the other
      have near : peer ∈ t.home := charged.homeAhead (by simp [serves.order])
      have apart : peer ∉ t.remote := fun far => valid.apart near far
      simpa [apart, kept] using spent
    | spent _ _ kept => simpa [kept] using spent
    | @remote _ skipped peer _ _ serves paid =>
      have far : peer ∈ t.remote := charged.remoteAhead (by simp [serves.order])
      simp only [Option.toList_some, List.countP_append, List.countP_singleton, far, decide_true, if_true]
      omega
    | through _ _ kept => simpa [kept] using spent

theorem Charged.nodup (valid : t.Partitioned) (charged : walk.Charged t offset budget yielded)
    (home : Whole t.home.length offset) (remote : Whole t.remote.length offset) : yielded.Nodup := by
  have once : (rotated t.home offset ++ rotated t.remote offset).Nodup := by
    rw [rotated_eq_rotate home, rotated_eq_rotate remote]
    exact rotations_nodup valid _
  exact (once.sublist charged.order).of_append_left

end Walk

namespace QueryPlan
variable {φ σ : Type}

-- One pull at a plan with filters: what it finds, the candidates it takes, and what it comes to.
structure Fetch (φ : Type) where
  registry : Registry
  offers : List (Offer φ)
  pulled : Pulled

namespace Fetch

def sources (fetch : Fetch φ) : List Policy.Draw :=
  fetch.offers.map (fun offer => ⟨fetch.registry, .node offer.peer⟩) ++
    if fetch.pulled = .exhausted then [⟨fetch.registry, .exhausted⟩] else []

def draw (fetch : Fetch φ) : Policy.Draw := ⟨fetch.registry, fetch.pulled⟩

structure Fair (filters : List φ) (fetch : Fetch φ) : Prop where
  heard : ∀ offer ∈ fetch.offers, Heard filters offer.asked offer.verdict
  -- Behind a candidate that is let through or breaks off a filter nothing is taken.
  refused : ∀ offer ∈ fetch.offers.dropLast, offer.verdict = .reject
  comes : fetch.pulled = outcome fetch.offers

def accepted (fetch : Fetch φ) : List Peer :=
  (fetch.offers.filter fun offer => offer.verdict = .accept).map Offer.peer

theorem Fair.accepted {filters : List φ} {fetch : Fetch φ} (fair : fetch.Fair filters) :
    fetch.accepted = (Pulled.peer? fetch.pulled).toList := by
  have refused := fair.refused
  rw [fair.comes, Fetch.accepted]
  rcases fetch.offers.eq_nil_or_concat' with none | ⟨before, ⟨peer, asked, verdict⟩, split⟩
  · simp [none, outcome, Pulled.peer?]
  · rw [split, List.dropLast_concat] at refused
    have skipped : before.filter (fun offer => offer.verdict = .accept) = [] := by
      rw [List.filter_eq_nil_iff]
      intro offer member
      simp [refused offer member]
    rw [split, List.filter_append, skipped]
    cases verdict <;> simp [outcome, Pulled.peer?]

end Fetch
end QueryPlan

namespace Policy
open QueryPlan
variable {χ φ σ : Type}

def bare (p : Policy χ φ) : Policy χ φ := { p with filters := [] }

section Acting
variable {p next : Policy χ φ} {request : Request}

theorem layered_eq (p : Policy χ φ) (filters : List φ) :
    filters.foldl filtered p = { p with filters := p.filters ++ filters } := by
  induction filters generalizing p with
  | nil => simp
  | cons filter outer ih => simp [ih, filtered]

theorem plan_bare (p : Policy χ φ) (request : Request) :
    p.plan request =
      ({ (p.bare.plan request).1 with filters := p.filters }, { (p.bare.plan request).2 with filters := p.filters }) ∧
      (p.bare.plan request).1.filters = [] ∧ (p.bare.plan request).2.filters = [] := by
  unfold plan bare
  dsimp only
  split <;> exact ⟨rfl, rfl, rfl⟩

theorem plan_charged (p : Policy χ φ) (request : Request) :
    (p.plan request).1.walk.Charged p.coordinator.registry.topology p.planner.rotation
      (p.plan request).1.walk.budget [] := by
  unfold plan
  dsimp only
  split
  · exact Walk.ofTopology_charged _ _ _
  · exact Walk.nowhere_charged _ _

theorem build_bare {config : Config} {evaluated : Bool} {sinks : List (Sink (Listener χ))}
    (settings : build config evaluated sinks = .ok p) : p.filters = [] := by
  unfold build at settings
  cases checked : config.validate with
  | error error => simp [checked] at settings
  | ok =>
    simp only [checked] at settings
    cases settings
    rfl

theorem acts_bare (act : Acts p next) : Acts p.bare next.bare ∧ next.filters = p.filters := by
  cases act with
  | moves step => exact ⟨.moves (p := p.bare) step, rfl⟩
  | plans request =>
    obtain ⟨made, _, none⟩ := plan_bare p request
    have same : (p.plan request).2.bare = (p.bare.plan request).2 := by
      rw [made]
      exact congrArg (fun filters => { (p.bare.plan request).2 with filters }) none.symm
    exact ⟨same ▸ .plans request, by rw [made]⟩

theorem reaches_filters (reached : Reaches p next) : next.filters = p.filters := by
  induction reached with
  | refl => rfl
  | tail _ act ih => exact (acts_bare act).2.trans ih

end Acting

section Drawing
variable {p middle next : Policy χ φ} {plan rest : QueryPlan φ} {draws : List Draw} {walk after : Walk}

def idle : Judge φ Unit := fun _ _ state => (.accept, state)

theorem draws_pulls {filters : List φ} {offers : List (Offer φ)} {pulled : Pulled}
    (path : Draws idle p plan () draws middle ⟨walk, []⟩ ())
    (pulls : Pulls filters middle.coordinator.registry walk offers pulled after) :
    Draws idle p plan () (draws ++ Fetch.sources ⟨middle.coordinator.registry, offers, pulled⟩)
      middle ⟨after, []⟩ () := by
  induction pulls generalizing draws with
  | exhausted found => exact path.pulls (pull_of_none found)
  | node found | fault found =>
    simpa [Fetch.sources] using path.pulls (pull_of_some found)
  | on found _ _ ih =>
    simpa [Fetch.sources] using ih (path.pulls (pull_of_some found))

theorem draws_charged {t : Topology} {offset : UInt64} {budget : Nat} (valid : t.Partitioned)
    (charged : walk.Charged t offset budget []) {left : Unit}
    (path : Draws idle p ⟨walk, []⟩ () draws next rest left) :
    rest.filters = [] ∧ rest.walk.Charged t offset budget (yielded draws) := by
  induction path with
  | nil => exact ⟨rfl, charged⟩
  | acts _ _ ih => exact ih
  | @pulls draws middle rest held pulled after left _ done ih =>
    obtain ⟨none, before⟩ := ih
    rw [yielded_pulled]
    cases found : rest.walk.next middle.coordinator.registry with
    | mk answer walk =>
      have now := before.next valid found
      cases answer with
      | none =>
        rw [pull_of_none found] at done
        cases done
        exact ⟨none, now⟩
      | some peer =>
        rw [pull_of_some found, none] at done
        cases done
        exact ⟨rfl, now⟩

theorem draws_fetched {judge : Judge φ σ} {state left : σ} (path : Draws judge p plan state draws next rest left) :
    rest.filters = plan.filters ∧ ∃ fetches : List (Fetch φ), draws = fetches.map Fetch.draw ∧
      (∀ fetch ∈ fetches, fetch.Fair plan.filters) ∧
      Draws (recorded judge) p plan (state, []) draws next rest
        (left, fetches.flatMap fun fetch => fetch.offers.flatMap Offer.questions) ∧
      Draws idle p.bare ⟨plan.walk, []⟩ () (fetches.flatMap Fetch.sources) next.bare ⟨rest.walk, []⟩ () := by
  induction path with
  | nil => exact ⟨rfl, [], rfl, nofun, .nil, .nil⟩
  | acts _ act ih =>
    obtain ⟨kept, fetches, all, fair, noted, beside⟩ := ih
    exact ⟨kept, fetches, all, fair, noted.acts act, beside.acts (acts_bare act).1⟩
  | @pulls draws middle rest held pulled after left _ done ih =>
    obtain ⟨kept, fetches, all, fair, noted, beside⟩ := ih
    obtain ⟨still, offers, pulls, same⟩ := pull_pulls judge middle.coordinator.registry rest held
    rw [done] at still pulls same
    rw [kept] at pulls
    let fetch : Fetch φ := ⟨middle.coordinator.registry, offers, pulled⟩
    have last : fetch.Fair plan.filters := ⟨pulls.heard, pulls.comes.2, pulls.comes.1⟩
    refine ⟨still.trans kept, fetches ++ [fetch], by simp [all, fetch, Fetch.draw], ?_, ?_, ?_⟩
    · intro one member
      rcases List.mem_append.mp member with earlier | now
      · exact fair one earlier
      · exact List.mem_singleton.mp now ▸ last
    · simpa [fetch] using noted.pulls (same _)
    · rw [List.flatMap_append, List.flatMap_singleton]
      exact draws_pulls beside pulls

theorem yielded_sources (fetches : List (Fetch φ)) :
    yielded (fetches.flatMap Fetch.sources) = (fetches.flatMap Fetch.offers).map Offer.peer := by
  induction fetches with
  | nil => rfl
  | cons fetch later ih =>
    have one : yielded fetch.sources = fetch.offers.map Offer.peer := by
      unfold yielded Fetch.sources
      rw [List.filterMap_append, List.filterMap_map]
      split <;> simp [Pulled.peer?, Function.comp_def]
    simp only [List.flatMap_cons, List.map_append, ← ih, ← one]
    exact List.filterMap_append

theorem yielded_fetched {filters : List φ} (fetches : List (Fetch φ)) (fair : ∀ fetch ∈ fetches, fetch.Fair filters) :
    yielded (fetches.map Fetch.draw) = fetches.flatMap Fetch.accepted := by
  induction fetches with
  | nil => rfl
  | cons fetch later ih =>
    obtain ⟨first, others⟩ := List.forall_mem_cons.mp fair
    rw [List.flatMap_cons, first.accepted, ← ih others]
    simp only [yielded, List.map_cons, List.filterMap_cons, Fetch.draw]
    cases Pulled.peer? fetch.pulled <;> rfl

end Drawing

-- Filters come to one stack around the walk. The two runs are the same but for that stack, so a pull that no consumer
-- asked for is made in neither.
theorem filters_offered_bare_plan (config : Config) (evaluated : Bool) (sinks : List (Sink (Listener χ)))
    (filters : List φ) {built p : Policy χ φ} (settings : build config evaluated sinks = .ok built)
    (reached : Reaches (filters.foldl filtered built) p) (rotation : UInt64) (request : Request) (judge : Judge φ σ)
    {state left : σ} {draws : List Draw} {next : Policy χ φ} {rest : QueryPlan φ}
    (path : let turned := { p with planner := { p.planner with rotation } }
      Draws judge (turned.plan request).2 (turned.plan request).1 state draws next rest left) :
    let turned := { p with planner := { p.planner with rotation } }
    let plan := turned.bare.plan request
    let t := p.coordinator.registry.topology
    turned.plan request = ({ plan.1 with filters }, { plan.2 with filters }) ∧
    (∀ (r : Registry) (inside : QueryPlan φ) filter held,
      (inside.filtered filter).pull judge r held = around judge r filter (inside.pull judge r held)) ∧
    ∃ fetches : List (Fetch φ),
      let offered := fetches.flatMap Fetch.offers
      draws = fetches.map Fetch.draw ∧
      (∀ fetch ∈ fetches, fetch.Fair filters) ∧
      Draws (recorded judge) (turned.plan request).2 (turned.plan request).1 (state, []) draws next rest
        (left, offered.flatMap Offer.questions) ∧
      Draws idle plan.2 plan.1 () (fetches.flatMap Fetch.sources) next.bare { rest with filters := [] } () ∧
      offered.map Offer.peer = yielded (fetches.flatMap Fetch.sources) ∧
      yielded draws = (offered.filter fun offer => offer.verdict = .accept).map Offer.peer ∧
      (offered.map Offer.peer).countP (· ∈ t.remote) + rest.walk.budget = plan.1.walk.budget ∧
      (Walk.Whole t.home.length rotation → Walk.Whole t.remote.length rotation →
        (offered.map Offer.peer).Nodup) := by
  intro turned plan t
  have layered : filters.foldl filtered built = { built with filters } := by
    rw [layered_eq, build_bare settings, List.nil_append]
  rw [layered] at reached
  have behind : turned.filters = filters := reaches_filters reached
  have valid : t.Partitioned := (reaches_kept (build_kept filters settings) reached).coherent.partitioned
  obtain ⟨made, noFilters, noneKept⟩ := plan_bare turned request
  rw [behind] at made
  obtain ⟨_, fetches, all, fair, noted, beside⟩ := draws_fetched path
  have first : (turned.plan request).1 = { plan.1 with filters } := congrArg Prod.fst made
  have second : (turned.plan request).2.bare = plan.2 := by
    rw [congrArg Prod.snd made]
    exact congrArg (fun filters => { plan.2 with filters }) noneKept.symm
  have start : (⟨(turned.plan request).1.walk, []⟩ : QueryPlan φ) = plan.1 := by
    rw [first]
    exact congrArg (fun filters => { plan.1 with filters }) noFilters.symm
  have charged := (draws_charged valid (plan_charged turned request) beside).2
  have offered := yielded_sources fetches
  rw [offered] at charged
  refine ⟨made, fun r inside filter held => ?_, fetches, all, ?_, ?_, ?_, offered.symm, ?_, ?_, ?_⟩
  · exact pull_filtered judge r inside filter held
  · rw [first] at fair
    exact fair
  · rw [List.flatMap_assoc]
    exact noted
  · rw [second, start] at beside
    exact beside
  · rw [all, yielded_fetched fetches fair, List.filter_flatMap, List.map_flatMap]
    rfl
  · rw [first] at charged
    exact charged.cost
  · exact charged.nodup valid

-- Two remote nodes are allowed. The filter inside breaks off at the second node, the one around it refuses the
-- first; the third goes down in between, so what is left of the budget goes to the fourth, and the fifth gets none.
theorem breaking_filter_costs_budget :
    let config : Config := ⟨some "dc1", true, some 2, false⟩
    let judge : Judge Bool Unit := fun inner peer state =>
      if inner ∧ peer.host = ⟨2⟩ then (.throw (.message "boom"), state)
      else if ¬inner ∧ peer.host = ⟨1⟩ then (.reject, state)
      else (.accept, state)
    ∃ (built p next : Policy Unit Bool) (rest : QueryPlan Bool) (draws : List Draw) (offered : List Peer),
      build config false [] = .ok built ∧ Reaches ([true, false].foldl filtered built) p ∧
      Draws judge (p.plan .plain).2 (p.plan .plain).1 () draws next rest () ∧
      draws.map Draw.pulled = [.fault (.message "boom"), .node ⟨⟨4⟩, 3⟩, .exhausted] ∧
      (yielded draws).Sublist offered ∧
      offered.countP (· ∈ p.coordinator.registry.topology.remote) + rest.walk.budget = 2 := by
  intro config judge
  let node (host : BitVec 128) (datacenter : String) : Descriptor :=
    ⟨⟨host⟩, .v4 ⟨10, 0, 0, 1⟩ 9042, some datacenter, none⟩
  let idle : Coordinator Unit := .fresh ⟨true, false⟩ (some "dc1") []
  let bare : Policy Unit Bool := ⟨config, idle, .ofConfig config, []⟩
  let built : Policy Unit Bool := { bare with filters := [true, false] }
  let opening : List (Move Unit) :=
    .call (.start [node 1 "dc1", node 2 "dc2", node 3 "dc2", node 4 "dc2", node 5 "dc2"] []) ::
      List.replicate 22 .own
  let outage : List (Move Unit) := [.call (.submit (.event (.down ⟨3⟩))), .own, .own, .own]
  have settings : build config false [] = .ok bare := rfl
  let begun (c : Coordinator Unit) := ({ built with coordinator := c } : Policy Unit Bool).plan .plain
  have shown : ((idle.play opening).bind fun first =>
      let start := begun first.2
      let one := start.1.pull judge start.2.coordinator.registry ()
      (start.2.coordinator.play outage).map fun second =>
        let two := one.2.1.pull judge second.2.registry ()
        (({ bare with coordinator := first.2 }.plan .plain).1.walk.budget,
          [one.1, two.1, (two.2.1.pull judge second.2.registry ()).1])) =
        some (2, [.fault (.message "boom"), .node ⟨⟨4⟩, 3⟩, .exhausted]) := by
    decide +kernel
  obtain ⟨⟨_, c⟩, opened, continued⟩ := Option.bind_eq_some_iff.mp shown
  obtain ⟨⟨_, d⟩, down, pulled⟩ := Option.map_eq_some_iff.mp continued
  obtain ⟨budget, answers⟩ := Prod.mk.inj pulled
  have reached : Reaches built { built with coordinator := c } := runs_reach (Coordinator.play_exact.mp opened).1
  have outlived : Reaches (begun c).2 { (begun c).2 with coordinator := d } :=
    runs_reach (Coordinator.play_exact.mp down).1
  have start : Draws judge (begun c).2 (begun c).1 () [] (begun c).2 (begun c).1 () := .nil
  have first := (start.pulls rfl).follow outlived
  have path := (first.pulls rfl).pulls rfl
  obtain ⟨_, _, fetches, _, _, _, _, _, yields, paid, _⟩ :=
    filters_offered_bare_plan config false [] [true, false] settings reached 0 .plain judge path
  refine ⟨bare, _, _, _, _, (fetches.flatMap Fetch.offers).map Offer.peer, settings, reached, path, answers, ?_, ?_⟩
  · rw [yields]
    exact List.Sublist.map _ List.filter_sublist
  · exact paid.trans budget

end Policy
end ClusterRouting
