import ClusterRouting.Proofs.Plan.Offers
import ClusterRouting.Proofs.Plan.Repetition
import ClusterRouting.Proofs.Policy.Filtered
import Mathlib.Data.Int.CardIntervalMod

namespace ClusterRouting

section Visits

-- How often a run of consecutive numbers comes to a place in a ring.
def visits (length start count place : Nat) : Nat := (List.range' start count).countP (· % length = place)

theorem visits_eq {length place : Nat} (inside : place < length) (start count : Nat) :
    visits length start count place =
      count / length + if (place + (length - start % length)) % length < count % length then 1 else 0 := by
  have below : start % length < length := Nat.mod_lt _ (by omega)
  rw [← Nat.count_modEq_card count (by omega), visits, List.range'_eq_map_range, List.countP_map, Nat.count]
  apply List.countP_congr
  intro step _
  simp only [Function.comp_apply, decide_eq_true_eq]
  have shift : (start + step) % length = place ↔
      start % length + step ≡ start % length + (place + (length - start % length)) [MOD length] := by
    have whole : start % length + (place + (length - start % length)) = place + length := by omega
    rw [whole, Nat.ModEq, Nat.add_mod_right, Nat.mod_add_mod, Nat.mod_eq_of_lt inside]
  rw [shift]
  exact Nat.ModEq.add_iff_left rfl

theorem visits_fair {length first second : Nat} (one : first < length) (two : second < length) (start count : Nat) :
    visits length start count first ≤ visits length start count second + 1 := by
  rw [visits_eq one, visits_eq two]
  split <;> split <;> omega

theorem visits_around {length place : Nat} (inside : place < length) (start : Nat) :
    visits length start length place = 1 := by
  rw [visits_eq inside, Nat.div_self (by omega), Nat.mod_self]
  simp

end Visits

namespace Walk

def ahead (walk : Walk) : List Peer := walk.homePending ++ walk.remotePending.take walk.budget

section Ahead
variable {walk after : Walk} {r : Registry} {examined : List Peer} {answer : Option Peer}

theorem ahead_subset (walk : Walk) : walk.ahead ⊆ walk.homePending ++ walk.remotePending :=
  List.append_subset.mpr ⟨List.subset_append_left _ _,
    List.subset_append_of_subset_right _ (List.take_subset _ _)⟩

theorem stillAnswers_eligible (fit : ∀ peer ∈ walk.homePending ++ walk.remotePending, r.isEligible peer = true) :
    walk.stillAnswers r = walk.ahead := by
  rw [stillAnswers, ahead, List.filter_eq_self.mpr fun peer member => fit peer (List.mem_append_left _ member),
    List.filter_eq_self.mpr fun peer member => fit peer (List.mem_append_right _ member)]

theorem Advance.ahead (advance : Advance walk r examined answer after)
    (fit : ∀ peer ∈ walk.homePending ++ walk.remotePending, r.isEligible peer = true) :
    walk.ahead = answer.toList ++ after.ahead ∧ (answer = none → after.ahead = []) := by
  have later : ∀ peer ∈ after.homePending ++ after.remotePending, r.isEligible peer = true := by
    intro peer member
    refine fit peer ?_
    rcases List.mem_append.mp member with home | remote
    · exact List.mem_append_left _ (advance.home_subset home)
    · exact List.mem_append_right _ (advance.remote_subset remote)
  rw [← stillAnswers_eligible fit, ← stillAnswers_eligible later]
  refine ⟨advance.still, ?_⟩
  rintro rfl
  exact advance.still_ended

end Ahead

section Order
variable {t : Topology} {budget position turn : Nat}

theorem ahead_ofTopology (t : Topology) (offset : UInt64) (budget : Nat) :
    (ofTopology t offset budget).ahead = rotated t.home offset ++ (rotated t.remote offset).take budget := rfl

theorem place_ofNat {length : Nat} (room : turn + length ≤ 2 ^ 64) (inside : position < length) :
    place length (.ofNat turn) position = (turn + position) % length := by
  have small : (UInt64.ofNat turn).toNat = turn := by
    rw [UInt64.toNat_ofNat', Nat.mod_eq_of_lt (by omega)]
  rw [place_of_whole (.inl (by omega)) inside, small]

theorem home_ahead (room : turn + t.home.length ≤ 2 ^ 64) (inside : position < t.home.length) :
    (ofTopology t (.ofNat turn) budget).ahead[position]? = t.home[(turn + position) % t.home.length]? := by
  rw [ahead_ofTopology, List.getElem?_append_left (by simpa using inside), getElem?_rotated inside,
    place_ofNat room inside]

theorem remote_ahead (room : turn + t.remote.length ≤ 2 ^ 64) (inside : position < t.remote.length)
    (funded : position < budget) : (ofTopology t (.ofNat turn) budget).ahead[t.home.length + position]? =
      t.remote[(turn + position) % t.remote.length]? := by
  rw [ahead_ofTopology, List.getElem?_append_right (by simp), length_rotated, Nat.add_sub_cancel_left,
    List.getElem?_take_of_lt funded, getElem?_rotated inside, place_ofNat room inside]

end Order

end Walk

namespace Policy
open QueryPlan
variable {χ φ σ : Type}

-- Every filter lets these nodes pass, at any time.
def Welcome (judge : Judge φ σ) (filters : List φ) (peers : List Peer) : Prop :=
  ∀ filter ∈ filters, ∀ peer ∈ peers, ∀ state, (judge filter peer state).1 = .accept

structure Service (φ : Type) where
  request : Request
  draws : List Draw
  plan : QueryPlan φ

-- A policy makes plans for the same topology, one after another. They are pulled in any order, also side by side,
-- and whatever else happens in between, every node of the topology is eligible whenever one is pulled.
inductive Serves (judge : Judge φ σ) (t : Topology) (p : Policy χ φ) (state : σ) :
    List (Service φ) → Policy χ φ → σ → Prop where
  | nil : Serves judge t p state [] p state
  | moves {services next held move after} (path : Serves judge t p state services next held)
      (step : next.coordinator.Step move after) :
      Serves judge t p state services { next with coordinator := after } held
  | plans {services next held} (path : Serves judge t p state services next held) (request : Request)
      (ready : next.coordinator.lifecycle = .ready) (still : next.coordinator.registry.topology = t) :
      Serves judge t p state (services ++ [⟨request, [], (next.plan request).1⟩]) (next.plan request).2 held
  | pulls {services next held service pulled rest left} (path : Serves judge t p state services next held)
      (index : Nat) (listed : services[index]? = some service)
      (fit : ∀ peer ∈ t.home ++ t.remote, next.coordinator.registry.isEligible peer = true)
      (done : service.plan.pull judge next.coordinator.registry held = (pulled, rest, left)) :
      Serves judge t p state
        (services.set index ⟨service.request, service.draws ++ [⟨next.coordinator.registry, pulled⟩], rest⟩) next left

section Serving
variable {judge : Judge φ σ} {t : Topology} {p next : Policy χ φ} {state held left : σ} {filters : List φ}
variable {planner : Planner} {service : Service φ} {services : List (Service φ)} {start turn : Nat}

theorem consult_welcome {peers : List Peer} (welcome : Welcome judge filters peers) {peer : Peer}
    (member : peer ∈ peers) (state : σ) : (consult judge peer filters state).1 = .accept := by
  induction filters generalizing state with
  | nil => rfl
  | cons filter outer ih =>
    obtain ⟨first, others⟩ := List.forall_mem_cons.mp welcome
    have passed := first peer member state
    cases said : judge filter peer state with
    | mk verdict state =>
      rw [said] at passed
      cases passed
      simpa [consult, said] using ih others state

-- A plan of some turn in the rotation: what has been pulled comes first in the order of that turn, and the rest is
-- still to come.
structure Follows (t : Topology) (planner : Planner) (filters : List φ) (service : Service φ) (order : List Peer) :
    Prop where
  filters : service.plan.filters = filters
  drawn : service.plan.walk.Drawn t (planner.remoteBudget service.request) (yielded service.draws)
  yielded : yielded service.draws = order.take service.draws.length
  ahead : service.plan.walk.ahead = order.drop service.draws.length

theorem pull_next {plan rest : QueryPlan φ} {r : Registry} {pulled : Pulled} (sound : plan.walk.Sound)
    (inside : plan.walk.homePending ++ plan.walk.remotePending ⊆ t.home ++ t.remote)
    (welcome : Welcome judge plan.filters (t.home ++ t.remote))
    (fit : ∀ peer ∈ t.home ++ t.remote, r.isEligible peer = true)
    (done : plan.pull judge r held = (pulled, rest, left)) :
    rest.filters = plan.filters ∧ plan.walk.ahead.head? = Pulled.peer? pulled ∧
      rest.walk.ahead = plan.walk.ahead.tail := by
  cases found : plan.walk.next r with
  | mk answer walk =>
    obtain ⟨comes, ends⟩ := (Walk.next_advance sound found).2.ahead fun peer member => fit peer (inside member)
    cases answer with
    | none =>
      rw [pull_of_none found] at done
      cases done
      simp [comes, ends rfl, Pulled.peer?]
    | some peer =>
      have member : peer ∈ t.home ++ t.remote := inside (plan.walk.ahead_subset (by simp [comes]))
      have passed := consult_welcome welcome member held
      rw [pull_of_some found] at done
      cases said : consult judge peer plan.filters held with
      | mk verdict state =>
        rw [said] at passed done
        cases passed
        cases done
        simp [comes, Pulled.peer?]

theorem Follows.pulls {order : List Peer} {r : Registry} {pulled : Pulled} {rest : QueryPlan φ}
    (follows : Follows t planner filters service order) (welcome : Welcome judge filters (t.home ++ t.remote))
    (fit : ∀ peer ∈ t.home ++ t.remote, r.isEligible peer = true)
    (done : service.plan.pull judge r held = (pulled, rest, left)) :
    Follows t planner filters ⟨service.request, service.draws ++ [⟨r, pulled⟩], rest⟩ order := by
  have inside : service.plan.walk.homePending ++ service.plan.walk.remotePending ⊆ t.home ++ t.remote :=
    List.append_subset.mpr ⟨List.subset_append_of_subset_left _ follows.drawn.homeAhead,
      List.subset_append_of_subset_right _ follows.drawn.remoteAhead⟩
  obtain ⟨kept, first, later⟩ := pull_next follows.drawn.sound inside (follows.filters ▸ welcome) fit done
  have drawn := (pull_drawn judge r service.plan held follows.drawn).1
  rw [done] at drawn
  rw [follows.ahead, List.head?_drop] at first
  rw [follows.ahead, List.tail_drop] at later
  constructor
  · exact kept.trans follows.filters
  · rw [yielded_pulled]
    exact drawn
  · rw [yielded_pulled, List.length_append, List.length_singleton, List.take_add_one, follows.yielded, first]
  · rw [List.length_append, List.length_singleton]
    exact later

def course (t : Topology) (planner : Planner) (request : Request) (turn : Nat) : List Peer :=
  (Walk.ofTopology t (.ofNat turn) (planner.remoteBudget request)).ahead

theorem plan_follows (ready : p.coordinator.lifecycle = .ready) (still : p.coordinator.registry.topology = t)
    (turned : p.planner = { planner with rotation := .ofNat turn }) (request : Request) :
    (p.plan request).2 = { p with planner := { planner with rotation := .ofNat (turn + 1) } } ∧
      Follows t planner p.filters ⟨request, [], (p.plan request).1⟩ (course t planner request turn) := by
  have made : p.plan request = (⟨.ofTopology t (.ofNat turn) (planner.remoteBudget request), p.filters⟩,
      { p with planner := { planner with rotation := .ofNat (turn + 1) } }) := by
    simp only [plan, ready, if_true, Planner.plan, turned, still, UInt64.ofNat_add]
    rfl
  rw [made]
  exact ⟨rfl, rfl, Walk.ofTopology_drawn _ _ _, rfl, rfl⟩

-- The plans made so far take one turn each, from the first on.
structure Rotated (t : Topology) (planner : Planner) (filters : List φ) (start : Nat)
    (p : Policy χ φ) (services : List (Service φ)) : Prop where
  behind : p.filters = filters
  turned : p.planner = { planner with rotation := .ofNat (start + services.length) }
  follows : ∀ index service, services[index]? = some service →
    Follows t planner filters service (course t planner service.request (start + index))

theorem serves_rotated (turned : p.planner = { planner with rotation := .ofNat start })
    (welcome : Welcome judge p.filters (t.home ++ t.remote)) (path : Serves judge t p state services next held) :
    Rotated t planner p.filters start next services := by
  induction path with
  | nil => exact ⟨rfl, turned, nofun⟩
  | moves _ _ ih => exact ⟨ih.behind, ih.turned, ih.follows⟩
  | @plans services next _ _ request ready still ih =>
    obtain ⟨after, follows⟩ := plan_follows ready still ih.turned request
    refine ⟨?_, ?_, ?_⟩
    · rw [after]
      exact ih.behind
    · rw [after, List.length_append, List.length_singleton]
      rfl
    · intro index service listed
      rcases Nat.lt_or_ge index services.length with earlier | last
      · rw [List.getElem?_append_left earlier] at listed
        exact ih.follows index service listed
      · rw [List.getElem?_append_right last, List.getElem?_singleton] at listed
        obtain ⟨here, ⟨⟩⟩ := Option.ite_none_right_eq_some.mp listed
        obtain rfl : index = services.length := by omega
        exact ih.behind ▸ follows
  | @pulls services next _ service pulled _ _ _ pulledAt found fit done ih =>
    refine ⟨ih.behind, ?_, ?_⟩
    · rw [List.length_set]
      exact ih.turned
    · intro index one listed
      by_cases same : pulledAt = index
      · subst same
        have inside := (List.getElem?_eq_some_iff.mp found).1
        rw [List.getElem?_set_self inside] at listed
        cases listed
        exact (ih.follows _ _ found).pulls welcome fit done
      · rw [List.getElem?_set_ne same] at listed
        exact ih.follows index one listed

end Serving

def seats (services : List (Service φ)) (position : Nat) (peer : Peer) : Nat :=
  services.countP fun service => (yielded service.draws)[position]? = some peer

-- The members of a group take turns at a position.
def Turns (services : List (Service φ)) (group : List Peer) (position start : Nat) : Prop :=
  ∀ index service, services[index]? = some service →
    (yielded service.draws)[position]? = group[(start + index) % group.length]?

section Seats
variable {services : List (Service φ)} {group : List Peer} {position start : Nat}

theorem Turns.taken (turns : Turns services group position start) (inhabited : 0 < group.length) :
    ∀ service ∈ services, ∃ peer ∈ group, (yielded service.draws)[position]? = some peer := by
  intro service member
  obtain ⟨index, listed⟩ := List.getElem?_of_mem member
  have placed := Nat.mod_lt (start + index) inhabited
  have read := turns index service listed
  rw [List.getElem?_eq_getElem placed] at read
  exact ⟨_, List.getElem_mem placed, read⟩

theorem Turns.seats (turns : Turns services group position start) (once : group.Nodup) {place : Nat}
    (inside : place < group.length) :
    seats services position group[place] = visits group.length start services.length place := by
  have listed : services.map (fun service => (yielded service.draws)[position]?) =
      (List.range' start services.length).map fun turn => group[turn % group.length]? := by
    apply List.ext_getElem (by simp)
    intro index first second
    rw [List.getElem_map, List.getElem_map, List.getElem_range', Nat.one_mul]
    exact turns index _ (List.getElem?_eq_getElem (by simpa using first))
  have counted := congrArg (List.countP (· = some group[place])) listed
  rw [List.countP_map, List.countP_map] at counted
  refine counted.trans (List.countP_congr fun turn _ => ?_)
  have placed := Nat.mod_lt turn (Nat.zero_lt_of_lt inside)
  simp only [Function.comp_apply, decide_eq_true_eq, List.getElem?_eq_getElem placed, Option.some.injEq,
    once.getElem_inj_iff]

theorem Turns.fair (turns : Turns services group position start) (once : group.Nodup) :
    ∀ first ∈ group, ∀ second ∈ group,
      Policy.seats services position first ≤ Policy.seats services position second + 1 := by
  intro first one second two
  obtain ⟨place, inside, rfl⟩ := List.getElem_of_mem one
  obtain ⟨other, within, rfl⟩ := List.getElem_of_mem two
  rw [turns.seats once inside, turns.seats once within]
  exact visits_fair inside within _ _

theorem Turns.around (turns : Turns services group position start) (once : group.Nodup)
    (whole : services.length = group.length) : ∀ peer ∈ group, Policy.seats services position peer = 1 := by
  intro peer member
  obtain ⟨place, inside, rfl⟩ := List.getElem_of_mem member
  rw [turns.seats once inside, whole]
  exact visits_around inside _

end Seats

section Groups
variable {t : Topology} {planner : Planner} {filters : List φ} {p : Policy χ φ}
variable {services : List (Service φ)} {position start : Nat}

theorem Rotated.home (rotated : Rotated t planner filters start p services)
    (room : start + services.length + t.home.length ≤ 2 ^ 64) (inside : position < t.home.length)
    (deep : ∀ service ∈ services, position < service.draws.length) :
    Turns services t.home position (start + position) := by
  intro index service listed
  have early := (List.getElem?_eq_some_iff.mp listed).1
  have pulled := deep service (List.mem_of_getElem? listed)
  rw [(rotated.follows index service listed).yielded, List.getElem?_take_of_lt pulled, course,
    Walk.home_ahead (by omega) inside, Nat.add_right_comm]

theorem Rotated.remote (rotated : Rotated t planner filters start p services)
    (room : start + services.length + t.remote.length ≤ 2 ^ 64) (inside : position < t.remote.length)
    (deep : ∀ service ∈ services, t.home.length + position < service.draws.length)
    (funded : ∀ service ∈ services, position < planner.remoteBudget service.request) :
    Turns services t.remote (t.home.length + position) (start + position) := by
  intro index service listed
  have member := List.mem_of_getElem? listed
  have early := (List.getElem?_eq_some_iff.mp listed).1
  rw [(rotated.follows index service listed).yielded, List.getElem?_take_of_lt (deep service member), course,
    Walk.remote_ahead (by omega) inside (funded service member), Nat.add_right_comm]

end Groups

-- A filter that refuses a node would make the others move up, so whatever filters there are let all of them pass.
theorem rotation_serves_evenly (config : Config) (evaluated : Bool) (sinks : List (Sink (Listener χ)))
    (filters : List φ) {built p : Policy χ φ} (settings : build config evaluated sinks = .ok built)
    (reached : Reaches { built with filters } p) (rotation : UInt64) (judge : Judge φ σ) :
    let t := p.coordinator.registry.topology
    ∀ {services : List (Service φ)} {next : Policy χ φ} {state held : σ},
    Welcome judge filters (t.home ++ t.remote) →
    Serves judge t { p with planner := { p.planner with rotation } } state services next held →
    rotation.toNat + services.length + max t.home.length t.remote.length ≤ 2 ^ 64 →
    (∀ position < t.home.length, (∀ service ∈ services, position < service.draws.length) →
      (∀ service ∈ services, ∃ peer ∈ t.home, (yielded service.draws)[position]? = some peer) ∧
      (∀ first ∈ t.home, ∀ second ∈ t.home, seats services position first ≤ seats services position second + 1) ∧
      (services.length = t.home.length → ∀ peer ∈ t.home, seats services position peer = 1)) ∧
    (∀ position < t.remote.length, (∀ service ∈ services, t.home.length + position < service.draws.length) →
      (∀ service ∈ services, position < p.planner.remoteBudget service.request) →
      (∀ service ∈ services, ∃ peer ∈ t.remote, (yielded service.draws)[t.home.length + position]? = some peer) ∧
      ∀ first ∈ t.remote, ∀ second ∈ t.remote,
        seats services (t.home.length + position) first ≤ seats services (t.home.length + position) second + 1) := by
  intro t services next state held welcome path room
  have kept : Kept config p := reaches_kept (build_kept filters settings) reached
  have behind : p.filters = filters := reaches_filters reached
  let turned : Policy χ φ := { p with planner := { p.planner with rotation } }
  have begins : turned.planner = { p.planner with rotation := .ofNat rotation.toNat } := by rw [UInt64.ofNat_toNat]
  have rotated := serves_rotated begins (behind.symm ▸ welcome) path
  have walked := List.Nodup.of_map Peer.host kept.coherent.partitioned.walked_nodup
  obtain ⟨home, remote, _⟩ := List.nodup_append'.mp walked
  constructor
  · intro position inside deep
    have turns := rotated.home (by omega) inside deep
    exact ⟨turns.taken (by omega), turns.fair home, turns.around home⟩
  · intro position inside deep funded
    have turns := rotated.remote (by omega) inside deep funded
    exact ⟨turns.taken (by omega), turns.fair remote⟩

-- Two plans, pulled side by side, are the last for which the rotation does not overflow. Each has room for one
-- remote node.
theorem rotation_even_before_overflow :
    let config : Config := ⟨some "dc1", true, some 1, false⟩
    let judge : Judge Unit Unit := fun _ _ state => (.accept, state)
    let rotation : UInt64 := .ofNat (2 ^ 64 - 4)
    ∃ (built p next : Policy Unit Unit) (services : List (Service Unit)),
      let t := p.coordinator.registry.topology
      build config false [] = .ok built ∧ Reaches { built with filters := [()] } p ∧
      Welcome judge [()] (t.home ++ t.remote) ∧
      Serves judge t { p with planner := { p.planner with rotation } } () services next () ∧
      rotation.toNat + services.length + max t.home.length t.remote.length = 2 ^ 64 ∧
      services.map (fun service => yielded service.draws) =
        [[⟨⟨1⟩, 0⟩, ⟨⟨2⟩, 1⟩, ⟨⟨3⟩, 2⟩], [⟨⟨2⟩, 1⟩, ⟨⟨1⟩, 0⟩, ⟨⟨4⟩, 3⟩]] ∧
      (∀ peer ∈ t.home, seats services 1 peer = 1) ∧
      ∀ first ∈ t.remote, ∀ second ∈ t.remote, seats services 2 first ≤ seats services 2 second + 1 := by
  intro config judge rotation
  let node (host : BitVec 128) (datacenter : String) : Descriptor :=
    ⟨⟨host⟩, .v4 ⟨10, 0, 0, 1⟩ 9042, some datacenter, none⟩
  let idle : Coordinator Unit := .fresh ⟨true, false⟩ (some "dc1") []
  let built : Policy Unit Unit := ⟨config, idle, .ofConfig config, []⟩
  let opening : List (Move Unit) :=
    .call (.start [node 1 "dc1", node 2 "dc1", node 3 "dc2", node 4 "dc2"] []) :: List.replicate 18 .own
  let planned (c : Coordinator Unit) (offset : UInt64) : QueryPlan Unit :=
    ⟨.ofTopology c.registry.topology offset 1, [()]⟩
  let answers (c : Coordinator Unit) (offset : UInt64) : List Peer :=
    let first := (planned c offset).pull judge c.registry ()
    let second := first.2.1.pull judge c.registry ()
    yielded [⟨c.registry, first.1⟩, ⟨c.registry, second.1⟩, ⟨c.registry, (second.2.1.pull judge c.registry ()).1⟩]
  have shown : (idle.play opening).map (fun first =>
      let c := first.2
      let t := c.registry.topology
      (c.lifecycle, (t.home ++ t.remote).all c.registry.isEligible,
        [t.home, t.remote, answers c rotation, answers c (rotation + 1)])) =
        some (.ready, true, [[⟨⟨1⟩, 0⟩, ⟨⟨2⟩, 1⟩], [⟨⟨3⟩, 2⟩, ⟨⟨4⟩, 3⟩],
          [⟨⟨1⟩, 0⟩, ⟨⟨2⟩, 1⟩, ⟨⟨3⟩, 2⟩], [⟨⟨2⟩, 1⟩, ⟨⟨1⟩, 0⟩, ⟨⟨4⟩, 3⟩]]) := by
    decide +kernel
  obtain ⟨⟨_, c⟩, opened, seen⟩ := Option.map_eq_some_iff.mp shown
  simp only [Prod.mk.injEq, List.all_eq_true, List.cons.injEq, and_true] at seen
  obtain ⟨ready, fit, home, remote, early, late⟩ := seen
  let p : Policy Unit Unit := { built with coordinator := c, filters := [()] }
  have settings : build config false [] = .ok built := rfl
  have reached : Reaches { built with filters := [()] } p := runs_reach (Coordinator.play_exact.mp opened).1
  have welcome : Welcome judge [()] (c.registry.topology.home ++ c.registry.topology.remote) := fun _ _ _ _ _ => rfl
  let turned (offset : UInt64) : Policy Unit Unit := { p with planner := { p.planner with rotation := offset } }
  have made (offset : UInt64) : (turned offset).plan .plain = (planned c offset, turned (offset + 1)) := by
    simp only [plan, turned, p, ready, if_true]
    rfl
  have start : Serves judge c.registry.topology (turned rotation) () [] (turned rotation) () := .nil
  have one := start.plans .plain ready rfl
  rw [made] at one
  have two := one.plans .plain ready rfl
  rw [made] at two
  have first := (two.pulls 0 rfl fit rfl).pulls 1 rfl fit rfl
  have second := (first.pulls 0 rfl fit rfl).pulls 1 rfl fit rfl
  have path := (second.pulls 0 rfl fit rfl).pulls 1 rfl fit rfl
  have room : rotation.toNat + 2 + max c.registry.topology.home.length c.registry.topology.remote.length = 2 ^ 64 := by
    rw [home, remote]
    decide +kernel
  obtain ⟨near, far⟩ := rotation_serves_evenly config false [] [()] settings reached rotation judge welcome path room.le
  refine ⟨built, p, _, _, settings, reached, welcome, path, room, ?_, ?_, ?_⟩
  · exact congrArg₂ (fun one two => [one, two]) early late
  · exact (near 1 (by rw [home]; decide) (by simp)).2.2 (by rw [home]; rfl)
  · have funded : p.planner.remoteBudget .plain = 1 := rfl
    rw [home] at far
    exact (far 0 (by rw [remote]; decide) (by simp) (by simp [funded])).2

end Policy
end ClusterRouting
