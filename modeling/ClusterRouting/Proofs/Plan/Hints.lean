import ClusterRouting.Proofs.Plan.Course
import ClusterRouting.Plan.Query
import Mathlib.Data.Nat.PSub

namespace ClusterRouting

namespace Walk

-- The hint in machine words, the lower bound first. There is none where a difference or the sum is not a word.
def sizeHint (walk : Walk) : Option (Nat × Option Nat) := do
  let homeLeft ← walk.home.length.psub walk.homeCursor
  let remoteLeft ← walk.remote.length.psub walk.remoteCursor
  let upper := homeLeft + min remoteLeft walk.budget
  guard (upper < UInt64.size)
  return (0, some upper)

theorem sizeHint_eq {walk : Walk} (sound : walk.Sound) (fits : walk.bound < UInt64.size) :
    walk.sizeHint = some (0, some walk.bound) := by
  simp only [bound, homeLeft, remoteLeft] at fits ⊢
  simp [sizeHint, Nat.psub_eq_sub sound.home, Nat.psub_eq_sub sound.remote, guard, fits]

theorem bound_eq (walk : Walk) :
    walk.bound = walk.homePending.length + min walk.remotePending.length walk.budget := by
  simp [bound, homeLeft, remoteLeft, homePending, remotePending]

theorem bound_ofTopology_le (t : Topology) (offset : UInt64) (budget : Nat) :
    (ofTopology t offset budget).bound ≤ t.home.length + t.remote.length := by
  simp only [bound, homeLeft, remoteLeft, ofTopology]
  omega

section Advanced
variable {walk after : Walk} {r : Registry} {examined : List Peer} {answer : Option Peer}

theorem Serves.length_le {passes : Peer → Bool} {pending skipped rest : List Peer}
    (serves : Serves passes pending skipped answer rest) :
    answer.toList.length + rest.length ≤ pending.length := by
  rw [serves.order, List.length_append, List.length_append]
  omega

theorem Advance.bound_le (advance : Advance walk r examined answer after) :
    answer.toList.length + after.bound ≤ walk.bound := by
  rw [bound_eq, bound_eq]
  cases advance with
  | home serves still budget =>
    have served := serves.length_le
    rw [still, budget]
    omega
  | spent serves still budget =>
    have served := serves.length_le
    rw [still, budget]
    omega
  | remote through serves budget =>
    have passed := through.length_le
    have served := serves.length_le
    simp only [Option.toList_some, List.length_singleton] at served ⊢
    omega
  | through through serves budget =>
    have passed := through.length_le
    have served := serves.length_le
    rw [budget]
    omega

theorem Advance.bound_eq_zero (advance : Advance walk r examined none after) : after.bound = 0 := by
  rw [bound_eq]
  cases advance with
  | spent serves still budget empty => simp [serves.through rfl, budget, empty]
  | through through serves => simp [through.through rfl, serves.through rfl]

end Advanced

end Walk

namespace QueryPlan
variable {φ σ : Type}

-- A filter keeps the upper bound of what it lies around, and promises no node.
def sizeHint (plan : QueryPlan φ) : Option (Nat × Option Nat) :=
  plan.filters.foldl (fun inside _ => inside.map fun (_, upper) => (0, upper)) plan.walk.sizeHint

theorem sizeHint_of_walk {plan : QueryPlan φ} {upper : Option Nat}
    (hint : plan.walk.sizeHint = some (0, upper)) : plan.sizeHint = some (0, upper) := by
  rw [sizeHint, hint]
  exact List.foldl_fixed' (fun _ => rfl) plan.filters

-- What pulls leave of a bound. One that finds nothing leaves nothing; any other takes a candidate at least, also if
-- a filter breaks off and loses it.
structure Spends (before : Nat) (pulls : List Pulled) (after : Nat) : Prop where
  paid : pulls.countP (· ≠ .exhausted) + after ≤ before
  ended : .exhausted ∈ pulls → after = 0

section Spends
variable {before middle after : Nat} {pulled : Pulled} {pulls later : List Pulled}

theorem Spends.refl (bound : Nat) : Spends bound [] bound := ⟨by simp, nofun⟩

theorem Spends.nothing (none : after = 0) : Spends before [.exhausted] after := ⟨by simp [none], fun _ => none⟩

theorem Spends.taken (found : pulled ≠ .exhausted) (less : after < before) : Spends before [pulled] after := by
  refine ⟨?_, fun ended => absurd (List.mem_singleton.mp ended).symm found⟩
  simp only [List.countP_singleton, found, ne_eq, not_false_eq_true, decide_true, if_true]
  omega

theorem Spends.bound_le (spends : Spends before pulls after) : after ≤ before := Nat.le_of_add_left_le spends.paid

theorem Spends.mono (less : middle ≤ before) (spends : Spends middle pulls after) : Spends before pulls after :=
  ⟨spends.paid.trans less, spends.ended⟩

theorem Spends.append (first : Spends before pulls middle) (second : Spends middle later after) :
    Spends before (pulls ++ later) after := by
  have early := first.paid
  have late := second.paid
  refine ⟨by rw [List.countP_append]; omega, fun ended => ?_⟩
  rcases List.mem_append.mp ended with early | late
  · exact Nat.le_zero.mp (first.ended early ▸ second.bound_le)
  · exact second.ended late

theorem Spends.fused (spends : Spends 0 pulls after) : after = 0 ∧ ∀ pulled ∈ pulls, pulled = .exhausted := by
  have paid := spends.paid
  have none : pulls.countP (· ≠ .exhausted) = 0 := by omega
  exact ⟨by omega, by simpa [List.countP_eq_zero] using none⟩

end Spends

theorem pull_spends (judge : Judge φ σ) (r : Registry) (plan : QueryPlan φ) (state : σ) (sound : plan.walk.Sound) :
    (pull judge r plan state).2.1.walk.Sound ∧
      Spends plan.bound [(pull judge r plan state).1] (pull judge r plan state).2.1.bound := by
  fun_induction pull judge r plan state with
  | case1 plan state after found =>
    obtain ⟨still, advance⟩ := Walk.next_advance sound found
    exact ⟨still, .nothing advance.bound_eq_zero⟩
  | case2 plan state peer after found left passed =>
    obtain ⟨still, advance⟩ := Walk.next_advance sound found
    exact ⟨still, .taken nofun (Nat.one_add_le_iff.mp advance.bound_le)⟩
  | case3 plan state peer after found fault left broken =>
    obtain ⟨still, advance⟩ := Walk.next_advance sound found
    exact ⟨still, .taken nofun (Nat.one_add_le_iff.mp advance.bound_le)⟩
  | case4 plan state peer after found left refused ih =>
    obtain ⟨still, advance⟩ := Walk.next_advance sound found
    obtain ⟨last, spends⟩ := ih still
    exact ⟨last, spends.mono (Nat.le_of_add_left_le advance.bound_le)⟩

inductive Turn (φ : Type) where
  | pull
  | write (write : Registry.Write)
  | filtered (filter : φ)

structure Consumption (φ σ : Type) where
  plan : QueryPlan φ
  registry : Registry
  state : σ

namespace Consumption

-- Filters see the live records, so what they say may depend on the registry.
def turn (judge : Registry → Judge φ σ) (now : Consumption φ σ) : Turn φ → Option Pulled × Consumption φ σ
  | .pull =>
    let (pulled, plan, state) := now.plan.pull (judge now.registry) now.registry now.state
    (some pulled, { now with plan, state })
  | .write write => (none, { now with registry := write.apply now.registry })
  | .filtered filter => (none, { now with plan := now.plan.filtered filter })

def run (judge : Registry → Judge φ σ) (now : Consumption φ σ) : List (Turn φ) → List Pulled × Consumption φ σ
  | [] => ([], now)
  | turn :: later =>
    let (pulled, next) := now.turn judge turn
    let (pulls, last) := next.run judge later
    (pulled.toList ++ pulls, last)

variable (judge : Registry → Judge φ σ) {now : Consumption φ σ}

theorem turn_spends (sound : now.plan.walk.Sound) (turn : Turn φ) :
    (now.turn judge turn).2.plan.walk.Sound ∧
      Spends now.plan.bound (now.turn judge turn).1.toList (now.turn judge turn).2.plan.bound := by
  cases turn with
  | pull => exact pull_spends (judge now.registry) now.registry now.plan now.state sound
  | write write => exact ⟨sound, .refl _⟩
  | filtered filter => exact ⟨sound, .refl _⟩

theorem run_spends (sound : now.plan.walk.Sound) (turns : List (Turn φ)) :
    (now.run judge turns).2.plan.walk.Sound ∧
      Spends now.plan.bound (now.run judge turns).1 (now.run judge turns).2.plan.bound := by
  induction turns generalizing now with
  | nil => exact ⟨sound, .refl _⟩
  | cons turn later ih =>
    obtain ⟨still, first⟩ := turn_spends judge sound turn
    obtain ⟨last, others⟩ := ih still
    exact ⟨last, first.append others⟩

theorem sizeHint_of_run (sound : now.plan.walk.Sound) (fits : now.plan.bound < UInt64.size) (turns : List (Turn φ)) :
    (now.run judge turns).2.plan.sizeHint = some (0, some (now.run judge turns).2.plan.bound) := by
  obtain ⟨last, spends⟩ := run_spends judge sound turns
  exact sizeHint_of_walk (Walk.sizeHint_eq last (spends.bound_le.trans_lt fits))

end Consumption

-- Every pull that finds something costs the bound at least one, and none lets it grow. Filters may be put around the
-- plan at any time, and the view need not be one of the registry that is read.
theorem hints_bound_what_comes (t : Topology) (offset : UInt64) (budget : Nat)
    (fits : t.home.length + t.remote.length < UInt64.size) (judge : Registry → Judge φ σ) (r : Registry) (state : σ)
    (earlier : List (Turn φ)) :
    let opened : Consumption φ σ := ⟨.ofWalk (.ofTopology t offset budget), r, state⟩
    let soFar := opened.run judge earlier
    let now := soFar.2
    now.plan.sizeHint = some (0, some now.plan.bound) ∧
    ∀ later,
      let onward := now.run judge later
      onward.1.countP (· ≠ .exhausted) + onward.2.plan.bound ≤ now.plan.bound ∧
      (.exhausted ∈ soFar.1 →
        onward.2.plan.sizeHint = some (0, some 0) ∧ ∀ pulled ∈ onward.1, pulled = .exhausted) := by
  intro opened soFar now
  have sound : opened.plan.walk.Sound := Walk.ofTopology_sound t offset budget
  have enough : opened.plan.bound < UInt64.size := (Walk.bound_ofTopology_le t offset budget).trans_lt fits
  obtain ⟨still, spends⟩ := Consumption.run_spends judge sound earlier
  have bounded : now.plan.bound < UInt64.size := spends.bound_le.trans_lt enough
  refine ⟨Consumption.sizeHint_of_run judge sound enough earlier, fun later => ?_⟩
  have further := (Consumption.run_spends judge still later).2
  refine ⟨further.paid, fun ended => ?_⟩
  -- what comes later has nothing left to pay with
  rw [spends.ended ended] at further
  obtain ⟨none, exhausted⟩ := further.fused
  have hint := Consumption.sizeHint_of_run judge still bounded later
  exact ⟨none ▸ hint, exhausted⟩

-- The walk starts at the last offset and goes over. The filter breaks off at the remote host, which takes the budget
-- with it; the home host that was passed over while it was down is up again afterwards.
theorem recovered_host_comes_too_late :
    let r := Walk.trio .home .remote .home
    let t := r.topology
    let judge : Registry → Judge HostId Unit := fun _ avoided peer state =>
      (if peer.host = avoided then .throw (.message "boom") else .accept, state)
    let opened : Consumption HostId Unit := ⟨.ofWalk (.ofTopology t (.ofNat (2 ^ 64 - 1)) 1), r, ()⟩
    let soFar := opened.run judge
      [.filtered ⟨1⟩, .pull, .write (.setHealth ⟨0⟩ .down), .pull, .pull, .write (.setHealth ⟨0⟩ .up)]
    t.home.length + t.remote.length < UInt64.size ∧
    soFar.1 = [.node ⟨⟨2⟩, 2⟩, .fault (.message "boom"), .exhausted] ∧
    soFar.2.registry.isEligible ⟨⟨0⟩, 0⟩ = true ∧
    ∀ later,
      let onward := soFar.2.run judge later
      onward.2.plan.sizeHint = some (0, some 0) ∧ ∀ pulled ∈ onward.1, pulled = .exhausted := by
  intro r t judge opened soFar
  have fits : t.home.length + t.remote.length < UInt64.size := by decide
  have shown : soFar.1 = [.node ⟨⟨2⟩, 2⟩, .fault (.message "boom"), .exhausted] := by decide +kernel
  have recovered : soFar.2.registry.isEligible ⟨⟨0⟩, 0⟩ = true := by decide +kernel
  have ended : .exhausted ∈ soFar.1 := by rw [shown]; simp
  refine ⟨fits, shown, recovered, fun later => ?_⟩
  exact ((hints_bound_what_comes t (.ofNat (2 ^ 64 - 1)) 1 fits judge r () _).2 later).2 ended

end QueryPlan
end ClusterRouting
