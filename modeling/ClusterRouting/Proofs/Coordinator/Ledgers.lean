import ClusterRouting.Proofs.Coordinator.Conclusions

namespace ClusterRouting

-- Neither the rule nor the listeners change, and the evaluator always answers the same about a descriptor.
structure Setting (χ : Type) where
  rule : DistanceRule
  datacenter : String
  evaluate : Descriptor → String → Except Fault (Option Distance)
  listeners : List (Listener χ)

def Setting.choose {χ : Type} (s : Setting χ) (d : Descriptor) : Except Fault Distance :=
  if s.rule.evaluated then (s.evaluate d s.datacenter).map (s.rule.decide s.datacenter d)
  else .ok (s.rule.byDatacenter s.datacenter d)

section Choosing
variable {χ : Type} {s : Setting χ} {r : Registry} {e : Errand}

theorem Setting.perform_settled (settled : s.rule.evaluated = true → r.question? e = none) :
    r.perform (fun d => .ok (s.rule.byDatacenter s.datacenter d)) e = r.perform s.choose e := by
  cases evaluated : s.rule.evaluated with
  | true => exact Registry.perform_of_settled (settled evaluated)
  | false =>
    congr 1
    funext d
    simp [choose, evaluated]

theorem Setting.perform_answered {purpose : Purpose} {d : Descriptor} (evaluated : s.rule.evaluated = true)
    (asked : r.question? e = some (purpose, d)) :
    r.perform (fun _ => (s.evaluate d s.datacenter).map (s.rule.decide s.datacenter d)) e = r.perform s.choose e :=
  Registry.perform_of_asked asked (if_pos evaluated).symm

end Choosing

structure Telling (χ : Type) where
  child : Listener χ
  notice : Notice
  registry : Registry

-- The notice that follows when everybody has been told of an arrival.
def Notice.echo (r : Registry) : Notice → Option Notice
  | .added peer => (r.node? peer).map fun node => .distanceChanged peer node.distance
  | _ => none

namespace Setting
variable {χ : Type}

def tell (listeners : List (Listener χ)) (r : Registry) (notice : Notice) : List (Telling χ) :=
  listeners.map fun child => ⟨child, notice, r⟩

def echoed (s : Setting χ) (r : Registry) (notice : Notice) : List (Telling χ) :=
  ((notice.echo r).map (tell s.listeners r)).getD []

def spread (s : Setting χ) (r : Registry) : Option Notice → List (Telling χ)
  | none => []
  | some notice => tell s.listeners r notice ++ s.echoed r notice

end Setting

structure Ledger (χ : Type) where
  registry : Registry
  tellings : List (Telling χ)
  log : List LogRecord
  -- The errands that came to something, and those that the evaluator broke off.
  kept : List Errand
  lost : List (Errand × Fault)

namespace Ledger
variable {χ : Type} (s : Setting χ)

def enter (ledger : Ledger χ) (e : Errand) : Ledger χ :=
  match ledger.registry.perform s.choose e with
  | .ok (digest, registry) =>
    { ledger with
      registry
      tellings := ledger.tellings ++ s.spread registry digest.notice
      log := ledger.log ++ digest.records
      kept := ledger.kept ++ [e] }
  | .error fault => { ledger with log := ledger.log ++ [e.failure fault], lost := ledger.lost ++ [(e, fault)] }

def record (ledger : Ledger χ) (nodes : List Descriptor) : Ledger χ :=
  nodes.foldl (fun ledger d => ledger.enter s (.initial d)) ledger

def ready (ledger : Ledger χ) : Ledger χ :=
  { ledger with log := ledger.log ++ [.ready s.datacenter ledger.registry.size] }

def apply (ledger : Ledger χ) (commands : List Command) : Ledger χ :=
  commands.foldl (fun ledger command => ledger.enter s (.command command)) ledger

def opened (r : Registry) (nodes : List Descriptor) (contacts : List HostId) : Ledger χ where
  registry := r
  tellings := []
  log :=
    let elsewhere := (nodes.filter (·.host ∈ contacts)).filter (·.datacenter ≠ some s.datacenter)
    if elsewhere.isEmpty then [] else [.mismatched s.datacenter elsewhere]
  kept := []
  lost := []

def whole (r : Registry) (nodes : List Descriptor) (contacts : List HostId) (commands : List Command) : Ledger χ :=
  (((opened s r nodes contacts).record s nodes).ready s).apply s commands

section Entering
variable {s} {ledger : Ledger χ} {e : Errand}

theorem enter_ok {digest : Digest} {registry : Registry} (done : ledger.registry.perform s.choose e = .ok (digest, registry)) :
    ledger.enter s e = { ledger with
      registry
      tellings := ledger.tellings ++ s.spread registry digest.notice
      log := ledger.log ++ digest.records
      kept := ledger.kept ++ [e] } := by
  simp only [enter, done]

theorem enter_error {fault : Fault} (broken : ledger.registry.perform s.choose e = .error fault) :
    ledger.enter s e =
      { ledger with log := ledger.log ++ [e.failure fault], lost := ledger.lost ++ [(e, fault)] } := by
  simp only [enter, broken]

theorem enter_registry (s : Setting χ) (ledger : Ledger χ) (e : Errand) :
    (ledger.enter s e).registry = ledger.registry.after (ledger.registry.perform s.choose e) := by
  unfold enter
  split
  · rename_i done
    rw [done]
    rfl
  · rename_i broken
    rw [broken]
    rfl

end Entering

end Ledger

namespace Coordinator
variable {χ : Type}

def Moment.telling? (moment : Moment χ) : Option (Telling χ) :=
  moment.told.map fun told => ⟨told.1, told.2, moment.before.registry⟩

-- The errand that is given up because the evaluator breaks off.
def Moment.lost? (moment : Moment χ) : Option (Errand × Fault) :=
  match moment.move, moment.before.stack with
  | .call made, .work (.evaluating _ purpose d) :: _ =>
    match made.verdict? with
    | some (.error fault) => some (purpose.errand d, fault)
    | _ => none
  | _, _ => none

def tellings (moments : List (Moment χ)) : List (Telling χ) := moments.filterMap Moment.telling?

def lost (moments : List (Moment χ)) : List (Errand × Fault) := moments.filterMap Moment.lost?

-- The errands that were taken up and not given up. It is always the last one that is.
def kept (moments : List (Moment χ)) : List Errand :=
  moments.foldl (fun errands moment =>
    if moment.lost?.isSome then errands.dropLast else errands ++ moment.errand?.toList) []

section Snoc
variable (moments : List (Moment χ)) (moment : Moment χ)

theorem tellings_snoc : tellings (moments ++ [moment]) = tellings moments ++ moment.telling?.toList := by
  simp only [tellings, List.filterMap_append]
  cases told : moment.telling? <;> simp [told]

theorem lost_snoc : lost (moments ++ [moment]) = lost moments ++ moment.lost?.toList := by
  simp only [lost, List.filterMap_append]
  cases broken : moment.lost? <;> simp [broken]

theorem kept_snoc :
    kept (moments ++ [moment]) =
      if moment.lost?.isSome then (kept moments).dropLast else kept moments ++ moment.errand?.toList := by
  simp [kept]

end Snoc

end Coordinator
end ClusterRouting
