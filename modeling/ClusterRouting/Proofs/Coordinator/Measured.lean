import ClusterRouting.Proofs.Coordinator.Placements

namespace ClusterRouting

-- What the rule comes to, if the evaluator looks at nothing but the host and the datacenters.
def DistanceRule.measure (rule : DistanceRule)
    (evaluate : HostId → Option String → String → Except Fault (Option Distance)) (datacenter : String)
    (d : Descriptor) : Except Fault Distance :=
  if rule.evaluated then (evaluate d.host d.datacenter datacenter).map (rule.decide datacenter d)
  else .ok (rule.byDatacenter datacenter d)

-- Nobody reports a distance, and the evaluator goes by this function.
def Coordinator.Moment.ruled {χ : Type} (evaluate : HostId → Option String → String → Except Fault (Option Distance))
    (moment : Moment χ) : Bool :=
  match moment.move, moment.before.stack with
  | .call (.submit (.report ..)), _ => false
  | .call made, .work (.evaluating datacenter _ d) :: _ =>
    made.verdict?.all fun verdict => decide (verdict = evaluate d.host d.datacenter datacenter)
  | _, _ => true

section Measuring
variable {evaluate : HostId → Option String → String → Except Fault (Option Distance)} {rule : DistanceRule}
variable {datacenter : String}

theorem DistanceRule.measure_congr {d e : Descriptor} (host : d.host = e.host) (same : d.datacenter = e.datacenter) :
    rule.measure evaluate datacenter d = rule.measure evaluate datacenter e := by
  have decided : rule.decide datacenter d = rule.decide datacenter e := by
    funext opinion
    simp only [decide, byDatacenter, same]
  simp only [measure, decided, byDatacenter, host, same]

theorem DistanceRule.measure_of_unevaluated (alone : rule.evaluated = false) (d : Descriptor) :
    rule.measure evaluate datacenter d = .ok (rule.byDatacenter datacenter d) := by
  simp [measure, alone]

theorem DistanceRule.byDatacenter_home {d : Descriptor} :
    rule.byDatacenter datacenter d = .home ↔ d.datacenter = some datacenter := by
  unfold byDatacenter
  split
  · simp_all
  · split <;> simp_all

theorem DistanceRule.byDatacenter_ne_remote {d : Descriptor} (kept : rule.allowRemote = false) :
    rule.byDatacenter datacenter d ≠ .remote := by
  unfold byDatacenter
  split <;> simp [kept]

theorem Errand.becomes_measured {e : Errand} {known : Option Node} {after : Node}
    (unreported : ∀ host distance, e ≠ .command (.report host distance))
    (measured : ∀ node ∈ known, node.descriptor.host = e.host ∧
      rule.measure evaluate datacenter node.descriptor = .ok node.distance)
    (becomes : e.becomes (rule.measure evaluate datacenter) known = some after) :
    rule.measure evaluate datacenter after.descriptor = .ok after.distance := by
  have described : ∀ d : Descriptor, d.host = e.host →
      d.becomes (rule.measure evaluate datacenter) known = some after →
      rule.measure evaluate datacenter after.descriptor = .ok after.distance := by
    intro d about becomes
    cases known with
    | none =>
      simp only [Descriptor.becomes] at becomes
      cases decided : rule.measure evaluate datacenter d with
      | error fault => simp [decided, Except.toOption] at becomes
      | ok distance =>
        rw [decided] at becomes
        cases becomes
        exact decided
    | some node =>
      obtain ⟨host, before⟩ := measured node rfl
      simp only [Descriptor.becomes] at becomes
      split at becomes
      · rename_i near
        cases becomes
        exact (DistanceRule.measure_congr (about.trans host.symm) near.symm).trans before
      · cases decided : rule.measure evaluate datacenter d with
        | error fault =>
          rw [decided] at becomes
          cases becomes
          exact before
        | ok distance =>
          rw [decided] at becomes
          cases becomes
          exact decided
  cases e with
  | initial d => exact described d rfl becomes
  | command command =>
    cases command with
    | report host distance => exact absurd rfl (unreported host distance)
    | event event =>
      cases event with
      | added d => exact described d rfl becomes
      | removed => cases becomes
      | reevaluate host =>
        obtain ⟨node, rfl, same⟩ := Option.map_eq_some_iff.mp becomes
        obtain ⟨_, before⟩ := measured node rfl
        rw [before] at same
        cases same
        exact before
      | _ =>
        obtain ⟨node, rfl, rfl⟩ := Option.map_eq_some_iff.mp becomes
        exact (measured node rfl).2

end Measuring

namespace Registry

def Measured (measure : Descriptor → Except Fault Distance) (r : Registry) : Prop :=
  ∀ host peer node, r.find? host = some (peer, node) → measure node.descriptor = .ok node.distance

section Measuring
variable {evaluate : HostId → Option String → String → Except Fault (Option Distance)} {rule : DistanceRule}
variable {datacenter : String} {r : Registry}

theorem Measured.perform (valid : r.Coherent) (measured : r.Measured (rule.measure evaluate datacenter)) {e : Errand}
    (unreported : ∀ host distance, e ≠ .command (.report host distance)) :
    (r.after (r.perform (rule.measure evaluate datacenter) e)).Measured (rule.measure evaluate datacenter) := by
  intro host peer after found
  have status := status_perform valid (rule.measure evaluate datacenter) e host
  rw [status_of_found found] at status
  by_cases about : host = e.host
  · rw [if_pos about] at status
    refine Errand.becomes_measured unreported ?_ status.symm
    intro node known
    obtain ⟨⟨other, _⟩, before, rfl⟩ := Option.map_eq_some_iff.mp known
    exact ⟨(valid.named before).trans about, measured _ _ _ before⟩
  · rw [if_neg about] at status
    obtain ⟨⟨other, _⟩, before, rfl⟩ := Option.map_eq_some_iff.mp status.symm
    exact measured _ _ _ before

theorem assigned_same (valid : r.Coherent) {host : HostId} {peer : Peer} {node : Node}
    (found : r.find? host = some (peer, node)) : r.assigned peer node.distance = (.silent, r) := by
  obtain rfl := find?_host found
  have entered := (valid.entered found).1
  simp [assigned, setDistance, entered]

theorem Coherent.mem_group (valid : r.Coherent) (distance : Distance) {peer : Peer} :
    peer ∈ r.topology.group distance ↔ ∃ node, r.find? peer.host = some (peer, node) ∧ node.distance = distance := by
  constructor
  · intro member
    have entered := (valid.partitioned.mem_group distance peer).mp member
    have known := peer?_of_entered (valid.partitioned.entry?_of_mem entered)
    obtain ⟨node, found⟩ := valid.find?_of_peer? known
    exact ⟨node, found, ((valid.mem_group_iff found distance).mp member).symm⟩
  · rintro ⟨node, found, rfl⟩
    exact (valid.mem_group_iff found _).mpr rfl

theorem Measured.reevaluate (valid : r.Coherent) (measured : r.Measured (rule.measure evaluate datacenter))
    (host : HostId) :
    r.perform (rule.measure evaluate datacenter) (.command (.event (.reevaluate host))) =
      .ok (if (r.find? host).isSome then .silent else .logged (.reevaluationOfUnknown host), r) := by
  cases found : r.find? host with
  | none => simp [Registry.perform, found]
  | some known =>
    obtain ⟨peer, node⟩ := known
    have decided := measured host peer node found
    simp [Registry.perform, found, decided, Except.map, assigned_same valid found]

end Measuring

end Registry

namespace Coordinator
variable {χ : Type}

-- What a job goes by: the datacenter of the coordinator, and a question that is still open.
def Heeds (c : Coordinator χ) : Job → Prop
  | .populating datacenter _ => c.datacenter = some datacenter
  | .evaluating datacenter purpose d =>
    c.datacenter = some datacenter ∧ c.rule.evaluated = true ∧ c.registry.question? (purpose.errand d) = some (purpose, d)
  | .draining | .assigning _ => True

def Heeded (c : Coordinator χ) (stack : List (Frame (Listener χ) Notice Job)) : Prop :=
  ∀ job, .work job ∈ stack → c.Heeds job

structure Measured (evaluate : HostId → Option String → String → Except Fault (Option Distance))
    (c : Coordinator χ) : Prop where
  nodes : ∀ datacenter, c.datacenter = some datacenter → c.registry.Measured (c.rule.measure evaluate datacenter)
  located : ∀ host peer node, c.registry.find? host = some (peer, node) → c.datacenter.isSome
  created : c.lifecycle = .created → c.datacenter = none
  queue : ∀ command ∈ c.queue, ∃ event, command = .event event
  jobs : c.Heeded c.stack

section Heeding
variable {c : Coordinator χ} {stack : List (Frame (Listener χ) Notice Job)} {job : Job} {notice : Notice}

@[simp] theorem heeded_work : c.Heeded (.work job :: stack) ↔ c.Heeds job ∧ c.Heeded stack := by
  simp [Heeded]

@[simp] theorem heeded_round {waiting : List (Listener χ)} :
    c.Heeded (.round notice waiting :: stack) ↔ c.Heeded stack := by
  simp [Heeded]

@[simp] theorem heeded_inside {child : Listener χ} : c.Heeded (.inside child notice :: stack) ↔ c.Heeded stack := by
  simp [Heeded]

theorem told_work {listeners : List (Listener χ)} {notice : Option Notice} (member : .work job ∈ told listeners notice) :
    ∃ peer, job = .assigning peer := by
  cases notice with
  | none => cases member
  | some notice => cases notice <;> simp_all [told, Notice.sequel]

theorem mem_afoot_work : .work job ∈ afoot stack ↔ .work job ∈ stack := by
  cases job <;> simp [afoot, Frame.role]

-- Nothing is asked while there is nobody but those who take commands.
theorem unasked_of_taking {below : List Job} (held : afoot stack = below.map .work)
    (taking : ∀ job ∈ below, job.takesCommands = true) (datacenter : String) (purpose : Purpose) (d : Descriptor) :
    .work (.evaluating datacenter purpose d) ∉ stack := by
  rw [← mem_afoot_work, held, List.mem_map]
  rintro ⟨job, listed, same⟩
  cases same
  cases taking _ listed

end Heeding

section Measuring
variable {evaluate : HostId → Option String → String → Except Fault (Option Distance)}
variable {c next inner : Coordinator χ} {move : Move χ} {datacenter : String} {e : Errand}

theorem Moment.ruled_unreported (ruled : Moment.ruled evaluate ⟨c, move⟩ = true) (host : HostId) (distance : Distance) :
    move ≠ .call (.submit (.report host distance)) := by
  rintro rfl
  cases ruled

theorem Moment.ruled_answers {made : Call χ} {verdict : Except Fault (Option Distance)} {purpose : Purpose}
    {d : Descriptor} {rest : List (Frame (Listener χ) Notice Job)}
    (ruled : Moment.ruled evaluate ⟨c, .call made⟩ = true) (given : made.verdict? = some verdict)
    (top : c.stack = .work (.evaluating datacenter purpose d) :: rest) :
    verdict = evaluate d.host d.datacenter datacenter := by
  cases made with
  | answer | throw =>
    cases given
    simpa [Moment.ruled, top, Call.verdict?] using ruled
  | _ => cases given

theorem fresh_measured (rule : DistanceRule) (configured : Option String) (listeners : List (Listener χ)) :
    Measured evaluate (fresh rule configured listeners) where
  nodes := fun _ located => by cases located
  located := fun _ _ _ found => by cases found
  created := fun _ => rfl
  queue := fun _ member => by cases member
  jobs := fun _ member => by cases member

theorem Measured.stays (measured : Measured evaluate c) (rule : next.rule = c.rule) (registry : next.registry = c.registry)
    (datacenter : next.datacenter = c.datacenter) (lifecycle : next.lifecycle = .created → c.lifecycle = .created)
    (queue : ∀ command ∈ next.queue, ∃ event, command = .event event) (jobs : c.Heeded next.stack) :
    Measured evaluate next where
  nodes := by
    rw [rule, registry, datacenter]
    exact measured.nodes
  located := by
    rw [registry, datacenter]
    exact measured.located
  created := fun fresh => datacenter.trans (measured.created (lifecycle fresh))
  queue := queue
  jobs := by
    intro job member
    have same : next.Heeds job = c.Heeds job := by cases job <;> simp only [Heeds, rule, registry, datacenter]
    rw [same]
    exact jobs job member

theorem Measured.turns (measured : Measured evaluate c) {stack : List (Frame (Listener χ) Notice Job)} {meters : Meters}
    {log : List LogRecord} {answer : Option (Except RoutingError Unit)} (jobs : c.Heeded stack) :
    Measured evaluate { c with stack := stack, meters := meters, log := log, answer := answer } :=
  measured.stays rfl rfl rfl id measured.queue jobs

theorem Measured.rest (measured : Measured evaluate c) {frame : Frame (Listener χ) Notice Job}
    {rest : List (Frame (Listener χ) Notice Job)} (top : c.stack = frame :: rest) : c.Heeded rest :=
  fun job member => measured.jobs job (top ▸ List.mem_cons_of_mem _ member)

theorem Measured.concludes (measured : Measured evaluate inner) (valid : inner.registry.Coherent)
    (located : inner.datacenter = some datacenter)
    (unasked : ∀ asked purpose d, .work (.evaluating asked purpose d) ∉ inner.stack)
    (unreported : ∀ host distance, e ≠ .command (.report host distance)) :
    Measured evaluate (inner.conclude e (inner.registry.perform (inner.rule.measure evaluate datacenter) e)) := by
  have kept := Registry.Measured.perform valid (measured.nodes datacenter located) unreported
  cases done : inner.registry.perform (inner.rule.measure evaluate datacenter) e with
  | error fault => exact measured.turns measured.jobs
  | ok result =>
    obtain ⟨digest, registry⟩ := result
    rw [done] at kept
    refine ⟨?_, fun _ _ _ _ => by simp [conclude, located], measured.created, measured.queue, ?_⟩
    · intro other same
      cases located.symm.trans same
      exact kept
    · intro job member
      rcases List.mem_append.mp member with new | old
      · obtain ⟨peer, rfl⟩ := told_work new
        trivial
      · have heeds := measured.jobs job old
        cases job with
        | evaluating asked purpose d => exact absurd old (unasked asked purpose d)
        | _ => exact heeds

theorem takeUp_measures (evaluate : HostId → Option String → String → Except Fault (Option Distance))
    (inner : Coordinator χ) (datacenter : String) (e : Errand) :
    (∃ purpose d, inner.rule.evaluated = true ∧ inner.registry.question? e = some (purpose, d) ∧
      inner.takeUp datacenter e = inner.begin (.evaluating datacenter purpose d)) ∨
    inner.takeUp datacenter e =
      inner.conclude e (inner.registry.perform (inner.rule.measure evaluate datacenter) e) := by
  have taken := takeUp_exact inner datacenter e
  generalize inner.takeUp datacenter e = next at taken ⊢
  cases taken with
  | @asks purpose d evaluated asked => exact .inl ⟨purpose, d, evaluated, asked, rfl⟩
  | concludes settled =>
    right
    congr 1
    apply Registry.perform_congr
    intro purpose d asked
    cases evaluated : inner.rule.evaluated with
    | true => cases (settled evaluated).symm.trans asked
    | false => exact (DistanceRule.measure_of_unevaluated evaluated d).symm

theorem Measured.takesUp (measured : Measured evaluate inner) (valid : inner.registry.Coherent)
    (located : inner.datacenter = some datacenter) {below : List Job} (held : afoot inner.stack = below.map .work)
    (taking : ∀ job ∈ below, job.takesCommands = true)
    (unreported : ∀ host distance, e ≠ .command (.report host distance)) :
    Measured evaluate (inner.takeUp datacenter e) := by
  rcases takeUp_measures evaluate inner datacenter e with ⟨purpose, d, evaluated, asked, taken⟩ | taken
  · rw [taken]
    have heeds : inner.Heeds (.evaluating datacenter purpose d) :=
      ⟨located, evaluated, by rwa [Registry.question?_errand asked]⟩
    exact measured.turns (heeded_work.mpr ⟨heeds, measured.jobs⟩)
  · rw [taken]
    exact measured.concludes valid located (unasked_of_taking held taking) unreported

theorem Measured.answers (measured : Measured evaluate c) {made : Call χ} {verdict : Except Fault (Option Distance)}
    {purpose : Purpose} {d : Descriptor} {rest : List (Frame (Listener χ) Notice Job)}
    (ruled : Moment.ruled evaluate ⟨c, .call made⟩ = true) (given : made.verdict? = some verdict)
    (top : c.stack = .work (.evaluating datacenter purpose d) :: rest) (answered : c.evaluated? verdict = some next) :
    next = conclude { c with stack := rest } (purpose.errand d)
      (c.registry.perform (c.rule.measure evaluate datacenter) (purpose.errand d)) := by
  obtain ⟨_, evaluated, asked⟩ := measured.jobs (.evaluating datacenter purpose d) (by simp [top])
  have aware : ∀ peer, purpose = .again peer → ∃ node, c.registry.find? peer.host = some (peer, node) := by
    rintro peer rfl
    exact Registry.find?_of_asked_again asked
  rw [evaluated_concludes answered top aware]
  congr 1
  apply Registry.perform_of_asked asked
  simp only [DistanceRule.measure, evaluated, if_true, Moment.ruled_answers ruled given top]

theorem Measured.starts (measured : Measured evaluate c) (staged : Staged c .idle) (created : c.lifecycle = .created)
    (nodes : List Descriptor) (datacenter : String) (log : List LogRecord) :
    Measured evaluate { c with
      lifecycle := .initializing, datacenter := some datacenter, log := log,
      stack := .work (.populating datacenter nodes) :: c.stack } := by
  refine ⟨?_, fun _ _ _ _ => rfl, by simp, measured.queue, heeded_work.mpr ⟨rfl, ?_⟩⟩
  · intro other _ host peer node found
    have located := measured.located host peer node found
    rw [measured.created created] at located
    cases located
  · intro job member
    rw [← mem_afoot_work, staged.afoot] at member
    cases member

theorem step_measured (tended : Tended c) (measured : Measured evaluate c) (step : Step c move next)
    (mediated : move.direct = false) (ruled : Moment.ruled evaluate ⟨c, move⟩ = true) : Measured evaluate next := by
  obtain ⟨stage, staged⟩ := tended.staged
  have entering : ∀ {command}, move = .call (.submit command) →
      ∀ other ∈ c.queue ++ [command], ∃ event, other = .event event := by
    intro command submits other member
    rcases List.mem_append.mp member with old | new
    · exact measured.queue other old
    · cases List.mem_singleton.mp new
      cases command with
      | event event => exact ⟨event, rfl⟩
      | report host distance => exact absurd submits (Moment.ruled_unreported ruled host distance)
  have waited : ∀ {command later}, c.queue = command :: later → ∀ other ∈ later, ∃ event, other = .event event :=
    fun waiting other member => measured.queue other (waiting ▸ List.mem_cons_of_mem _ member)
  cases step_advance step with
  | tells top => exact measured.turns (by simpa using measured.rest top)
  | finishes top => exact measured.turns (measured.rest top)
  | observes top => exact measured.turns (measured.rest top)
  | returns _ top => exact measured.turns (measured.rest top)
  | assigns top => exact measured.turns (by simpa using measured.rest top)
  | misses top => exact measured.turns (measured.rest top)
  | @records datacenter d left rest top =>
    obtain ⟨rfl, below⟩ := Stage.of_populating (staged.top top (afoot_work _))
    have located : c.datacenter = some datacenter := measured.jobs (.populating datacenter (d :: left)) (by simp [top])
    let opened : Coordinator χ := { c with stack := .work (.populating datacenter left) :: rest }
    have recording : Measured evaluate opened := measured.turns (heeded_work.mpr ⟨located, measured.rest top⟩)
    have held : afoot opened.stack = [Job.populating datacenter left].map .work := by simp [opened, below]
    exact recording.takesUp (e := .initial d) tended.coherent located held (by simp [Job.takesCommands]) (by simp)
  | readies top =>
    exact measured.stays rfl rfl rfl (by simp) measured.queue (heeded_work.mpr ⟨trivial, measured.rest top⟩)
  | abandons top => exact measured.turns (measured.rest top)
  | @applies command later rest datacenter top waiting ready located =>
    obtain ⟨rfl, below⟩ := Stage.of_draining (staged.top top (afoot_work _))
    have popped : Measured evaluate { c with queue := later } :=
      measured.stays rfl rfl rfl id (waited waiting) measured.jobs
    have held : afoot c.stack = [Job.draining].map .work := staged.afoot
    obtain ⟨event, rfl⟩ := measured.queue command (by simp [waiting])
    exact popped.takesUp (e := .command (.event event)) tended.coherent located held (by simp [Job.takesCommands])
      (by simp)
  | drops top waiting => exact measured.stays rfl rfl rfl id (waited waiting) measured.jobs
  | drains top => exact measured.turns (measured.rest top)
  | @answers made verdict datacenter purpose d rest _ given top answered =>
    rw [measured.answers ruled given top answered]
    obtain ⟨service, rfl, below⟩ := Stage.of_evaluating (staged.top top (afoot_work _))
    obtain ⟨located, _, _⟩ := measured.jobs (.evaluating datacenter purpose d) (by simp [top])
    have resumed : Measured evaluate { c with stack := rest } := measured.turns (measured.rest top)
    have held : afoot rest = [service.job].map .work := below
    have taking : service.job.takesCommands = true := by cases service <;> rfl
    refine resumed.concludes tended.coherent located (unasked_of_taking held (by simpa using taking)) ?_
    cases purpose <;> simp [Purpose.errand]
  | queues => exact measured.stays rfl rfl rfl id (entering rfl) measured.jobs
  | takes => exact measured.stays rfl rfl rfl id (entering rfl) (heeded_work.mpr ⟨trivial, measured.jobs⟩)
  | registers => exact measured.stays rfl rfl rfl id measured.queue measured.jobs
  | closes => exact measured.stays rfl rfl rfl (by simp) measured.queue (heeded_round.mpr measured.jobs)
  | stays => exact measured
  | refuses => exact measured.turns measured.jobs
  | fails =>
    exact measured.stays rfl rfl rfl (by simp [failStart, begin, note]) measured.queue
      (heeded_work.mpr ⟨trivial, measured.jobs⟩)
  | @starts nodes _ datacenter log free created =>
    obtain rfl := staged.free free
    exact measured.starts staged created nodes datacenter log
  | writes direct => cases direct.symm.trans mediated

-- All that a move does for the sake of a node that is evaluated again: the evaluator is asked, or has answered.
structure Unmoved (c next : Coordinator χ) (host : HostId) : Prop where
  same : next = { c with queue := next.queue, log := next.log, stack := next.stack }
  stack : ∀ frame ∈ next.stack, frame ∈ c.stack ∨ ∃ asked peer d, frame = .work (.evaluating asked (.again peer) d)
  queue : next.queue = c.queue ∨ c.queue = .event (.reevaluate host) :: next.queue
  log : next.log = c.log ∨ c.registry.find? host = none ∧ next.log = c.log ++ [.reevaluationOfUnknown host]

theorem Measured.unmoved (measured : Measured evaluate c) (valid : c.registry.Coherent)
    (located : c.datacenter = some datacenter) (host : HostId) {queue : List Command}
    {stack : List (Frame (Listener χ) Notice Job)} (within : ∀ frame ∈ stack, frame ∈ c.stack)
    (passes : queue = c.queue ∨ c.queue = .event (.reevaluate host) :: queue) :
    c.Unmoved (conclude { c with queue := queue, stack := stack } (.command (.event (.reevaluate host)))
      (c.registry.perform (c.rule.measure evaluate datacenter) (.command (.event (.reevaluate host))))) host := by
  rw [(measured.nodes datacenter located).reevaluate valid host]
  refine ⟨rfl, ?_, passes, ?_⟩
  · intro frame member
    left
    cases found : c.registry.find? host <;> simp_all [conclude, told, Digest.silent, Digest.logged]
  · cases found : c.registry.find? host <;> simp [conclude, Digest.silent, Digest.logged]

theorem step_reevaluates (tended : Tended c) (measured : Measured evaluate c) (step : Step c move next)
    (ruled : Moment.ruled evaluate ⟨c, move⟩ = true) {host : HostId}
    (pursued : Moment.pursued? ⟨c, move⟩ = some (.command (.event (.reevaluate host)))) : c.Unmoved next host := by
  simp only [Moment.pursued?] at pursued
  split at pursued
  · rename_i made datacenter purpose d rest top
    obtain ⟨verdict, given, about⟩ := Option.map_eq_some_iff.mp pursued
    cases step with
    | call _ called =>
      have answered := evaluated_of_verdict given top called
      obtain ⟨located, _, _⟩ := measured.jobs (.evaluating datacenter purpose d) (by simp [top])
      rw [measured.answers ruled given top answered, about]
      exact measured.unmoved tended.coherent located host (fun frame member => by simp [top, member]) (.inl rfl)
  · simp only [Moment.errand?] at pursued
    split at pursued
    · cases pursued
    · rename_i command later top waiting _
      split at pursued
      · rename_i serves
        cases pursued
        obtain ⟨datacenter, located⟩ := Option.isSome_iff_exists.mp serves.2
        cases step with
        | own moved =>
          have taken : takeUp { c with queue := later } datacenter (.command (.event (.reevaluate host))) = next := by
            simpa [step?, top, waiting, dispatch, serves.1, located, takeUp] using moved
          rw [← taken]
          rcases takeUp_measures evaluate { c with queue := later } datacenter
            (.command (.event (.reevaluate host))) with ⟨purpose, d, _, asked, begun⟩ | concluded
          · obtain ⟨⟨peer, node⟩, found, same⟩ := Option.map_eq_some_iff.mp asked
            cases same
            rw [begun]
            refine ⟨rfl, fun frame member => ?_, .inr waiting, .inl rfl⟩
            rcases List.mem_cons.mp member with new | old
            · exact .inr ⟨datacenter, peer, node.descriptor, new⟩
            · exact .inl old
          · rw [concluded]
            exact measured.unmoved tended.coherent located host (fun _ => id) (.inr waiting)
      · cases pursued
    · cases pursued

theorem runs_measured {rule : DistanceRule} {configured : Option String} {listeners : List (Listener χ)}
    {moments : List (Moment χ)} (path : Runs (fresh rule configured listeners) moments c) (mediated : Mediated moments)
    (ruled : ∀ moment ∈ moments, moment.ruled evaluate = true) : c.rule = rule ∧ Tended c ∧ Measured evaluate c := by
  induction path with
  | nil => exact ⟨rfl, fresh_tended rule configured listeners [], fresh_measured rule configured listeners⟩
  | step _ step ih =>
    obtain ⟨earlier, last⟩ := mediated.append
    obtain ⟨same, tended, measured⟩ := ih earlier fun moment member => ruled moment (List.mem_append_left _ member)
    have mediates := last _ List.mem_cons_self
    have governs := ruled _ (List.mem_append_right _ List.mem_cons_self)
    exact ⟨(step_terms step).1.trans same, step_tended tended step mediates,
      step_measured tended measured step mediates governs⟩

end Measuring

-- At any time each known node stands where the rule puts it. To evaluate one again comes to nothing, and without an
-- evaluator the home nodes are those of the home datacenter.
theorem distances_follow_rule (rule : DistanceRule) (configured : Option String) (listeners : List (Listener χ))
    (evaluate : HostId → Option String → String → Except Fault (Option Distance)) {moments : List (Moment χ)}
    {c : Coordinator χ} (path : Runs (fresh rule configured listeners) moments c) (mediated : Mediated moments)
    (ruled : ∀ moment ∈ moments, moment.ruled evaluate = true) :
    (∀ host peer node, c.registry.find? host = some (peer, node) →
      (∃ datacenter, c.datacenter = some datacenter ∧
        rule.measure evaluate datacenter node.descriptor = .ok node.distance) ∧
      c.registry.distance? host = some node.distance ∧
      ∀ distance, peer ∈ c.registry.topology.group distance ↔ distance = node.distance) ∧
    (∀ move next host, Step c move next → Moment.ruled evaluate ⟨c, move⟩ = true →
      Moment.pursued? ⟨c, move⟩ = some (.command (.event (.reevaluate host))) → c.Unmoved next host) ∧
    (rule.evaluated = false →
      (∀ peer, peer ∈ c.registry.topology.home ↔
        ∃ node, c.registry.find? peer.host = some (peer, node) ∧ node.descriptor.datacenter = c.datacenter) ∧
      (rule.allowRemote = false → c.registry.topology.remote = [])) := by
  obtain ⟨rfl, tended, measured⟩ := runs_measured path mediated ruled
  have valid := tended.coherent
  have placed : ∀ host peer node, c.registry.find? host = some (peer, node) → ∃ datacenter,
      c.datacenter = some datacenter ∧ c.rule.measure evaluate datacenter node.descriptor = .ok node.distance := by
    intro host peer node found
    obtain ⟨datacenter, located⟩ := Option.isSome_iff_exists.mp (measured.located host peer node found)
    exact ⟨datacenter, located, measured.nodes datacenter located host peer node found⟩
  refine ⟨?_, ?_, ?_⟩
  · intro host peer node found
    exact ⟨placed host peer node found, by simp [valid.distance?_eq, found], valid.mem_group_iff found⟩
  · intro move next host step governs pursued
    exact step_reevaluates tended measured step governs pursued
  · intro alone
    have ruledBy : ∀ host peer node, c.registry.find? host = some (peer, node) → ∃ datacenter,
        c.datacenter = some datacenter ∧ node.distance = c.rule.byDatacenter datacenter node.descriptor := by
      intro host peer node found
      obtain ⟨datacenter, located, decided⟩ := placed host peer node found
      rw [DistanceRule.measure_of_unevaluated alone] at decided
      exact ⟨datacenter, located, (Except.ok.inj decided).symm⟩
    constructor
    · intro peer
      refine (valid.mem_group .home).trans (exists_congr fun node => and_congr_right fun found => ?_)
      obtain ⟨datacenter, located, decided⟩ := ruledBy peer.host peer node found
      rw [decided, located, DistanceRule.byDatacenter_home]
    · intro kept
      refine List.eq_nil_iff_forall_not_mem.mpr fun peer member => ?_
      obtain ⟨node, found, remote⟩ := (valid.mem_group .remote).mp member
      obtain ⟨datacenter, _, decided⟩ := ruledBy peer.host peer node found
      exact DistanceRule.byDatacenter_ne_remote kept (decided.symm.trans remote)

-- One node moves to a datacenter that the evaluator breaks off on, another one to a foreign datacenter and address;
-- then the first one is evaluated again.
theorem broken_move_keeps_distance :
    let evaluate : HostId → Option String → String → Except Fault (Option Distance) := fun host datacenter _ =>
      if datacenter = some "dc3" then .error (.message "boom") else .ok (if host = ⟨3⟩ then some .ignored else none)
    let last : Move Unit := .call (.answer (.ok none))
    ∃ (moments : List (Moment Unit)) (c next : Coordinator Unit),
      Runs (fresh ⟨true, true⟩ (some "dc1") []) moments c ∧ Mediated moments ∧
      (∀ moment ∈ moments, moment.ruled evaluate = true) ∧ Step c last next ∧
      Moment.pursued? ⟨c, last⟩ = some (.command (.event (.reevaluate ⟨2⟩))) ∧ c.Unmoved next ⟨2⟩ ∧
      (∀ host peer node, c.registry.find? host = some (peer, node) →
        DistanceRule.measure ⟨true, true⟩ evaluate "dc1" node.descriptor = .ok node.distance) ∧
      c.registry.topology = ⟨[⟨⟨⟨1⟩, 0⟩, .remote⟩, ⟨⟨⟨2⟩, 1⟩, .remote⟩, ⟨⟨⟨3⟩, 2⟩, .ignored⟩],
        [], [⟨⟨2⟩, 1⟩, ⟨⟨1⟩, 0⟩], [⟨⟨3⟩, 2⟩]⟩ := by
  intro evaluate last
  let idle : Coordinator Unit := fresh ⟨true, true⟩ (some "dc1") []
  let node (host port : Nat) (datacenter : String) : Descriptor :=
    ⟨⟨host⟩, .v4 ⟨10, 0, 0, 1⟩ (.ofNat port), some datacenter, none⟩
  let recorded (opinion : Option Distance) : List (Move Unit) := [.own, .call (.answer (.ok opinion)), .own, .own, .own]
  let moves : List (Move Unit) :=
    .call (.start [node 1 9042 "dc1", node 2 9042 "dc2", node 3 9042 "dc1"] []) ::
      recorded none ++ recorded none ++ recorded (some .ignored) ++ [.own, .own,
      .call (.submit (.event (.added (node 2 9042 "dc3")))), .own, .call (.throw (.message "boom")), .own,
      .call (.submit (.event (.added (node 1 9043 "dc2")))), .own, .call (.answer (.ok none)), .own, .own,
      .call (.submit (.event (.reevaluate ⟨2⟩))), .own]
  have shown : ((idle.play moves).bind fun played => (played.2.proceed? last).map fun _ =>
      ((played.1 ++ [Moment.mk played.2 last]).all fun moment => moment.ruled evaluate,
        Moment.pursued? ⟨played.2, last⟩, played.2.datacenter, played.2.registry.topology)) =
      some (true, some (.command (.event (.reevaluate ⟨2⟩))), some "dc1",
        ⟨[⟨⟨⟨1⟩, 0⟩, .remote⟩, ⟨⟨⟨2⟩, 1⟩, .remote⟩, ⟨⟨⟨3⟩, 2⟩, .ignored⟩],
          [], [⟨⟨2⟩, 1⟩, ⟨⟨1⟩, 0⟩], [⟨⟨3⟩, 2⟩]⟩) := by
    decide +kernel
  obtain ⟨⟨moments, c⟩, played, continued⟩ := Option.bind_eq_some_iff.mp shown
  obtain ⟨next, proceeds, facts⟩ := Option.map_eq_some_iff.mp continued
  obtain ⟨path, calls⟩ := play_exact.mp played
  simp only [Prod.mk.injEq, List.all_eq_true, List.forall_mem_append] at facts
  obtain ⟨⟨ruled, governs⟩, pursued, located, topology⟩ := facts
  have step := proceed?_exact.mp proceeds
  have mediated : Mediated moments := by
    rw [Mediated, calls]
    decide
  obtain ⟨measured, unmoved, _⟩ := distances_follow_rule ⟨true, true⟩ (some "dc1") [] evaluate path mediated ruled
  refine ⟨moments, c, next, path, mediated, ruled, step, pursued, ?_, ?_, topology⟩
  · exact unmoved last next ⟨2⟩ step (governs _ List.mem_cons_self) pursued
  · intro host peer node found
    obtain ⟨⟨datacenter, same, decided⟩, _⟩ := measured host peer node found
    cases located.symm.trans same
    exact decided

end Coordinator
end ClusterRouting
