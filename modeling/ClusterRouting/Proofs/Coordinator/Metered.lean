import ClusterRouting.Proofs.Coordinator.Ledgers
import ClusterRouting.Proofs.Registry.Turnover

namespace ClusterRouting

-- How often it happens, from one registry to the next, that which a counter counts.
def Counter.turnover : Counter → Registry → Registry → Nat
  | distanceChanges d, before, after => Topology.entering d before.topology after.topology
  | healthChanges health, before, after => Registry.turning health before after
  | initFailures _, _, _ => 0

def Counter.tally (k : Counter) : List Registry → Nat
  | before :: after :: later => k.turnover before after + k.tally (after :: later)
  | _ => 0

namespace Notice

def counter? : Notice → Option Counter
  | healthChanged _ _ current => some (.healthChanges current)
  | distanceChanged _ current => some (.distanceChanges current)
  | added _ | removed _ | closing => none

def measures : Notice → Bool
  | added _ | removed _ | distanceChanged .. => true
  | healthChanged .. | closing => false

end Notice

def Registry.noticed (r : Registry) (notice : Option Notice) : List Notice :=
  notice.toList.flatMap fun notice => notice :: (notice.echo r).toList

def Listener.isMeter {χ : Type} : Listener χ → Bool
  | meter => true
  | outside _ => false

-- What the meter is still to observe on account of a frame. A close is nothing to it.
def Frame.owed {χ : Type} (r : Registry) : Frame (Listener χ) Notice Job → List Notice
  | .round .closing _ | .inside _ .closing => []
  | .round notice waiting => .replicate (waiting.countP Listener.isMeter) notice
  | .inside .meter notice => [notice]
  | .inside (.outside _) _ => []
  | .work (.assigning peer) => ((Notice.added peer).echo r).toList
  | .work _ => []

theorem Frame.owed_of_closing {χ : Type} {frame : Frame (Listener χ) Notice Job} (closing : frame.role = .closing)
    (r : Registry) : frame.owed r = [] := by
  cases frame with
  | round notice => cases notice <;> first | rfl | cases closing
  | inside child notice => cases notice <;> first | rfl | cases closing
  | work job => cases job <;> cases closing

section Counting
variable {r next : Registry} {host : HostId} {notice : Option Notice}

theorem Counter.tally_concat (k : Counter) (earlier : List Registry) (before after : Registry) :
    k.tally (earlier ++ [before, after]) = k.tally (earlier ++ [before]) + k.turnover before after := by
  induction earlier with
  | nil => simp [tally]
  | cons first later ih =>
    cases later with
    | nil => simp [tally]
    | cons second later =>
      simp only [List.cons_append, tally] at ih ⊢
      omega

theorem Counter.turnover_self (k : Counter) (r : Registry) : k.turnover r r = 0 := by
  cases k with
  | initFailures => rfl
  | healthChanges health => exact (Registry.Unturned.refl r).turning health
  | distanceChanges d => exact Topology.entering_of_subset (List.Subset.refl _)

theorem Meters.count_observes (t : Topology) (k : Counter) (notices : List Notice) (m : Meters) :
    (notices.foldl (fun m notice => m.observe t notice) m).count k =
      m.count k + notices.countP (·.counter? = some k) := by
  induction notices generalizing m with
  | nil => rfl
  | cons notice later ih =>
    have measured (m : Meters) : (m.measure t).count k = m.count k := rfl
    have first : (m.observe t notice).count k = m.count k + if notice.counter? = some k then 1 else 0 := by
      cases notice <;> simp [observe, measured, count_bump, Notice.counter?]
    rw [List.foldl_cons, ih, first, List.countP_cons]
    simp only [decide_eq_true_eq]
    omega

theorem Meters.sizes_observes (t : Topology) (notices : List Notice) (m : Meters) :
    (notices.foldl (fun m notice => m.observe t notice) m).sizes =
      if notices.any Notice.measures then some (.ofTopology t) else m.sizes := by
  induction notices generalizing m with
  | nil => rfl
  | cons notice later ih =>
    have first : (m.observe t notice).sizes = if notice.measures then some (.ofTopology t) else m.sizes := by
      cases notice <;> rfl
    rw [List.foldl_cons, ih, first, List.any_cons]
    cases notice.measures <;> simp

end Counting

namespace Coordinator
variable {χ : Type}

section Outcomes
variable {r next : Registry} {host : HostId} {notice : Option Notice}

theorem noticed_entered (r : Registry) (d : Descriptor) (distance : Distance) :
    (r.enter d distance).2.noticed (some (.added (r.enter d distance).1)) =
      [.added (r.enter d distance).1, .distanceChanged (r.enter d distance).1 distance] := by
  have live : (r.enter d distance).2.node? (r.enter d distance).1 = some (.fresh d distance) :=
    (Registry.node?_enter r d distance _).trans (if_pos rfl)
  simp [Registry.noticed, Notice.echo, live, Node.fresh]

-- What is said of a node that is told a distance, which may be the one that it has.
theorem noticed_moved (r : Registry) (peer : Peer) (previous current : Distance) :
    r.noticed (if previous = current then none else some (.distanceChanged peer current)) =
      if previous = current then [] else [.distanceChanged peer current] := by
  split <;> rfl

theorem distance_known {peer : Peer} {node : Node} (valid : r.Coherent) (known : r.find? host = some (peer, node))
    (distance : Distance) : (r.distance? host).getD distance = node.distance := by
  simp [valid.distance?_eq, known]

theorem Outcome.measured (valid : r.Coherent) (outcome : Outcome r host next notice) :
    (∃ news ∈ next.noticed notice, news.measures = true) ∨ next.topology = r.topology := by
  cases outcome with
  | kept | described | treated => exact .inr rfl
  | entered | dropped | placed => exact .inl ⟨_, List.mem_cons_self, rfl⟩
  | @relocated d peer node distance named known =>
    obtain rfl := Registry.find?_host known
    rw [distance_known valid known, noticed_moved]
    by_cases same : node.distance = distance
    · exact .inr (Topology.relocate_of_same (valid.entered known).1 same)
    · rw [if_neg same]
      exact .inl ⟨_, List.mem_cons_self, rfl⟩

theorem Outcome.entering (valid : r.Coherent) (outcome : Outcome r host next notice) (d : Distance) :
    Topology.entering d r.topology next.topology =
      (next.noticed notice).countP (·.counter? = some (.distanceChanges d)) := by
  have still : Topology.entering d r.topology r.topology = 0 := Topology.entering_of_subset (List.Subset.refl _)
  cases outcome with
  | kept | described => exact still
  | @entered desc distance named unknown =>
    subst named
    rw [noticed_entered]
    refine (Topology.entering_insert valid.partitioned (valid.entry?_of_unknown unknown) d distance).trans ?_
    simp [List.countP_cons, Notice.counter?, eq_comm]
  | @relocated desc peer node distance named known =>
    obtain rfl := Registry.find?_host known
    rw [distance_known valid known, noticed_moved]
    refine (Topology.entering_relocate valid.partitioned (valid.entered known).1 d distance).trans ?_
    by_cases same : node.distance = distance <;> simp [same, Notice.counter?, List.countP_singleton, eq_comm]
  | @placed known distance found other =>
    obtain rfl := Topology.host_of_found found
    refine (Topology.entering_relocate valid.partitioned found d distance).trans ?_
    simp [Registry.noticed, Notice.echo, Notice.counter?, List.countP_singleton, other, eq_comm]
  | treated =>
    refine still.trans ?_
    split <;> simp [Registry.noticed, Notice.echo, Notice.counter?]
  | dropped => exact (Topology.entering_erase valid.partitioned _ d).trans rfl

theorem Outcome.turning (outcome : Outcome r host next notice) (health : Health) :
    Registry.turning health r next =
      (next.noticed notice).countP (·.counter? = some (.healthChanges health)) := by
  have silent : ∀ peer distance, [Notice.distanceChanged peer distance].countP
      (·.counter? = some (.healthChanges health)) = 0 := by simp [Notice.counter?]
  cases outcome with
  | kept => exact (Registry.Unturned.refl r).turning health
  | @entered desc distance =>
    rw [noticed_entered]
    exact ((Registry.enter_unturned r desc distance).turning health).trans (by simp [Notice.counter?])
  | @described desc peer => exact (r.replaceDescriptor_unturned peer desc).turning health
  | @relocated desc peer _ distance =>
    rw [noticed_moved]
    refine (((r.replaceDescriptor_unturned peer desc).trans (Registry.place_unturned _ _ _)).turning health).trans ?_
    split
    · rfl
    · exact (silent peer distance).symm
  | @placed known distance => exact ((r.place_unturned known.peer distance).turning health).trans (silent _ _).symm
  | @treated peer node current known =>
    refine (Registry.turning_amend (Registry.find?_eq_some.mp known).2 _ health).trans ?_
    by_cases same : node.health = current
    · simp [same, Registry.noticed]
    · by_cases here : current = health <;> simp_all [Registry.noticed, Notice.echo, Notice.counter?]
  | @dropped peer =>
    exact (r.amend_unturned peer (fun node => { node with removed := true }) fun _ => rfl).turning health

theorem Outcome.turnover (valid : r.Coherent) (outcome : Outcome r host next notice) (k : Counter) :
    k.turnover r next = (next.noticed notice).countP (·.counter? = some k) := by
  cases k with
  | distanceChanges d => exact outcome.entering valid d
  | healthChanges health => exact outcome.turning health
  | initFailures kind =>
    refine (List.countP_eq_zero.mpr ?_).symm
    intro news _
    cases news <;> simp [Notice.counter?]

end Outcomes

def owed (r : Registry) (stack : List (Frame (Listener χ) Notice Job)) : List Notice := stack.flatMap (Frame.owed r)

def Moment.observed (moment : Moment χ) : List Notice :=
  match moment.move, moment.before.stack with
  | .own, .inside child notice :: _ => Frame.owed moment.before.registry (.inside child notice)
  | _, _ => []

section Owing
variable {c next : Coordinator χ} {move : Move χ} {stage : Stage χ} {r : Registry}
variable {stack : List (Frame (Listener χ) Notice Job)}

@[simp] theorem owed_nil (r : Registry) : owed r ([] : List (Frame (Listener χ) Notice Job)) = [] := rfl

@[simp] theorem owed_cons (r : Registry) (frame : Frame (Listener χ) Notice Job) :
    owed r (frame :: stack) = Frame.owed r frame ++ owed r stack := rfl

@[simp] theorem owed_service (r : Registry) (service : Service) :
    (.work service.job : Frame (Listener χ) Notice Job).owed r = [] := by
  cases service <;> rfl

theorem owed_afoot (r : Registry) (stack : List (Frame (Listener χ) Notice Job)) :
    owed r (afoot stack) = owed r stack := by
  induction stack with
  | nil => rfl
  | cons frame rest ih =>
    by_cases closing : frame.role = .closing
    · have gone : afoot (frame :: rest) = afoot rest := by simp [afoot, closing]
      rw [gone, ih, owed_cons, Frame.owed_of_closing closing, List.nil_append]
    · have kept : afoot (frame :: rest) = frame :: afoot rest := by simp [afoot, closing]
      rw [kept, owed_cons, owed_cons, ih]

-- Each listener of a round gets the notice, and there is one meter among them.
theorem owed_told {listeners : List (Listener χ)} (single : listeners.countP Listener.isMeter = 1)
    {notice : Option Notice} (news : notice ≠ some .closing) (r : Registry) :
    owed r (told listeners notice ++ stack) = r.noticed notice ++ owed r stack := by
  cases notice with
  | none => rfl
  | some notice =>
    cases notice with
    | added peer => simp [told, Notice.sequel, Frame.owed, single, Registry.noticed]
    | closing => exact absurd rfl news
    | _ => simp [told, Notice.sequel, Frame.owed, single, Registry.noticed, Notice.echo]

theorem observed_work {job : Job} {rest : List (Frame (Listener χ) Notice Job)} (top : c.stack = .work job :: rest) :
    Moment.observed ⟨c, move⟩ = [] := by
  cases move <;> simp [Moment.observed, top]

theorem advance_meters (advance : Advance c move next) :
    next.meters = (Moment.observed ⟨c, move⟩).foldl (fun m notice => m.observe c.registry.topology notice) c.meters ∨
    Moment.observed ⟨c, move⟩ = [] ∧ ∃ kind, next.meters = c.meters.bump (.initFailures kind) := by
  have applied : ∀ {inner : Coordinator χ}, Applies inner next → inner.meters = c.meters → next.meters = c.meters := by
    rintro inner ⟨_, _, _, rfl, _⟩ same
    exact same
  cases advance with
  | observes top =>
    left
    rename_i notice rest
    cases notice <;> simp [Moment.observed, top, Frame.owed, Meters.observe]
  | tells top | finishes top => simp [Moment.observed, top]
  | records top =>
    left
    rw [observed_work top]
    exact applied (initial_applied _ _ _).applies rfl
  | applies top =>
    left
    rw [observed_work top]
    exact applied (apply_applied _ _ _).applies rfl
  | answers _ top answered =>
    left
    rw [observed_work top]
    exact applied (evaluated_answered answered top).applies rfl
  | assigns top | misses top | readies top | abandons top | drops top | drains top =>
    left
    rw [observed_work top]
    rfl
  | fails error => exact .inr ⟨rfl, _, rfl⟩
  | _ => exact .inl rfl

theorem owed_tells (r : Registry) (notice : Notice) (child : Listener χ) (later : List (Listener χ)) :
    (Frame.round notice (child :: later) : Frame (Listener χ) Notice Job).owed r =
      (Frame.inside child notice).owed r ++ (Frame.round notice later).owed r := by
  cases notice <;> cases child <;> simp [Frame.owed, Listener.isMeter, List.countP_cons, List.replicate_succ]

-- The stack makes up for what the registry is ahead of the meter.
def Owes (c : Coordinator χ) (move : Move χ) (next : Coordinator χ) : Prop :=
  next.registry = c.registry ∧ owed c.registry c.stack = Moment.observed ⟨c, move⟩ ++ owed c.registry next.stack ∨
  Moment.observed ⟨c, move⟩ = [] ∧ owed c.registry c.stack = [] ∧ ∃ host notice,
    Outcome c.registry host next.registry notice ∧ owed next.registry next.stack = next.registry.noticed notice

theorem applied_owes {inner : Coordinator χ} {host : HostId} {service : Service} (applied : Applied inner host next)
    (registry : inner.registry = c.registry) (single : inner.listeners.countP Listener.isMeter = 1)
    (held : afoot inner.stack = [.work service.job]) (observed : Moment.observed ⟨c, move⟩ = [])
    (clear : owed c.registry c.stack = []) : Owes c move next := by
  have none : ∀ r, owed r inner.stack = [] := by
    intro r
    rw [← owed_afoot, held, owed_cons, owed_service, owed_nil, List.append_nil]
  refine .inr ⟨observed, clear, host, ?_⟩
  cases applied with
  | done results =>
    obtain ⟨after, log, notice, rfl, outcome⟩ := results
    exact ⟨notice, registry ▸ outcome, by rw [owed_told single outcome.news, none, List.append_nil]⟩
  | asked => exact ⟨.none, registry ▸ Outcome.kept (r := inner.registry), none _⟩

theorem advance_owes (staged : Staged c stage) (advance : Advance c move next) (mediated : move.direct = false)
    (single : c.datacenter.isSome → c.listeners.countP Listener.isMeter = 1) : Owes c move next := by
  cases advance with
  | @tells notice child later rest top =>
    have silent : Moment.observed ⟨c, .own⟩ = [] := by simp [Moment.observed, top]
    exact .inl ⟨rfl, by rw [silent, top, owed_cons, owed_tells]; simp⟩
  | @finishes notice rest top =>
    have silent : Moment.observed ⟨c, .own⟩ = [] := by simp [Moment.observed, top]
    have nobody : (Frame.round notice [] : Frame (Listener χ) Notice Job).owed c.registry = [] := by
      cases notice <;> rfl
    exact .inl ⟨rfl, by rw [silent, top, owed_cons, nobody]⟩
  | observes top =>
    refine .inl ⟨rfl, ?_⟩
    rw [top, owed_cons]
    simp [Moment.observed, top]
  | @returns call name notice rest log _ top =>
    have nothing : (Frame.inside (.outside name) notice : Frame (Listener χ) Notice Job).owed c.registry = [] := by
      cases notice <;> rfl
    exact .inl ⟨rfl, by rw [top, owed_cons, nothing]; rfl⟩
  | @assigns peer node rest top live =>
    obtain ⟨service, rfl, _⟩ := Stage.of_assigning (staged.top top (afoot_work _))
    refine .inl ⟨rfl, ?_⟩
    rw [top, observed_work top, owed_cons, owed_cons]
    simp [Frame.owed, Notice.echo, live, single (staged.located trivial)]
  | @misses peer rest top gone =>
    refine .inl ⟨rfl, ?_⟩
    rw [top, observed_work top, owed_cons]
    simp [Frame.owed, Notice.echo, gone]
  | @records datacenter d left rest top =>
    obtain ⟨rfl, below⟩ := Stage.of_populating (staged.top top (afoot_work _))
    let opened : Coordinator χ := { c with stack := .work (.populating datacenter left) :: rest }
    have held : afoot opened.stack = [.work (Service.initial datacenter left).job] := by
      simp [opened, below, Service.job]
    refine applied_owes (initial_applied opened datacenter d) rfl (single (staged.located trivial)) held
      (observed_work top) ?_
    rw [← owed_afoot, staged.afoot]
    rfl
  | @applies command later rest datacenter top _ _ located =>
    obtain ⟨rfl, below⟩ := Stage.of_draining (staged.top top (afoot_work _))
    refine applied_owes (apply_applied { c with queue := later } datacenter command) rfl (single (by simp [located]))
      staged.afoot (observed_work top) ?_
    rw [← owed_afoot, staged.afoot]
    rfl
  | @answers call verdict datacenter purpose d rest next _ top answered =>
    obtain ⟨service, rfl, below⟩ := Stage.of_evaluating (staged.top top (afoot_work _))
    have current : ∀ peer, purpose = .again peer → c.registry.peer? peer.host = some peer := by
      rintro peer rfl
      exact staged.aware
    refine applied_owes (.done (evaluated_results answered top current)) rfl (single (staged.located trivial)) below
      (observed_work top) ?_
    rw [← owed_afoot, staged.afoot, Stage.frames, owed_cons, owed_cons, owed_service]
    rfl
  | readies top | abandons top | drops top | drains top =>
    refine .inl ⟨rfl, ?_⟩
    rw [top, observed_work top]
    rfl
  | writes direct => cases direct.symm.trans mediated
  | _ => exact .inl ⟨rfl, rfl⟩

end Owing

def registries (moments : List (Moment χ)) (c : Coordinator χ) : List Registry :=
  moments.map (fun moment => moment.before.registry) ++ [c.registry]

structure Metered (moments : List (Moment χ)) (c : Coordinator χ) : Prop where
  counters : ∀ k, (∀ kind, k ≠ .initFailures kind) →
    c.meters.count k + (owed c.registry c.stack).countP (·.counter? = some k) = k.tally (registries moments c)
  gauges : (∃ notice ∈ owed c.registry c.stack, notice.measures = true) ∨
    c.meters.sizes = some (.ofTopology c.registry.topology) ∨
    c.meters.sizes = none ∧ c.registry.topology = .empty

section Metering
variable {c next : Coordinator χ} {move : Move χ} {stage : Stage χ} {moments : List (Moment χ)}

theorem tally_step (k : Counter) (moments : List (Moment χ)) (c next : Coordinator χ) (move : Move χ) :
    k.tally (registries (moments ++ [⟨c, move⟩]) next) =
      k.tally (registries moments c) + k.turnover c.registry next.registry := by
  simp only [registries, List.map_append, List.map_cons, List.map_nil, List.append_assoc, List.singleton_append]
  exact k.tally_concat _ _ _

theorem advance_count (advance : Advance c move next) {k : Counter} (nodal : ∀ kind, k ≠ .initFailures kind) :
    next.meters.count k = c.meters.count k + (Moment.observed ⟨c, move⟩).countP (·.counter? = some k) := by
  rcases advance_meters advance with observed | ⟨silent, kind, failed⟩
  · rw [observed, Meters.count_observes]
  · rw [silent, failed, Meters.count_bump, if_neg (Ne.symm (nodal kind))]
    rfl

theorem advance_sizes (advance : Advance c move next) :
    next.meters.sizes = if (Moment.observed ⟨c, move⟩).any Notice.measures then some (.ofTopology c.registry.topology)
      else c.meters.sizes := by
  rcases advance_meters advance with observed | ⟨silent, kind, failed⟩
  · rw [observed, Meters.sizes_observes]
  · rw [silent, failed]
    rfl

theorem Metered.step (metered : Metered moments c) (valid : c.registry.Coherent) (advance : Advance c move next)
    (owes : Owes c move next) : Metered (moments ++ [⟨c, move⟩]) next := by
  have sizes := advance_sizes advance
  constructor
  · intro k nodal
    have before := metered.counters k nodal
    have count := advance_count advance nodal
    rw [tally_step]
    rcases owes with ⟨same, owed⟩ | ⟨silent, clear, host, notice, outcome, owed⟩
    · rw [owed, List.countP_append] at before
      rw [same, k.turnover_self]
      omega
    · rw [clear, List.countP_nil] at before
      rw [silent, List.countP_nil] at count
      rw [owed, outcome.turnover valid k]
      omega
  · rcases owes with ⟨same, owed⟩ | ⟨silent, clear, host, notice, outcome, owed⟩
    · rw [same]
      by_cases measured : (Moment.observed ⟨c, move⟩).any Notice.measures = true
      · exact .inr (.inl (sizes.trans (if_pos measured)))
      · rw [sizes, if_neg measured]
        refine metered.gauges.imp_left ?_
        rintro ⟨notice, member, measures⟩
        rw [owed] at member
        rcases List.mem_append.mp member with observed | later
        · exact absurd (List.any_eq_true.mpr ⟨notice, observed, measures⟩) measured
        · exact ⟨notice, later, measures⟩
    · rw [silent] at sizes
      rcases outcome.measured valid with measures | still
      · exact .inl (owed ▸ measures)
      · rw [still, sizes]
        refine .inr (metered.gauges.resolve_left ?_)
        rintro ⟨notice, member, _⟩
        rw [clear] at member
        cases member

theorem runs_located {rule : DistanceRule} {configured : Option String} {listeners : List (Listener χ)}
    (path : Runs (fresh rule configured listeners) moments c)
    (listed : ∀ moment ∈ moments, moment.move.starts = true → .meter ∈ moment.before.listeners) :
    c.datacenter.isSome → .meter ∈ c.listeners := by
  induction path with
  | nil => exact nofun
  | step _ step ih =>
    have keeps := advance_keeps (step_advance step)
    obtain ⟨earlier, last⟩ := List.forall_mem_append.mp listed
    intro located
    apply keeps.listeners.subset
    rcases keeps.datacenter with same | starts
    · exact ih earlier (same ▸ located)
    · exact last _ (List.mem_singleton_self _) starts

theorem runs_metered {rule : DistanceRule} {configured : Option String} {listeners : List (Listener χ)}
    (path : Runs (fresh rule configured listeners) moments c) (mediated : Mediated moments)
    (listed : ∀ moment ∈ moments, moment.move.starts = true → .meter ∈ moment.before.listeners)
    (single : c.listeners.countP Listener.isMeter ≤ 1) : ∃ stage, Staged c stage ∧ Metered moments c := by
  induction path with
  | nil => exact ⟨.idle, fresh_staged rule configured listeners .empty, ⟨fun _ _ => rfl, .inr (.inr ⟨rfl, rfl⟩)⟩⟩
  | @step moments c move next path step ih =>
    have advance := step_advance step
    obtain ⟨earlier, last⟩ := mediated.append
    have before := (List.forall_mem_append.mp listed).1
    have fewer := Nat.le_trans ((advance_keeps advance).listeners.sublist.countP_le) single
    obtain ⟨stage, staged, metered⟩ := ih earlier before fewer
    have direct : move.direct = false := last _ List.mem_cons_self
    have one : c.datacenter.isSome → c.listeners.countP Listener.isMeter = 1 := by
      intro located
      have some : 0 < c.listeners.countP Listener.isMeter :=
        List.countP_pos_iff.mpr ⟨.meter, runs_located path before located, rfl⟩
      omega
    obtain ⟨later, after, _⟩ := advance_proceeds staged advance direct
    exact ⟨later, after, metered.step (runs_coherent Registry.empty_coherent path) advance
      (advance_owes staged advance direct one)⟩

end Metering

-- A meter that is told of everything from the start on, whatever the other listeners do. Whoever closes may still be
-- at it.
theorem meters_show_registry (rule : DistanceRule) (configured : Option String) (listeners : List (Listener χ))
    {moments : List (Moment χ)} {c : Coordinator χ} (path : Runs (fresh rule configured listeners) moments c)
    (mediated : Mediated moments)
    (listed : ∀ moment ∈ moments, moment.move.starts = true → .meter ∈ moment.before.listeners)
    (single : c.listeners.countP Listener.isMeter ≤ 1) (free : c.busy = false) :
    (c.meters.sizes = none ∧ c.registry.size = 0 ∨
      ∃ sizes, c.meters.sizes = some sizes ∧ (∀ d, sizes.count d = (c.registry.topology.group d).length) ∧
        sizes.home + sizes.remote + sizes.ignored = c.registry.size) ∧
    (∀ d, c.meters.count (.distanceChanges d) = (Counter.distanceChanges d).tally (registries moments c)) ∧
    ∀ health, c.meters.count (.healthChanges health) = (Counter.healthChanges health).tally (registries moments c) := by
  obtain ⟨stage, staged, metered⟩ := runs_metered path mediated listed single
  have idle : stage = .idle := staged.free free
  have paid : owed c.registry c.stack = [] := by
    rw [← owed_afoot, staged.afoot, idle]
    rfl
  have valid := (runs_coherent Registry.empty_coherent path).partitioned
  have counters := metered.counters
  have gauges := metered.gauges
  rw [paid] at counters gauges
  refine ⟨?_, fun d => counters _ nofun, fun health => counters _ nofun⟩
  rcases gauges with ⟨_, none, _⟩ | shown | ⟨unset, empty⟩
  · cases none
  · refine .inr ⟨_, shown, fun d => by cases d <;> rfl, ?_⟩
    have whole := valid.length_members
    rw [Topology.members, List.length_append, List.length_append] at whole
    exact whole
  · refine .inl ⟨unset, ?_⟩
    rw [Registry.size, empty]
    rfl

-- The listener that is told before the meter always breaks off. One node of two goes down, the other is reported to be
-- ignored.
theorem meters_beside_faulty_listener :
    let idle : Coordinator Unit := fresh ⟨true, false⟩ (some "dc1") [.outside (), .meter]
    ∃ moments c, Runs idle moments c ∧ Mediated moments ∧
      (∀ moment ∈ moments, moment.move.starts = true → .meter ∈ moment.before.listeners) ∧
      c.listeners.countP Listener.isMeter ≤ 1 ∧ c.busy = false ∧
      c.meters.sizes = some ⟨1, 0, 1⟩ ∧ c.registry.size = 2 ∧
      (Counter.distanceChanges .remote).tally (registries moments c) = 1 ∧
      (Counter.distanceChanges .ignored).tally (registries moments c) = 1 ∧
      (Counter.healthChanges .down).tally (registries moments c) = 1 := by
  intro idle
  let node (host : BitVec 128) (datacenter : String) : Descriptor :=
    ⟨⟨host⟩, .v4 ⟨10, 0, 0, 1⟩ 9042, some datacenter, none⟩
  let round : List (Move Unit) := [.own, .call (.throw (.message "boom")), .own, .own, .own]
  let recording : List (Move Unit) := .own :: round ++ .own :: round
  let command (command : Command) : List (Move Unit) := .call (.submit command) :: .own :: round ++ [.own]
  let moves : List (Move Unit) := .call (.start [node 1 "dc1", node 2 "dc2"] []) :: recording ++ recording ++
    [.own, .own] ++ command (.event (.down ⟨1⟩)) ++ command (.report ⟨2⟩ .ignored)
  have shown : (idle.play moves).map (fun played =>
      (played.1.all fun moment => .meter ∈ moment.before.listeners, played.2.busy, played.2.meters.sizes,
        [played.2.listeners.countP Listener.isMeter, played.2.registry.size,
          played.2.meters.count (.distanceChanges .remote), played.2.meters.count (.distanceChanges .ignored),
          played.2.meters.count (.healthChanges .down)])) =
      some (true, false, some ⟨1, 0, 1⟩, [1, 2, 1, 1, 1]) := by
    decide +kernel
  obtain ⟨⟨moments, c⟩, played, facts⟩ := Option.map_eq_some_iff.mp shown
  simp only [Prod.mk.injEq, List.all_eq_true, decide_eq_true_eq, List.cons.injEq, and_true] at facts
  obtain ⟨everywhere, free, sizes, single, size, remote, ignored, down⟩ := facts
  obtain ⟨path, made⟩ := play_exact.mp played
  have mediated : Mediated moments := by
    rw [Mediated, made]
    decide
  have listed : ∀ moment ∈ moments, moment.move.starts = true → .meter ∈ moment.before.listeners :=
    fun moment member _ => everywhere moment member
  have alone : c.listeners.countP Listener.isMeter ≤ 1 := Nat.le_of_eq single
  obtain ⟨_, entered, turned⟩ := meters_show_registry _ _ _ path mediated listed alone free
  exact ⟨moments, c, path, mediated, listed, alone, free, sizes, size, (entered .remote).symm.trans remote,
    (entered .ignored).symm.trans ignored, (turned .down).symm.trans down⟩

end Coordinator
end ClusterRouting
