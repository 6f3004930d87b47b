import ClusterRouting.Proofs.Coordinator.Effects

namespace ClusterRouting

-- Who takes commands: a start, with the initial nodes that it has left, or whoever empties the queue.
inductive Service where
  | initial (datacenter : String) (left : List Descriptor)
  | queue

def Service.job : Service → Job
  | initial datacenter left => .populating datacenter left
  | queue => .draining

inductive Stage (χ : Type) where
  | idle
  | serving (service : Service)
  | asking (service : Service) (datacenter : String) (purpose : Purpose) (d : Descriptor)
  | telling (service : Service) (notice : Notice) (waiting : List (Listener χ))
  | told (service : Service) (notice : Notice) (child : Listener χ) (waiting : List (Listener χ))
  | assigning (service : Service) (peer : Peer)

namespace Stage
variable {χ : Type}

def frames : Stage χ → List (Frame (Listener χ) Notice Job)
  | idle => []
  | serving service => [.work service.job]
  | asking service datacenter purpose d => [.work (.evaluating datacenter purpose d), .work service.job]
  | telling service notice waiting => .round notice waiting :: (notice.sequel ++ [.work service.job])
  | told service notice child waiting =>
    .inside child notice :: .round notice waiting :: (notice.sequel ++ [.work service.job])
  | assigning service peer => [.work (.assigning peer), .work service.job]

def Active : Stage χ → Prop
  | idle | serving .queue => False
  | _ => True

def Aware (r : Registry) : Stage χ → Prop
  | asking _ _ (.again peer) _ => r.peer? peer.host = some peer
  | _ => True

def onward (service : Service) (listeners : List (Listener χ)) : Option Notice → Stage χ
  | none => serving service
  | some notice => telling service notice listeners

def after (service : Service) : Notice → Stage χ
  | .added peer => assigning service peer
  | _ => serving service

section Shape
variable {stage : Stage χ} {below : List (Frame (Listener χ) Notice Job)}

theorem frames_onward (service : Service) (listeners : List (Listener χ)) (notice : Option Notice) :
    (onward service listeners notice).frames = Coordinator.told listeners notice ++ [.work service.job] := by
  cases notice <;> rfl

theorem frames_after (service : Service) (notice : Notice) :
    (after service notice : Stage χ).frames = notice.sequel ++ [.work service.job] := by
  cases notice <;> rfl

theorem of_populating {datacenter : String} {left : List Descriptor}
    (shape : stage.frames = .work (.populating datacenter left) :: below) :
    stage = .serving (.initial datacenter left) ∧ below = [] := by
  cases stage with
  | serving service =>
    cases service <;> cases shape
    exact ⟨rfl, rfl⟩
  | _ => simp [frames] at shape

theorem of_draining (shape : stage.frames = .work .draining :: below) : stage = .serving .queue ∧ below = [] := by
  cases stage with
  | serving service =>
    cases service <;> cases shape
    exact ⟨rfl, rfl⟩
  | _ => simp [frames] at shape

theorem of_evaluating {datacenter : String} {purpose : Purpose} {d : Descriptor}
    (shape : stage.frames = .work (.evaluating datacenter purpose d) :: below) :
    ∃ service, stage = .asking service datacenter purpose d ∧ below = [.work service.job] := by
  cases stage with
  | serving service => cases service <;> simp [frames, Service.job] at shape
  | asking service =>
    cases shape
    exact ⟨service, rfl, rfl⟩
  | _ => simp [frames] at shape

theorem of_assigning {peer : Peer} (shape : stage.frames = .work (.assigning peer) :: below) :
    ∃ service, stage = .assigning service peer ∧ below = [.work service.job] := by
  cases stage with
  | serving service => cases service <;> simp [frames, Service.job] at shape
  | assigning service =>
    cases shape
    exact ⟨service, rfl, rfl⟩
  | _ => simp [frames] at shape

theorem of_round {notice : Notice} {waiting : List (Listener χ)}
    (shape : stage.frames = .round notice waiting :: below) :
    ∃ service, stage = .telling service notice waiting ∧ below = notice.sequel ++ [.work service.job] := by
  cases stage with
  | telling service =>
    cases shape
    exact ⟨service, rfl, rfl⟩
  | _ => simp [frames] at shape

theorem of_inside {child : Listener χ} {notice : Notice} (shape : stage.frames = .inside child notice :: below) :
    ∃ service waiting, stage = .told service notice child waiting ∧
      below = .round notice waiting :: (notice.sequel ++ [.work service.job]) := by
  cases stage with
  | told service =>
    cases shape
    exact ⟨service, _, rfl, rfl⟩
  | _ => simp [frames] at shape

end Shape

end Stage

namespace Coordinator
variable {χ : Type}

-- The frames that are more than the telling of a close.
def afoot (stack : List (Frame (Listener χ) Notice Job)) : List (Frame (Listener χ) Notice Job) :=
  stack.filter fun frame => frame.role ≠ .closing

section Afoot
variable {stack : List (Frame (Listener χ) Notice Job)} {notice : Notice} {waiting : List (Listener χ)}
variable {child : Listener χ}

@[simp] theorem afoot_work (job : Job) : afoot (.work job :: stack) = .work job :: afoot stack := by
  cases job <;> simp [afoot, Frame.role]

@[simp] theorem afoot_round_closing : afoot (.round .closing waiting :: stack) = afoot stack := by
  simp [afoot, Frame.role]

@[simp] theorem afoot_inside_closing : afoot (.inside child .closing :: stack) = afoot stack := by
  simp [afoot, Frame.role]

theorem afoot_round (news : notice ≠ .closing) :
    afoot (.round notice waiting :: stack) = .round notice waiting :: afoot stack := by
  cases notice <;> simp_all [afoot, Frame.role]

theorem afoot_inside (news : notice ≠ .closing) :
    afoot (.inside child notice :: stack) = .inside child notice :: afoot stack := by
  cases notice <;> simp_all [afoot, Frame.role]

theorem afoot_told {notice : Option Notice} (news : notice ≠ some .closing) (listeners : List (Listener χ)) :
    afoot (told listeners notice ++ stack) = told listeners notice ++ afoot stack := by
  cases notice with
  | none => rfl
  | some notice => cases notice <;> simp_all [told, Notice.sequel, afoot, Frame.role]

end Afoot

def Moment.told (moment : Moment χ) : Option (Listener χ × Notice) :=
  match moment.move, moment.before.stack with
  | .own, .round notice (child :: _) :: _ => some (child, notice)
  | _, _ => none

def Moment.news (moment : Moment χ) : Option (Listener χ × Notice) :=
  moment.told.filter fun delivery => delivery.2 ≠ .closing

theorem Moment.told_top {moment : Moment χ} {child : Listener χ} {notice : Notice}
    (told : moment.told = some (child, notice)) :
    ∃ later rest, moment.before.stack = .round notice (child :: later) :: rest := by
  unfold Moment.told at told
  split at told
  · rename_i top
    cases told
    exact ⟨_, _, top⟩
  · cases told

structure Staged (c : Coordinator χ) (stage : Stage χ) : Prop where
  afoot : afoot c.stack = stage.frames
  located : stage.Active → c.datacenter.isSome
  aware : stage.Aware c.registry

-- How one stage follows another, what is delivered meanwhile, and the registry then.
inductive Next (c : Coordinator χ) : Stage χ → Option (Listener χ × Notice) → Registry → Stage χ → Prop where
  | still {stage} : Next c stage none c.registry stage
  | tells {service notice child later} :
      Next c (.telling service notice (child :: later)) (some (child, notice)) c.registry
        (.told service notice child later)
  | returns {service notice child later} :
      Next c (.told service notice child later) none c.registry (.telling service notice later)
  | ends {service notice} : Next c (.telling service notice []) none c.registry (.after service notice)
  | assigns {service peer node} (live : c.registry.node? peer = some node) :
      Next c (.assigning service peer) none c.registry
        (.telling service (.distanceChanged peer node.distance) c.listeners)
  | misses {service peer} (gone : c.registry.node? peer = none) :
      Next c (.assigning service peer) none c.registry (.serving service)
  | asks {service later datacenter purpose d}
      (current : ∀ peer, purpose = .again peer → c.registry.peer? peer.host = some peer) :
      Next c (.serving service) none c.registry (.asking later datacenter purpose d)
  | applies {service later host registry notice} (located : c.datacenter.isSome)
      (outcome : Outcome c.registry host registry notice) :
      Next c (.serving service) none registry (.onward later c.listeners notice)
  | answers {service datacenter purpose d host registry notice} (located : c.datacenter.isSome)
      (outcome : Outcome c.registry host registry notice) :
      Next c (.asking service datacenter purpose d) none registry (.onward service c.listeners notice)
  | begins {service} : Next c .idle none c.registry (.serving service)
  | turns {datacenter} : Next c (.serving (.initial datacenter [])) none c.registry (.serving .queue)
  | ceases {service} : Next c (.serving service) none c.registry .idle

section Staging
variable {c next inner : Coordinator χ} {stage : Stage χ} {service : Service}
variable {frame : Frame (Listener χ) Notice Job} {rest : List (Frame (Listener χ) Notice Job)}

theorem Staged.top (staged : Staged c stage) (top : c.stack = frame :: rest)
    (counts : Coordinator.afoot (frame :: rest) = frame :: Coordinator.afoot rest) :
    stage.frames = frame :: Coordinator.afoot rest := by
  rw [← staged.afoot, top, counts]

theorem Staged.free (staged : Staged c stage) (free : c.busy = false) : stage = .idle := by
  have quiet : ∀ service : Service, Frame.work service.job ∉ stage.frames := by
    intro service held
    rw [← staged.afoot] at held
    have member := (List.mem_filter.mp held).1
    refine Bool.eq_false_iff.mp free (busy_iff.mpr ⟨_, member, ?_⟩)
    cases service <;> rfl
  cases stage with
  | idle => rfl
  | serving service => exact absurd List.mem_cons_self (quiet service)
  | asking service => exact absurd (by simp [Stage.frames]) (quiet service)
  | telling service => exact absurd (by simp [Stage.frames]) (quiet service)
  | told service => exact absurd (by simp [Stage.frames]) (quiet service)
  | assigning service => exact absurd (by simp [Stage.frames]) (quiet service)

def Proceeds (c : Coordinator χ) (stage : Stage χ) (move : Move χ) (next : Coordinator χ) : Prop :=
  ∃ later, Staged next later ∧ Next c stage (Moment.news ⟨c, move⟩) next.registry later

theorem Staged.stays {move : Move χ} (staged : Staged c stage) (silent : Moment.news ⟨c, move⟩ = none)
    (same : Coordinator.afoot next.stack = Coordinator.afoot c.stack) (registry : next.registry = c.registry)
    (datacenter : next.datacenter = c.datacenter) : Proceeds c stage move next := by
  refine ⟨stage, ⟨same.trans staged.afoot, datacenter ▸ staged.located, registry ▸ staged.aware⟩, ?_⟩
  rw [silent, registry]
  exact .still

theorem tells_proceeds {notice : Notice} {child : Listener χ} {later : List (Listener χ)} (staged : Staged c stage)
    (top : c.stack = .round notice (child :: later) :: rest) :
    Proceeds c stage .own { c with stack := .inside child notice :: .round notice later :: rest } := by
  by_cases plain : notice = .closing
  · subst plain
    refine staged.stays ?_ ?_ rfl rfl
    · simp [Moment.news, Moment.told, top]
    · simp [top]
  · have news : Moment.news ⟨c, .own⟩ = some (child, notice) := by simp [Moment.news, Moment.told, top, plain]
    obtain ⟨service, rfl, below⟩ := Stage.of_round (staged.top top (afoot_round plain))
    refine ⟨.told service notice child later, ⟨?_, fun _ => staged.located trivial, trivial⟩, news ▸ .tells⟩
    simp [afoot_round plain, afoot_inside plain, below, Stage.frames]

theorem finishes_proceeds {notice : Notice} (staged : Staged c stage) (top : c.stack = .round notice [] :: rest) :
    Proceeds c stage .own { c with stack := rest } := by
  have silent : Moment.news ⟨c, .own⟩ = none := by simp [Moment.news, Moment.told, top]
  by_cases plain : notice = .closing
  · subst plain
    exact staged.stays silent (by simp [top]) rfl rfl
  · obtain ⟨service, rfl, below⟩ := Stage.of_round (staged.top top (afoot_round plain))
    refine ⟨.after service notice, ⟨?_, fun _ => staged.located trivial, ?_⟩, silent ▸ .ends⟩
    · exact below.trans (Stage.frames_after _ _).symm
    · cases notice <;> trivial

theorem returns_proceeds {move : Move χ} {child : Listener χ} {notice : Notice} {meters : Meters}
    {log : List LogRecord} (staged : Staged c stage) (top : c.stack = .inside child notice :: rest) :
    Proceeds c stage move { c with stack := rest, meters := meters, log := log } := by
  have silent : Moment.news ⟨c, move⟩ = none := by cases move <;> simp [Moment.news, Moment.told, top]
  by_cases plain : notice = .closing
  · subst plain
    exact staged.stays silent (by simp [top]) rfl rfl
  · obtain ⟨service, waiting, rfl, below⟩ := Stage.of_inside (staged.top top (afoot_inside plain))
    exact ⟨.telling service notice waiting, ⟨below, fun _ => staged.located trivial, trivial⟩, silent ▸ .returns⟩

theorem assigns_proceeds {peer : Peer} {node : Node} (staged : Staged c stage)
    (top : c.stack = .work (.assigning peer) :: rest) (live : c.registry.node? peer = some node) :
    Proceeds c stage .own { c with stack := .round (.distanceChanged peer node.distance) c.listeners :: rest } := by
  have silent : Moment.news ⟨c, .own⟩ = none := by simp [Moment.news, Moment.told, top]
  obtain ⟨service, rfl, below⟩ := Stage.of_assigning (staged.top top (afoot_work _))
  refine ⟨.telling service (.distanceChanged peer node.distance) c.listeners,
    ⟨?_, fun _ => staged.located trivial, trivial⟩, silent ▸ .assigns live⟩
  simp [afoot_round, below, Stage.frames, Notice.sequel]

theorem misses_proceeds {peer : Peer} (staged : Staged c stage) (top : c.stack = .work (.assigning peer) :: rest)
    (gone : c.registry.node? peer = none) : Proceeds c stage .own { c with stack := rest } := by
  have silent : Moment.news ⟨c, .own⟩ = none := by simp [Moment.news, Moment.told, top]
  obtain ⟨service, rfl, below⟩ := Stage.of_assigning (staged.top top (afoot_work _))
  exact ⟨.serving service, ⟨below, fun _ => staged.located trivial, trivial⟩, silent ▸ .misses gone⟩

theorem applied_proceeds {later : Service} {host : HostId} (applied : Applied inner host next)
    (registry : inner.registry = c.registry) (listeners : inner.listeners = c.listeners)
    (datacenter : inner.datacenter = c.datacenter) (located : c.datacenter.isSome)
    (held : afoot inner.stack = [.work later.job]) (silent : Moment.news ⟨c, .own⟩ = none) :
    Proceeds c (.serving service) .own next := by
  unfold Proceeds
  rw [silent]
  cases applied with
  | done results =>
    obtain ⟨after, log, notice, rfl, outcome⟩ := results
    rw [listeners, registry] at *
    refine ⟨.onward later c.listeners notice, ⟨?_, fun _ => datacenter ▸ located, ?_⟩, .applies located outcome⟩
    · rw [afoot_told outcome.news, held, Stage.frames_onward]
    · cases notice <;> trivial
  | @asked asked purpose d _ current =>
    refine ⟨.asking later asked purpose d, ⟨?_, fun _ => datacenter ▸ located, ?_⟩, ?_⟩
    · simp [begin, held, Stage.frames]
    · cases purpose with
      | again peer => exact current peer rfl
      | _ => trivial
    · exact registry ▸ .asks (registry ▸ current)

theorem answers_proceeds {call : Call χ} {verdict : Except Fault (Option Distance)} {datacenter : String}
    {purpose : Purpose} {d : Descriptor} (staged : Staged c stage)
    (top : c.stack = .work (.evaluating datacenter purpose d) :: rest) (answered : c.evaluated? verdict = some next) :
    Proceeds c stage (.call call) next := by
  obtain ⟨service, rfl, below⟩ := Stage.of_evaluating (staged.top top (afoot_work _))
  have located : c.datacenter.isSome := staged.located trivial
  have current : ∀ peer, purpose = .again peer → c.registry.peer? peer.host = some peer := by
    rintro peer rfl
    exact staged.aware
  obtain ⟨registry, log, notice, rfl, outcome⟩ := evaluated_results answered top current
  refine ⟨.onward service c.listeners notice, ⟨?_, fun _ => located, ?_⟩, .answers located outcome⟩
  · rw [afoot_told outcome.news, below, Stage.frames_onward]
  · cases notice <;> trivial

-- Whoever comes first when nothing is afoot takes commands from then on.
theorem begins_proceeds {call : Call χ} (staged : Staged c stage) (free : c.busy = false)
    (stack : next.stack = .work service.job :: c.stack) (registry : next.registry = c.registry)
    (located : (Stage.serving service : Stage χ).Active → next.datacenter.isSome) :
    Proceeds c stage (.call call) next := by
  obtain rfl := staged.free free
  refine ⟨.serving service, ⟨?_, located, trivial⟩, registry ▸ .begins⟩
  rw [stack, afoot_work, staged.afoot]
  rfl

theorem advance_proceeds {move : Move χ} (staged : Staged c stage) (advance : Advance c move next)
    (mediated : move.direct = false) : Proceeds c stage move next := by
  have silent : ∀ {job rest}, c.stack = .work job :: rest → Moment.news ⟨c, .own⟩ = none := by
    intro job rest top
    simp [Moment.news, Moment.told, top]
  cases advance with
  | tells top => exact tells_proceeds staged top
  | finishes top => exact finishes_proceeds staged top
  | observes top => exact returns_proceeds staged top
  | returns _ top => exact returns_proceeds staged top
  | assigns top live => exact assigns_proceeds staged top live
  | misses top gone => exact misses_proceeds staged top gone
  | @records datacenter d left rest top =>
    obtain ⟨rfl, below⟩ := Stage.of_populating (staged.top top (afoot_work _))
    let opened : Coordinator χ := { c with stack := .work (.populating datacenter left) :: rest }
    have held : afoot opened.stack = [.work (Service.initial datacenter left).job] := by simp [opened, below, Service.job]
    exact applied_proceeds (initial_applied opened datacenter d) rfl rfl rfl (staged.located trivial) held
      (silent top)
  | readies top =>
    obtain ⟨rfl, below⟩ := Stage.of_populating (staged.top top (afoot_work _))
    refine ⟨.serving .queue, ⟨?_, False.elim, trivial⟩, silent top ▸ .turns⟩
    simp [below, Stage.frames, Service.job]
  | abandons top =>
    obtain ⟨rfl, below⟩ := Stage.of_populating (staged.top top (afoot_work _))
    exact ⟨.idle, ⟨below, False.elim, trivial⟩, silent top ▸ .ceases⟩
  | @applies command later rest datacenter top waiting ready located =>
    obtain ⟨rfl, below⟩ := Stage.of_draining (staged.top top (afoot_work _))
    have known : c.datacenter.isSome := by simp [located]
    have held : afoot c.stack = [.work Service.queue.job] := staged.afoot
    exact applied_proceeds (apply_applied { c with queue := later } datacenter command) rfl rfl rfl known held (silent top)
  | drops top => exact staged.stays (silent top) rfl rfl rfl
  | drains top =>
    obtain ⟨rfl, below⟩ := Stage.of_draining (staged.top top (afoot_work _))
    exact ⟨.idle, ⟨below, False.elim, trivial⟩, silent top ▸ .ceases⟩
  | answers _ top answered => exact answers_proceeds staged top answered
  | queues => exact staged.stays rfl rfl rfl rfl
  | takes free => exact @begins_proceeds _ _ _ _ .queue _ staged free rfl rfl False.elim
  | registers => exact staged.stays rfl rfl rfl rfl
  | closes => exact staged.stays rfl afoot_round_closing rfl rfl
  | stays => exact staged.stays rfl rfl rfl rfl
  | refuses => exact staged.stays rfl rfl rfl rfl
  | fails error free => exact @begins_proceeds _ _ _ _ .queue _ staged free rfl rfl False.elim
  | @starts nodes _ datacenter _ free =>
    exact @begins_proceeds _ _ _ _ (.initial datacenter nodes) _ staged free rfl rfl fun _ => rfl
  | writes direct =>
    cases direct.symm.trans mediated

end Staging

-- What no move takes back. Only a start finds a datacenter.
structure Keeps (c : Coordinator χ) (move : Move χ) (next : Coordinator χ) : Prop where
  listeners : c.listeners <+: next.listeners
  datacenter : next.datacenter = c.datacenter ∨ move.starts = true
  closed : c.lifecycle = .closed → next.lifecycle = .closed

theorem advance_keeps {c next : Coordinator χ} {move : Move χ} (advance : Advance c move next) : Keeps c move next := by
  have applied : ∀ {inner : Coordinator χ}, Applies inner next → inner.lifecycle = c.lifecycle →
      inner.datacenter = c.datacenter → inner.listeners = c.listeners → Keeps c move next := by
    intro inner applies lifecycle datacenter listeners
    obtain ⟨_, _, _, rfl, _⟩ := applies
    exact ⟨listeners ▸ List.prefix_refl _, .inl datacenter, lifecycle.trans⟩
  cases advance with
  | records => exact applied (initial_applied _ _ _).applies rfl rfl rfl
  | applies => exact applied (apply_applied _ _ _).applies rfl rfl rfl
  | answers _ top answered => exact applied (evaluated_answered answered top).applies rfl rfl rfl
  | registers => exact ⟨List.prefix_append _ _, .inl rfl, id⟩
  | readies _ starting => exact ⟨List.prefix_refl _, .inl rfl, fun closed => by simp [closed] at starting⟩
  | closes => exact ⟨List.prefix_refl _, .inl rfl, fun _ => rfl⟩
  | fails => exact ⟨List.prefix_refl _, .inl rfl, fun _ => rfl⟩
  | starts _ created => exact ⟨List.prefix_refl _, .inr rfl, fun closed => by simp [closed] at created⟩
  | _ => exact ⟨List.prefix_refl _, .inl rfl, id⟩

theorem step_terms {c next : Coordinator χ} {move : Move χ} (step : Step c move next) :
    next.rule = c.rule ∧ next.configured = c.configured := by
  have applied : ∀ {inner : Coordinator χ}, Applies inner next → inner.rule = c.rule → inner.configured = c.configured →
      next.rule = c.rule ∧ next.configured = c.configured := by
    rintro inner ⟨_, _, _, rfl, _⟩ rule configured
    exact ⟨rule, configured⟩
  cases step_advance step with
  | records => exact applied (initial_applied _ _ _).applies rfl rfl
  | applies => exact applied (apply_applied _ _ _).applies rfl rfl
  | answers _ top answered => exact applied (evaluated_answered answered top).applies rfl rfl
  | _ => exact ⟨rfl, rfl⟩

theorem runs_terms {start c : Coordinator χ} {moments : List (Moment χ)} (path : Runs start moments c) :
    c.rule = start.rule ∧ c.configured = start.configured := by
  induction path with
  | nil => exact ⟨rfl, rfl⟩
  | step _ step ih => exact ⟨(step_terms step).1.trans ih.1, (step_terms step).2.trans ih.2⟩

theorem runs_listeners {start c : Coordinator χ} {moments : List (Moment χ)} (path : Runs start moments c) :
    start.listeners <+: c.listeners := by
  induction path with
  | nil => exact List.prefix_refl _
  | step _ step ih => exact ih.trans (advance_keeps (step_advance step)).listeners

def Mediated (moments : List (Moment χ)) : Prop := ∀ move ∈ moments.map Moment.move, move.direct = false

theorem Mediated.append {earlier later : List (Moment χ)} (mediated : Mediated (earlier ++ later)) :
    Mediated earlier ∧ Mediated later := by
  simp only [Mediated, List.map_append, List.forall_mem_append] at mediated
  exact mediated

theorem fresh_staged (rule : DistanceRule) (configured : Option String) (listeners : List (Listener χ))
    (registry : Registry) : Staged { fresh rule configured listeners with registry } .idle :=
  ⟨rfl, False.elim, trivial⟩

-- What holds at first and is kept from stage to stage holds throughout.
theorem runs_staged {start c : Coordinator χ} {moments : List (Moment χ)}
    (holds : List (Moment χ) → Coordinator χ → Stage χ → Prop) (staged : Staged start .idle)
    (initially : holds [] start .idle)
    (kept : ∀ {moments c move next stage later}, Runs start moments c → Staged c stage → holds moments c stage →
      Advance c move next → Next c stage (Moment.news ⟨c, move⟩) next.registry later →
      holds (moments ++ [⟨c, move⟩]) next later)
    (mediated : Mediated moments) (path : Runs start moments c) : ∃ stage, Staged c stage ∧ holds moments c stage := by
  induction path with
  | nil => exact ⟨.idle, staged, initially⟩
  | @step moments c move next path step ih =>
    obtain ⟨earlier, last⟩ := mediated.append
    obtain ⟨stage, before, held⟩ := ih earlier
    have advance := step_advance step
    obtain ⟨later, after, passes⟩ := advance_proceeds before advance (last _ List.mem_cons_self)
    exact ⟨later, after, kept path before held advance passes⟩

end Coordinator
end ClusterRouting
