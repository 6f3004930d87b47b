import ClusterRouting.Proofs.Coordinator.Ledgers

namespace ClusterRouting

def LogRecord.ofListener : LogRecord → Bool
  | .listenerFailed .. => true
  | _ => false

namespace Stage
variable {χ : Type}

def service : Stage χ → Service
  | idle => .queue
  | serving service | asking service .. | telling service .. | told service .. | assigning service _ => service

theorem frames_busy {stage : Stage χ} (busy : stage ≠ .idle) :
    stage.frames.any (Frame.isWork Job.takesCommands) = true := by
  have member : Frame.work stage.service.job ∈ stage.frames := by
    cases stage with
    | idle => exact absurd rfl busy
    | _ => simp [frames, service]
  refine List.any_eq_true.mpr ⟨_, member, ?_⟩
  cases stage.service <;> rfl

def asked : Stage χ → List Errand
  | asking _ _ purpose d => [purpose.errand d]
  | _ => []

-- What is still to be told on account of the last errand.
def ahead (s : Setting χ) (r : Registry) : Stage χ → List (Telling χ)
  | telling _ notice waiting | told _ notice _ waiting => Setting.tell waiting r notice ++ s.echoed r notice
  | assigning _ peer => s.echoed r (.added peer)
  | _ => []

def Posed (s : Setting χ) (r : Registry) : Stage χ → Prop
  | asking _ datacenter purpose d =>
    datacenter = s.datacenter ∧ s.rule.evaluated = true ∧ r.question? (purpose.errand d) = some (purpose, d)
  | _ => True

end Stage

section Outlook
variable {χ : Type} (s : Setting χ)

def Service.Stands (c : Coordinator χ) : Service → Prop
  | initial datacenter _ => c.lifecycle = .initializing ∧ datacenter = s.datacenter
  | queue => c.lifecycle = .ready ∧ c.answer = some (.ok ())

theorem Service.Stands.of_same {c next : Coordinator χ} {service : Service} (stands : service.Stands s c)
    (lifecycle : next.lifecycle = c.lifecycle) (answer : next.answer = c.answer) : service.Stands s next := by
  cases service with
  | initial datacenter left => exact ⟨lifecycle.trans stands.1, stands.2⟩
  | queue => exact ⟨lifecycle.trans stands.1, answer.trans stands.2⟩

-- What the ledger comes to if nothing else is asked for.
def Service.outlook (queue : List Command) (ledger : Ledger χ) : Service → Ledger χ
  | initial _ left => ((ledger.record s left).ready s).apply s queue
  | .queue => ledger.apply s queue

def Stage.outlook (queue : List Command) (ledger : Ledger χ) (stage : Stage χ) : Ledger χ :=
  stage.service.outlook s queue (stage.asked.foldl (Ledger.enter s) ledger)

theorem Service.outlook_snoc (queue : List Command) (command : Command) (ledger : Ledger χ) (service : Service) :
    service.outlook s (queue ++ [command]) ledger = (service.outlook s queue ledger).enter s (.command command) := by
  cases service <;> simp [Service.outlook, Ledger.apply]

end Outlook

namespace Coordinator
variable {χ : Type}

-- Nobody but the callback that runs is heard, except for commands.
def Moment.Plain (s : Setting χ) (moment : Moment χ) : Prop :=
  match moment.move, moment.before.stack with
  | .own, _ | .call (.submit _), _ => True
  | .call made, .work (.evaluating datacenter _ d) :: _ => made.verdict? = some (s.evaluate d datacenter)
  | .call made, _ => made.ends = true

-- Where a session stands, and what its ledger has by then.
structure Underway (s : Setting χ) (c : Coordinator χ) (stage : Stage χ) (ledger : Ledger χ) : Prop where
  rule : c.rule = s.rule
  datacenter : c.datacenter = some s.datacenter
  listeners : c.listeners = s.listeners
  registry : c.registry = ledger.registry
  log : c.log.filter (!·.ofListener) = ledger.log.filter (!·.ofListener)
  stack : c.stack = stage.frames
  stands : stage.service.Stands s c
  posed : stage.Posed s ledger.registry
  idle : stage = .idle → c.queue = []

structure Shown (s : Setting χ) (moments : List (Moment χ)) (stage : Stage χ) (ledger : Ledger χ) : Prop where
  tellings : tellings moments ++ stage.ahead s ledger.registry = ledger.tellings
  kept : kept moments = ledger.kept ++ stage.asked
  lost : lost moments = ledger.lost

section Moving
variable {s : Setting χ} {c : Coordinator χ} {stage later : Stage χ} {ledger : Ledger χ} {service : Service}
variable {moments : List (Moment χ)} {moment : Moment χ}

-- In most moves nobody is told anything and no errand begins or ends.
theorem Shown.silent (shown : Shown s moments stage ledger) (told : moment.telling? = none)
    (taken : moment.errand? = none) (broken : moment.lost? = none)
    (ahead : later.ahead s ledger.registry = stage.ahead s ledger.registry) (asked : later.asked = stage.asked) :
    Shown s (moments ++ [moment]) later ledger := by
  refine ⟨?_, ?_, ?_⟩
  · rw [tellings_snoc, told, ahead]
    simpa using shown.tellings
  · rw [kept_snoc, taken, broken, asked]
    simpa using shown.kept
  · rw [lost_snoc, broken]
    simpa using shown.lost

theorem Underway.passes (under : Underway s c stage ledger) {stack : List (Frame (Listener χ) Notice Job)}
    {log : List LogRecord} {meters : Meters} (frames : stack = later.frames)
    (kept : log.filter (!·.ofListener) = c.log.filter (!·.ofListener)) (service : later.service = stage.service)
    (asked : later.asked = []) (busy : later ≠ .idle) :
    Underway s { c with stack := stack, log := log, meters := meters } later ledger where
  rule := under.rule
  datacenter := under.datacenter
  listeners := under.listeners
  registry := under.registry
  log := kept.trans under.log
  stack := frames
  stands := service ▸ under.stands.of_same s rfl rfl
  posed := by
    cases later with
    | asking => cases asked
    | _ => trivial
  idle := fun idle => absurd idle busy

theorem Underway.concludes (under : Underway s c (.serving service) ledger) (e : Errand) :
    ∃ later, Underway s (c.conclude e (c.registry.perform s.choose e)) later (ledger.enter s e) ∧
      later.service = service ∧ later.asked = [] ∧
      ledger.tellings ++ later.ahead s (ledger.enter s e).registry = (ledger.enter s e).tellings := by
  rw [under.registry]
  cases done : ledger.registry.perform s.choose e with
  | error fault =>
    rw [Ledger.enter_error done]
    refine ⟨.serving service, { under with log := ?_ }, rfl, rfl, ?_⟩
    · simp only [conclude, note, List.filter_append, under.log]
    · simp [Stage.ahead]
  | ok result =>
    obtain ⟨digest, registry⟩ := result
    rw [Ledger.enter_ok done]
    refine ⟨.onward service c.listeners digest.notice, ?_, ?_, ?_, ?_⟩
    · refine { under with registry := rfl, log := ?_, stack := ?_, stands := ?_, posed := ?_, idle := ?_ }
      · simp only [conclude, List.filter_append, under.log]
      · rw [Stage.frames_onward]
        simp only [conclude, under.stack, Stage.frames]
      · have stands : service.Stands s (conclude c e (.ok (digest, registry))) := under.stands.of_same s rfl rfl
        cases digest.notice <;> exact stands
      · cases digest.notice <;> trivial
      · intro idle
        generalize digest.notice = notice at idle
        cases notice <;> cases idle
    · cases digest.notice <;> rfl
    · cases digest.notice <;> rfl
    · rw [under.listeners]
      cases digest.notice <;> simp [Stage.onward, Stage.ahead, Setting.spread]

theorem Underway.asks (under : Underway s c (.serving service) ledger) {purpose : Purpose} {d : Descriptor}
    (evaluated : s.rule.evaluated = true) (asked : c.registry.question? (purpose.errand d) = some (purpose, d)) :
    Underway s (c.begin (.evaluating s.datacenter purpose d)) (.asking service s.datacenter purpose d) ledger := by
  refine { under with stack := ?_, stands := ?_, posed := ?_, idle := ?_ }
  · simp [begin, under.stack, Stage.frames]
  · exact under.stands.of_same s rfl rfl
  · exact ⟨rfl, evaluated, under.registry ▸ asked⟩
  · intro idle
    cases idle

end Moving

def Books (s : Setting χ) (moments : List (Moment χ)) (stage : Stage χ) (ledger : Ledger χ) (moment : Moment χ)
    (next : Coordinator χ) : Prop :=
  ∃ later booked, Underway s next later booked ∧ Shown s (moments ++ [moment]) later booked ∧
    later.outlook s next.queue booked = (stage.outlook s moment.before.queue ledger).apply s moment.traffic.entered

section Booking
variable {s : Setting χ} {c next : Coordinator χ} {stage : Stage χ} {ledger : Ledger χ} {service : Service}
variable {moments : List (Moment χ)} {notice : Notice} {waiting : List (Listener χ)} {child : Listener χ}

theorem telling_books (under : Underway s c (.telling service notice waiting) ledger)
    (shown : Shown s moments (.telling service notice waiting) ledger) (moved : c.step? = some next) :
    Books s moments (.telling service notice waiting) ledger ⟨c, .own⟩ next := by
  have top : c.stack = .round notice waiting :: (notice.sequel ++ [.work service.job]) := under.stack
  simp only [step?, top] at moved
  cases moved
  cases waiting with
  | nil =>
    have quiet : Moment.telling? ⟨c, .own⟩ = none := by simp [Moment.telling?, Moment.told, top]
    have idle : Moment.errand? ⟨c, .own⟩ = none := by simp [Moment.errand?, top]
    have later : (Stage.after service notice : Stage χ).service = service ∧
        (Stage.after service notice : Stage χ).asked = [] ∧ (Stage.after service notice : Stage χ) ≠ .idle := by
      cases notice <;> exact ⟨rfl, rfl, by simp [Stage.after]⟩
    refine ⟨.after service notice, ledger, ?_, shown.silent quiet idle rfl ?_ later.2.1, ?_⟩
    · exact under.passes (Stage.frames_after _ _).symm rfl later.1 later.2.1 later.2.2
    · cases notice <;> simp [Stage.after, Stage.ahead, Setting.tell, Setting.echoed, Notice.echo]
    · simp only [Stage.outlook, later.1, later.2.1]
      simp [Moment.traffic, top, Traffic.entered, Ledger.apply, Stage.service, Stage.asked]
  | cons child rest =>
    have told : Moment.telling? ⟨c, .own⟩ = some ⟨child, notice, c.registry⟩ := by
      simp [Moment.telling?, Moment.told, top]
    have idle : Moment.errand? ⟨c, .own⟩ = none := by simp [Moment.errand?, top]
    refine ⟨.told service notice child rest, ledger, under.passes rfl rfl rfl rfl (by simp), ⟨?_, ?_, ?_⟩, ?_⟩
    · rw [tellings_snoc, told, ← shown.tellings, under.registry]
      simp [Stage.ahead, Setting.tell]
    · rw [kept_snoc, idle]
      simpa [Moment.lost?, Stage.asked] using shown.kept
    · rw [lost_snoc]
      simpa [Moment.lost?] using shown.lost
    · simp [Stage.outlook, Stage.service, Stage.asked, Moment.traffic, top, Traffic.entered, Ledger.apply]

theorem told_books {move : Move χ} {meters : Meters} {log : List LogRecord}
    (under : Underway s c (.told service notice child waiting) ledger)
    (shown : Shown s moments (.told service notice child waiting) ledger)
    (kept : log.filter (!·.ofListener) = c.log.filter (!·.ofListener))
    (quiet : (Moment.traffic ⟨c, move⟩).entered = []) :
    Books s moments (.told service notice child waiting) ledger ⟨c, move⟩
      { c with stack := .round notice waiting :: (notice.sequel ++ [.work service.job]), log := log, meters := meters } := by
  have top : c.stack = .inside child notice :: .round notice waiting :: (notice.sequel ++ [.work service.job]) :=
    under.stack
  refine ⟨.telling service notice waiting, ledger, under.passes rfl kept rfl rfl (by simp), ?_, ?_⟩
  · apply shown.silent
    · cases move <;> simp [Moment.telling?, Moment.told, top]
    · cases move <;> simp [Moment.errand?, top]
    · cases move <;> simp [Moment.lost?, top]
    · rfl
    · rfl
  · rw [quiet]
    rfl

theorem assigning_books {peer : Peer} (under : Underway s c (.assigning service peer) ledger)
    (shown : Shown s moments (.assigning service peer) ledger) (moved : c.step? = some next) :
    Books s moments (.assigning service peer) ledger ⟨c, .own⟩ next := by
  have top : c.stack = [.work (.assigning peer), .work service.job] := under.stack
  have silent : ∀ {later : Stage χ}, later.ahead s ledger.registry = s.echoed ledger.registry (.added peer) →
      later.asked = [] → Shown s (moments ++ [⟨c, .own⟩]) later ledger := by
    intro later ahead asked
    apply shown.silent
    · simp [Moment.telling?, Moment.told, top]
    · simp [Moment.errand?, top]
    · rfl
    · exact ahead
    · exact asked
  simp only [step?, top] at moved
  split at moved
  · rename_i node live
    cases moved
    rw [under.registry] at live
    refine ⟨.telling service (.distanceChanged peer node.distance) c.listeners, ledger,
      under.passes rfl rfl rfl rfl (by simp), silent ?_ rfl, ?_⟩
    · simp [Stage.ahead, Setting.echoed, Notice.echo, live, under.listeners]
    · simp [Stage.outlook, Stage.service, Stage.asked, Moment.traffic, top, Traffic.entered, Ledger.apply, publish]
  · rename_i gone
    cases moved
    rw [under.registry] at gone
    refine ⟨.serving service, ledger, under.passes rfl rfl rfl rfl (by simp), silent ?_ rfl, ?_⟩
    · simp [Stage.ahead, Setting.echoed, Notice.echo, gone]
    · simp [Stage.outlook, Stage.service, Stage.asked, Moment.traffic, top, Traffic.entered, Ledger.apply]

theorem takes_books {base : Coordinator χ} {after : Service} {e : Errand}
    (under : Underway s base (.serving after) ledger) (shown : Shown s moments (.serving service) ledger)
    (takenUp : TakenUp base s.datacenter e next) (taken : Moment.errand? ⟨c, .own⟩ = some e)
    (told : Moment.telling? ⟨c, .own⟩ = none) (entered : (Moment.traffic ⟨c, .own⟩).entered = [])
    (left : after.outlook s base.queue (ledger.enter s e) = service.outlook s c.queue ledger) :
    Books s moments (.serving service) ledger ⟨c, .own⟩ next := by
  have before : tellings moments = ledger.tellings := by simpa [Stage.ahead] using shown.tellings
  have standing : kept moments = ledger.kept := by simpa [Stage.asked] using shown.kept
  cases takenUp with
  | @asks purpose d evaluated asked =>
    obtain rfl := Registry.question?_errand asked
    refine ⟨_, ledger, under.asks (under.rule ▸ evaluated) asked, ⟨?_, ?_, ?_⟩, ?_⟩
    · rw [tellings_snoc, told, before]
      simp [Stage.ahead]
    · rw [kept_snoc, taken, standing]
      simp [Moment.lost?, Stage.asked]
    · rw [lost_snoc, shown.lost]
      simp [Moment.lost?]
    · rw [entered]
      exact left
  | concludes settled =>
    have same : base.registry.perform (fun d => .ok (base.rule.byDatacenter s.datacenter d)) e =
        base.registry.perform s.choose e := by
      rw [under.rule] at settled ⊢
      exact Setting.perform_settled settled
    obtain ⟨⟨digest, registry⟩, done⟩ :=
      Registry.perform_total base.registry (base.rule.byDatacenter s.datacenter) e
    rw [same, under.registry] at done
    obtain ⟨later, onward, served, none, ahead⟩ := under.concludes e
    rw [same]
    refine ⟨later, ledger.enter s e, onward, ⟨?_, ?_, ?_⟩, ?_⟩
    · rw [tellings_snoc, told, before, ← ahead]
      simp
    · rw [kept_snoc, taken, standing, none, Ledger.enter_ok done]
      simp [Moment.lost?]
    · rw [lost_snoc, shown.lost, Ledger.enter_ok done]
      simp [Moment.lost?]
    · rw [entered]
      simp only [Stage.outlook, served, none]
      have queue : (base.conclude e (base.registry.perform s.choose e)).queue = base.queue := by
        cases base.registry.perform s.choose e <;> rfl
      rw [queue]
      exact left

theorem recording_books {datacenter : String} {left : List Descriptor}
    (under : Underway s c (.serving (.initial datacenter left)) ledger)
    (shown : Shown s moments (.serving (.initial datacenter left)) ledger) (moved : c.step? = some next) :
    Books s moments (.serving (.initial datacenter left)) ledger ⟨c, .own⟩ next := by
  have top : c.stack = [.work (.populating datacenter left)] := under.stack
  have told : Moment.telling? ⟨c, .own⟩ = none := by simp [Moment.telling?, Moment.told, top]
  obtain ⟨starting, rfl⟩ := under.stands
  cases left with
  | nil =>
    simp only [step?, top, finishStart, starting] at moved
    cases moved
    refine ⟨.serving .queue, ledger.ready s, ?_, ⟨?_, ?_, ?_⟩, ?_⟩
    · refine { under with log := ?_, stack := rfl, stands := ⟨rfl, rfl⟩, posed := trivial, idle := by simp }
      simp only [note, begin, Ledger.ready, List.filter_append, under.log, under.registry]
    · rw [tellings_snoc, told]
      simpa [Stage.ahead, Ledger.ready] using shown.tellings
    · rw [kept_snoc]
      simpa [Moment.errand?, top, Moment.lost?, Stage.asked, Ledger.ready] using shown.kept
    · rw [lost_snoc]
      simpa [Moment.lost?, Ledger.ready] using shown.lost
    · simp [Stage.outlook, Stage.service, Stage.asked, Service.outlook, Ledger.record, Ledger.apply, Moment.traffic, top,
        Traffic.entered, begin, note]
  | cons d left =>
    have base : Underway s { c with stack := [.work (.populating s.datacenter left)] }
        (.serving (.initial s.datacenter left)) ledger :=
      { under with stack := rfl, stands := ⟨starting, rfl⟩, posed := trivial, idle := by simp }
    simp only [step?, top] at moved
    cases moved
    exact takes_books base shown (takeUp_exact _ s.datacenter (.initial d)) (by simp [Moment.errand?, top]) told
      (by simp [Moment.traffic, top, Traffic.entered]) rfl

theorem draining_books (under : Underway s c (.serving .queue) ledger) (shown : Shown s moments (.serving .queue) ledger)
    (moved : c.step? = some next) : Books s moments (.serving .queue) ledger ⟨c, .own⟩ next := by
  have top : c.stack = [.work .draining] := under.stack
  have told : Moment.telling? ⟨c, .own⟩ = none := by simp [Moment.telling?, Moment.told, top]
  obtain ⟨ready, answer⟩ := under.stands
  cases waiting : c.queue with
  | nil =>
    have moves : c.step? = some { c with stack := [] } := by simp [step?, top, waiting]
    cases moved.symm.trans moves
    refine ⟨.idle, ledger, ?_, ?_, ?_⟩
    · exact { under with stack := rfl, stands := ⟨ready, answer⟩, posed := trivial, idle := fun _ => waiting }
    · apply shown.silent told
      · simp [Moment.errand?, top, waiting]
      · rfl
      · rfl
      · rfl
    · simp [Stage.outlook, Stage.service, Stage.asked, Moment.traffic, top, waiting, Traffic.entered, Ledger.apply]
  | cons command later =>
    have moves : c.step? = some (takeUp { c with queue := later } s.datacenter (.command command)) := by
      simp [step?, top, waiting, dispatch, ready, under.datacenter, takeUp]
    cases moved.symm.trans moves
    have base : Underway s { c with queue := later } (.serving .queue) ledger :=
      { under with stack := top, stands := ⟨ready, answer⟩, posed := trivial, idle := by simp }
    refine takes_books base shown (takeUp_exact _ s.datacenter (.command command)) ?_ told ?_ ?_
    · simp [Moment.errand?, top, waiting, ready, under.datacenter]
    · simp [Moment.traffic, top, waiting, Traffic.entered]
    · simp [Service.outlook, waiting, Ledger.apply]

theorem submit_books (under : Underway s c stage ledger) (shown : Shown s moments stage ledger) (command : Command) :
    Books s moments stage ledger ⟨c, .call (.submit command)⟩ (c.submit command) := by
  have broken : Moment.lost? ⟨c, .call (.submit command)⟩ = none := by
    unfold Moment.lost?
    split
    · rename_i made _ _ _ _ same _
      cases same
      rfl
    · rfl
  have busy : c.busy = stage.frames.any (Frame.isWork Job.takesCommands) :=
    congrArg (List.any · (Frame.isWork Job.takesCommands)) under.stack
  by_cases free : stage = .idle
  · subst free
    rw [submit_free busy, under.stack]
    refine ⟨.serving .queue, ledger, ?_, shown.silent rfl rfl broken rfl rfl, ?_⟩
    · exact { under with stack := rfl, stands := under.stands, posed := trivial, idle := by simp }
    · exact Service.outlook_snoc s _ command _ .queue
  · rw [submit_busy (busy.trans (Stage.frames_busy free))]
    refine ⟨stage, ledger, ?_, shown.silent rfl rfl broken rfl rfl, ?_⟩
    · exact { under with stands := under.stands.of_same s rfl rfl, idle := fun idle => absurd idle free }
    · exact Service.outlook_snoc s _ command _ stage.service

theorem answer_books {datacenter : String} {purpose : Purpose} {d : Descriptor} {made : Call χ}
    (under : Underway s c (.asking service datacenter purpose d) ledger)
    (shown : Shown s moments (.asking service datacenter purpose d) ledger)
    (given : made.verdict? = some (s.evaluate d datacenter)) (called : c.call? made = some next) :
    Books s moments (.asking service datacenter purpose d) ledger ⟨c, .call made⟩ next := by
  have top : c.stack = .work (.evaluating datacenter purpose d) :: [.work service.job] := under.stack
  obtain ⟨rfl, evaluated, asked⟩ := under.posed
  have answered := evaluated_of_verdict given top called
  have aware : ∀ peer, purpose = .again peer → ∃ node, c.registry.find? peer.host = some (peer, node) := by
    rintro peer rfl
    rw [under.registry]
    exact Registry.find?_of_asked_again asked
  have concluded := evaluated_concludes answered top aware
  have decided : s.choose d = (s.evaluate d s.datacenter).map (s.rule.decide s.datacenter d) := if_pos evaluated
  have same : c.registry.perform (fun _ => (s.evaluate d s.datacenter).map (c.rule.decide s.datacenter d))
      (purpose.errand d) = c.registry.perform s.choose (purpose.errand d) := by
    rw [under.rule, under.registry]
    exact Setting.perform_answered evaluated asked
  rw [same] at concluded
  have base : Underway s { c with stack := [.work service.job] } (.serving service) ledger :=
    { under with stack := rfl, stands := under.stands.of_same s rfl rfl, posed := trivial, idle := by simp }
  obtain ⟨later, onward, served, none, ahead⟩ := base.concludes (purpose.errand d)
  rw [concluded]
  have before : tellings moments = ledger.tellings := by simpa [Stage.ahead] using shown.tellings
  have standing : kept moments = ledger.kept ++ [purpose.errand d] := shown.kept
  have marked : kept (moments ++ [⟨c, .call made⟩]) = (ledger.enter s (purpose.errand d)).kept ∧
      lost (moments ++ [⟨c, .call made⟩]) = (ledger.enter s (purpose.errand d)).lost := by
    rw [kept_snoc, lost_snoc, standing, shown.lost]
    cases verdict : s.evaluate d s.datacenter with
    | error fault =>
      rw [verdict] at decided
      rw [Ledger.enter_error (Registry.perform_of_fault asked decided)]
      simp [Moment.lost?, top, given, verdict]
    | ok opinion =>
      rw [verdict] at decided
      obtain ⟨⟨digest, registry⟩, done⟩ := Registry.perform_of_answer asked decided
      rw [Ledger.enter_ok done]
      simp [Moment.lost?, top, given, verdict, Moment.errand?]
  refine ⟨later, ledger.enter s (purpose.errand d), onward, ⟨?_, ?_, marked.2⟩, ?_⟩
  · rw [tellings_snoc, before, ← ahead]
    simp [Moment.telling?, Moment.told]
  · rw [none, List.append_nil]
    exact marked.1
  · have quiet : (Moment.traffic ⟨c, .call made⟩).entered = [] := by
      cases made with
      | submit => cases given
      | _ => rfl
    rw [quiet]
    simp only [Stage.outlook, served, none]
    have queue : ∀ result, (conclude { c with stack := [.work service.job] } (purpose.errand d) result).queue = c.queue := by
      intro result
      cases result <;> rfl
    rw [queue]
    rfl

theorem ends_books {made : Call χ} {name : χ} (under : Underway s c (.told service notice (.outside name) waiting) ledger)
    (shown : Shown s moments (.told service notice (.outside name) waiting) ledger) (ends : made.ends = true)
    (called : c.call? made = some next) :
    Books s moments (.told service notice (.outside name) waiting) ledger ⟨c, .call made⟩ next := by
  have top : c.stack =
      .inside (.outside name) notice :: .round notice waiting :: (notice.sequel ++ [.work service.job]) := under.stack
  cases made with
  | finish =>
    simp only [call?, return?, top] at called
    cases called
    exact told_books under shown rfl rfl
  | throw fault =>
    simp only [call?, throw?, top] at called
    cases called
    exact told_books under shown (by simp [Delivered.failed, LogRecord.ofListener]) rfl
  | answer verdict =>
    simp only [call?, evaluated?, top] at called
    cases called
  | _ => cases ends

theorem call_of_idle {made : Call χ} (ends : made.ends = true) (idle : c.stack = []) : c.call? made = none := by
  cases made with
  | finish => simp [call?, return?, idle]
  | answer => simp [call?, evaluated?, idle]
  | throw => simp [call?, throw?, idle]
  | _ => cases ends

theorem Underway.waits (under : Underway s c stage ledger) (waits : c.step? = none) :
    stage = .idle ∨ (∃ service datacenter purpose d, stage = .asking service datacenter purpose d) ∨
      ∃ service notice name waiting, stage = .told service notice (.outside name) waiting := by
  have top := under.stack
  cases stage with
  | idle => exact .inl rfl
  | asking service datacenter purpose d => exact .inr (.inl ⟨service, datacenter, purpose, d, rfl⟩)
  | told service notice child waiting =>
    cases child with
    | meter => simp [step?, top, Stage.frames] at waits
    | outside name => exact .inr (.inr ⟨service, notice, name, waiting, rfl⟩)
  | telling => simp [step?, top, Stage.frames] at waits
  | serving service =>
    cases service with
    | initial datacenter left => cases left <;> simp [step?, top, Stage.frames, Service.job] at waits
    | queue => cases queue : c.queue <;> simp [step?, top, queue, Stage.frames, Service.job] at waits
  | assigning service peer =>
    cases live : c.registry.node? peer <;> simp [step?, top, live, Stage.frames] at waits

theorem step_books {move : Move χ} (under : Underway s c stage ledger) (shown : Shown s moments stage ledger)
    (step : Step c move next) (plain : Moment.Plain s ⟨c, move⟩) : Books s moments stage ledger ⟨c, move⟩ next := by
  cases step with
  | own moved =>
    cases stage with
    | idle => simp [step?, under.stack, Stage.frames] at moved
    | serving service =>
      cases service with
      | initial => exact recording_books under shown moved
      | queue => exact draining_books under shown moved
    | asking => simp [step?, under.stack, Stage.frames] at moved
    | telling => exact telling_books under shown moved
    | told service notice child waiting =>
      cases child with
      | meter =>
        have quiet : (Moment.traffic ⟨c, .own⟩).entered = [] := by
          simp [Moment.traffic, under.stack, Stage.frames, Traffic.entered]
        simp only [step?, under.stack, Stage.frames] at moved
        cases moved
        exact told_books under shown rfl quiet
      | outside => simp [step?, under.stack, Stage.frames] at moved
    | assigning => exact assigning_books under shown moved
  | @call made _ waits called =>
    cases made with
    | submit command =>
      cases called
      exact submit_books under shown command
    | _ =>
      have top := under.stack
      rcases under.waits waits with rfl | ⟨service, datacenter, purpose, d, rfl⟩ | ⟨service, notice, name, waiting, rfl⟩
      · simp only [Moment.Plain, top, Stage.frames] at plain
        cases (call_of_idle plain top).symm.trans called
      · simp only [Moment.Plain, top, Stage.frames] at plain
        exact answer_books under shown plain called
      · simp only [Moment.Plain, top, Stage.frames] at plain
        exact ends_books under shown plain called

end Booking

end Coordinator
end ClusterRouting
