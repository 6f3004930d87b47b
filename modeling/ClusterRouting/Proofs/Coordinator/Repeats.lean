import ClusterRouting.Proofs.Coordinator.Measured
import ClusterRouting.Proofs.Coordinator.Openings
import ClusterRouting.Proofs.Coordinator.Sessions

namespace ClusterRouting

section Becoming
variable {choose : Descriptor → Except Fault Distance}

theorem Descriptor.becomes_again (d : Descriptor) (known : Option Node) :
    d.becomes choose (d.becomes choose known) = d.becomes choose known := by
  cases known with
  | none =>
    cases decided : choose d with
    | error fault => simp [becomes, decided, Except.toOption]
    | ok distance => simp [becomes, decided, Except.toOption, Node.fresh]
  | some node =>
    by_cases near : node.descriptor.datacenter = d.datacenter
    · simp [becomes, near]
    · cases decided : choose d with
      | error fault => simp [becomes, near, decided]
      | ok distance => simp [becomes, near, decided]

theorem Event.health_again (event : Event) (before : Health) :
    event.health (event.health before) = event.health before := by
  cases event <;> cases before <;> rfl

theorem Errand.becomes_again (e : Errand) (known : Option Node) :
    e.becomes choose (e.becomes choose known) = e.becomes choose known := by
  cases e with
  | initial d => exact d.becomes_again known
  | command command =>
    cases command with
    | report host distance => cases known <;> rfl
    | event event =>
      cases event with
      | added d => exact d.becomes_again known
      | removed host => rfl
      | reevaluate host =>
        cases known with
        | none => rfl
        | some node => cases decided : choose node.descriptor <;> simp [becomes, decided]
      | up | down | forceDown | forceUp =>
        cases known with
        | none => rfl
        | some node => simp only [becomes, Option.map_some, Event.health_again]

end Becoming

namespace Registry

section Fixed
variable {choose : Descriptor → Except Fault Distance} {r next : Registry} {digest : Digest} {host : HostId} {e : Errand}

theorem amend_same {peer : Peer} {node : Node} {change : Node → Node} (live : r.node? peer = some node)
    (same : change node = node) : r.amend peer change = r := by
  have nodes : r.nodes.modify peer.serial change = r.nodes := by
    apply Array.ext (by simp)
    intro serial _ inside
    rw [Array.getElem_modify]
    split
    · rename_i here
      subst here
      have read : r.nodes[peer.serial] = node := by
        rw [node?, Array.getElem?_eq_getElem inside] at live
        exact Option.some.inj live
      rw [read, same]
    · rfl
  rw [amend, nodes]

theorem recorded_of_fixed {d : Descriptor} (fixed : d.becomes choose (r.status d.host) = r.status d.host)
    (done : r.recorded d (choose d) = .ok (digest, next)) : next = r ∧ digest.notice = none := by
  have exact := novelty_exact r d
  unfold recorded upsert at done
  cases novel : r.novelty d with
  | same peer =>
    simp only [novel] at done
    cases done
    exact ⟨rfl, rfl⟩
  | newcomer =>
    simp only [novel] at exact done
    cases decided : choose d with
    | error fault => simp [decided, Except.map] at done
    | ok distance => simp [status, exact, Descriptor.becomes, decided, Except.toOption] at fixed
  | refreshed peer =>
    simp only [novel] at exact
    obtain ⟨node, found, other, near⟩ := exact
    rw [status_of_found found] at fixed
    simp only [Descriptor.becomes, near, if_true, Option.some.injEq] at fixed
    exact absurd (congrArg Node.descriptor fixed).symm other
  | moved peer =>
    simp only [novel] at exact done
    obtain ⟨node, found, far⟩ := exact
    cases decided : choose d with
    | error fault => simp [decided, Except.map] at done
    | ok distance =>
      rw [status_of_found found] at fixed
      simp only [Descriptor.becomes, far, if_false, decided, Option.some.injEq] at fixed
      exact absurd (congrArg (Descriptor.datacenter ∘ Node.descriptor) fixed).symm far

theorem health_of_fixed {event : Event} {node : Node} (known : r.status host = some node)
    (fixed : (r.status host).map (fun node => { node with health := event.health node.health }) = r.status host) :
    event.health node.health = node.health := by
  rw [known] at fixed
  exact congrArg Node.health (Option.some.inj fixed)

theorem treated_of_fixed {event : Event} {health : Health} {forced : Bool}
    (fixed : (r.status host).map (fun node => { node with health := event.health node.health }) = r.status host)
    (means : ∀ before, event.health before = before → (!forced ∧ before = .forcedDown) ∨ before = health)
    (done : r.treated host health forced = (digest, next)) : next = r ∧ digest.notice = none := by
  unfold treated at done
  cases found : r.find? host with
  | none =>
    rw [found] at done
    cases done
    exact ⟨rfl, rfl⟩
  | some known =>
    obtain ⟨peer, node⟩ := known
    have kept := means _ (health_of_fixed (status_of_found found) fixed)
    rw [found] at done
    dsimp only at done
    split at done
    · cases done
      exact ⟨rfl, rfl⟩
    · rename_i free
      have already : node.health = health := kept.resolve_left free
      have live := (find?_eq_some.mp found).2
      rw [if_pos already, amend_same live (by rw [← already])] at done
      cases done
      exact ⟨rfl, rfl⟩

-- An errand that makes nothing of its host makes nothing of the registry.
theorem perform_of_fixed (valid : r.Coherent) (fixed : e.becomes choose (r.status e.host) = r.status e.host)
    (done : r.perform choose e = .ok (digest, next)) : next = r ∧ digest.notice = none := by
  cases e with
  | initial d => exact recorded_of_fixed fixed done
  | command command =>
    cases command with
    | report host distance =>
      simp only [perform] at done
      split at done
      · cases done
        exact ⟨rfl, rfl⟩
      · rename_i peer known
        obtain ⟨node, found⟩ := valid.find?_of_peer? known
        have placed : node.distance = distance := by
          simp only [Errand.host, Command.host, status_of_found found, Errand.becomes, Option.map_some,
            Option.some.injEq] at fixed
          exact (congrArg Node.distance fixed).symm
        rw [← placed, assigned_same valid found] at done
        cases done
        exact ⟨rfl, rfl⟩
    | event event =>
      cases event with
      | added d => exact recorded_of_fixed fixed done
      | removed host =>
        simp only [perform] at done
        split at done
        · cases done
          exact ⟨rfl, rfl⟩
        · rename_i dropped
          obtain ⟨peer, known, _⟩ := Option.map_eq_some_iff.mp dropped
          obtain ⟨node, found⟩ := valid.find?_of_peer? known
          simp [Errand.host, Command.host, Event.host, status_of_found found, Errand.becomes] at fixed
      | up host | down host | forceDown host =>
        refine treated_of_fixed fixed (fun before kept => ?_) (Except.ok.inj done)
        cases before <;> simp_all [Event.health]
      | forceUp host =>
        simp only [perform] at done
        split at done
        · cases done
          exact ⟨rfl, rfl⟩
        · rename_i peer node found
          have kept : (Event.forceUp host).health node.health = node.health :=
            health_of_fixed (status_of_found found) fixed
          split at done
          · rename_i down
            simp [Event.health, down] at kept
          · cases done
            exact ⟨rfl, rfl⟩
      | reevaluate host =>
        simp only [perform] at done
        split at done
        · cases done
          exact ⟨rfl, rfl⟩
        · rename_i peer node found
          cases decided : choose node.descriptor with
          | error fault => simp [decided, Except.map] at done
          | ok distance =>
            have placed : node.distance = distance := by
              simp only [Errand.host, Command.host, Event.host, status_of_found found, Errand.becomes, decided,
                Option.map_some, Option.some.injEq] at fixed
              exact (congrArg Node.distance fixed).symm
            rw [decided, ← placed] at done
            simp only [Except.map, assigned_same valid found] at done
            cases done
            exact ⟨rfl, rfl⟩

theorem perform_again (valid : r.Coherent) (done : (r.after (r.perform choose e)).perform choose e = .ok (digest, next)) :
    next = r.after (r.perform choose e) ∧ digest.notice = none := by
  have known := status_perform valid choose e e.host
  rw [if_pos rfl] at known
  have fixed : e.becomes choose ((r.after (r.perform choose e)).status e.host) =
      (r.after (r.perform choose e)).status e.host := by
    rw [known]
    exact e.becomes_again _
  exact perform_of_fixed (changes_coherent valid (perform_changes choose r e)) fixed done

theorem after_again (valid : r.Coherent) :
    (r.after (r.perform choose e)).after ((r.after (r.perform choose e)).perform choose e) =
      r.after (r.perform choose e) := by
  cases done : (r.after (r.perform choose e)).perform choose e with
  | error fault => rfl
  | ok result => exact (perform_again valid done).1

end Fixed

end Registry

def Frame.concluding {χ : Type} : Frame (Listener χ) Notice Job → Bool
  | .work (.populating ..) | .work (.evaluating ..) => false
  | _ => true

namespace Coordinator
variable {χ : Type}

-- A command reaches a coordinator that is at rest, and nothing else does before that is at rest again. Listeners
-- return or break off, and the evaluator answers by a function.
structure Submission (s : Setting χ) (c : Coordinator χ) (command : Command) (moments : List (Moment χ))
    (last : Coordinator χ) : Prop where
  path : ∃ first, Step c (.call (.submit command)) first ∧ Runs first moments last
  plain : ∀ moment ∈ moments, moment.Plain s
  alone : submitted moments = []
  rest : last.stack = []

structure Awaits (s : Setting χ) (r : Registry) (c : Coordinator χ) : Prop where
  rule : c.rule = s.rule
  datacenter : c.datacenter = some s.datacenter
  lifecycle : c.lifecycle = .ready
  registry : c.registry = r

inductive Serving (s : Setting χ) (r : Registry) (command : Command) (c : Coordinator χ) : Prop where
  | waiting (awaits : Awaits s r c) (stack : c.stack = [.work .draining]) (queue : c.queue = [command])
  | asking {purpose d} (awaits : Awaits s r c)
      (stack : c.stack = [.work (.evaluating s.datacenter purpose d), .work .draining]) (queue : c.queue = [])
      (evaluated : s.rule.evaluated = true) (asked : r.question? (.command command) = some (purpose, d))
  | concluded (awaits : Awaits s (r.after (r.perform s.choose (.command command))) c) (queue : c.queue = [])
      (calm : ∀ frame ∈ c.stack, frame.concluding = true)
      (silent : (∀ digest next, r.perform s.choose (.command command) = .ok (digest, next) → digest.notice = none) →
        c.stack = [.work .draining] ∨ c.stack = [])

section Serving
variable {s : Setting χ} {r : Registry} {command : Command} {c next last : Coordinator χ} {moment : Moment χ}
variable {moments : List (Moment χ)} {move : Move χ}

theorem told_concluding (listeners : List (Listener χ)) (notice : Option Notice) :
    ∀ frame ∈ told listeners notice, frame.concluding = true := by
  cases notice with
  | none => simp [told]
  | some notice => cases notice <;> simp [told, Notice.sequel, Frame.concluding]

theorem concludes_serving (awaits : Awaits s r c) (queue : c.queue = []) (stack : c.stack = [.work .draining]) :
    Serving s r command (c.conclude (.command command) (r.perform s.choose (.command command))) := by
  obtain ⟨rule, datacenter, lifecycle, registry⟩ := awaits
  cases done : r.perform s.choose (.command command) with
  | error fault =>
    refine .concluded ⟨rule, datacenter, lifecycle, ?_⟩ queue ?_ fun _ => .inl stack
    · rw [done]
      exact registry
    · simp [conclude, note, stack, Frame.concluding]
  | ok result =>
    refine .concluded ⟨rule, datacenter, lifecycle, ?_⟩ queue ?_ fun silent => ?_
    · rw [done]
      rfl
    · simp only [conclude, stack, List.forall_mem_append]
      exact ⟨told_concluding _ _, by simp [Frame.concluding]⟩
    · simp [conclude, silent _ _ done, told, stack]

theorem TakenUp.serving (takenUp : TakenUp c s.datacenter (.command command) next) (awaits : Awaits s r c)
    (queue : c.queue = []) (stack : c.stack = [.work .draining]) : Serving s r command next := by
  cases takenUp with
  | asks evaluated asked =>
    rw [awaits.rule] at evaluated
    rw [awaits.registry] at asked
    refine .asking ⟨awaits.rule, awaits.datacenter, awaits.lifecycle, awaits.registry⟩ ?_ queue evaluated asked
    simp only [begin, stack]
  | concludes settled =>
    rw [awaits.rule, awaits.registry] at settled ⊢
    rw [Setting.perform_settled settled]
    exact concludes_serving awaits queue stack

theorem waiting_step (awaits : Awaits s r c) (stack : c.stack = [.work .draining]) (queue : c.queue = [command])
    (step : Step c move next) : Serving s r command next := by
  have begins : c.step? = some (takeUp { c with queue := [] } s.datacenter (.command command)) := by
    simp [step?, stack, queue, dispatch, awaits.lifecycle, awaits.datacenter, takeUp]
  cases step with
  | call waits => cases begins.symm.trans waits
  | own moved =>
    have takenUp := takeUp_exact { c with queue := [] } s.datacenter (.command command)
    rw [← Option.some.inj (moved.symm.trans begins)] at takenUp
    exact takenUp.serving ⟨awaits.rule, awaits.datacenter, awaits.lifecycle, awaits.registry⟩ rfl stack

theorem asking_step {purpose : Purpose} {d : Descriptor} (awaits : Awaits s r c)
    (stack : c.stack = [.work (.evaluating s.datacenter purpose d), .work .draining]) (queue : c.queue = [])
    (evaluated : s.rule.evaluated = true) (asked : r.question? (.command command) = some (purpose, d))
    (step : Step c move next) (plain : Moment.Plain s ⟨c, move⟩) (quiet : (Moment.traffic ⟨c, move⟩).entered = []) :
    Serving s r command next := by
  cases step with
  | own moved => simp [step?, stack] at moved
  | @call made _ _ called =>
    have given : made.verdict? = some (s.evaluate d s.datacenter) := by
      cases made with
      | submit => cases quiet
      | _ => simpa only [Moment.Plain, stack] using plain
    have aware : ∀ peer, purpose = .again peer → ∃ node, c.registry.find? peer.host = some (peer, node) := by
      rintro peer rfl
      rw [awaits.registry]
      have again := Registry.question?_errand asked ▸ asked
      exact Registry.find?_of_asked_again again
    have concluded := evaluated_concludes (evaluated_of_verdict given stack called) stack aware
    have same : c.registry.perform (fun _ => (s.evaluate d s.datacenter).map (c.rule.decide s.datacenter d))
        (.command command) = r.perform s.choose (.command command) := by
      rw [awaits.rule, awaits.registry, Setting.perform_answered evaluated asked]
    rw [Registry.question?_errand asked, same] at concluded
    rw [concluded]
    exact concludes_serving ⟨awaits.rule, awaits.datacenter, awaits.lifecycle, awaits.registry⟩ queue rfl

theorem Moment.Plain.ends {made : Call χ} (plain : Moment.Plain s ⟨c, .call made⟩)
    (other : ∀ command, made ≠ .submit command) : made.ends = true := by
  unfold Moment.Plain at plain
  split at plain
  · rename_i own
    cases own
  · rename_i command same
    cases same
    exact absurd rfl (other command)
  · rename_i same _
    cases same
    exact Call.ends_of_verdict plain
  · rename_i same _
    cases same
    exact plain

-- What is concluded stays so: telling of it goes on, and then the queue is found empty.
theorem concluded_step (awaits : Awaits s (r.after (r.perform s.choose (.command command))) c) (queue : c.queue = [])
    (calm : ∀ frame ∈ c.stack, frame.concluding = true)
    (silent : (∀ digest next, r.perform s.choose (.command command) = .ok (digest, next) → digest.notice = none) →
      c.stack = [.work .draining] ∨ c.stack = [])
    (step : Step c move next) (plain : Moment.Plain s ⟨c, move⟩) (quiet : (Moment.traffic ⟨c, move⟩).entered = []) :
    Serving s r command next := by
  obtain ⟨rule, datacenter, lifecycle, registry⟩ := awaits
  have onward : ∀ {stack : List (Frame (Listener χ) Notice Job)} {meters log},
      (∀ frame ∈ stack, frame.concluding = true) →
      (c.stack = [.work .draining] ∨ c.stack = [] → stack = [.work .draining] ∨ stack = []) →
      Serving s r command { c with stack := stack, meters := meters, log := log } := fun calm kept =>
    .concluded ⟨rule, datacenter, lifecycle, registry⟩ queue calm fun quiet => kept (silent quiet)
  have below : ∀ {frame rest}, c.stack = frame :: rest → ∀ other ∈ rest, other.concluding = true :=
    fun top other member => calm other (top ▸ List.mem_cons_of_mem _ member)
  have unbegun : ∀ {job : Job} {rest}, c.stack = .work job :: rest →
      (Frame.work job : Frame (Listener χ) Notice Job).concluding = true :=
    fun top => calm _ (top ▸ List.mem_cons_self)
  cases step_advance step with
  | tells top => exact onward (by simpa [Frame.concluding] using below top) (by simp [top])
  | finishes top | observes top | misses top | returns _ top => exact onward (below top) (by simp [top])
  | assigns top => exact onward (by simpa [Frame.concluding] using below top) (by simp [top])
  | drains top => exact onward (below top) (by simp_all)
  | records top | readies top | abandons top | answers _ top => cases unbegun top
  | applies _ waiting | drops _ waiting => cases queue.symm.trans waiting
  | queues | takes => cases quiet
  | @writes made _ _ direct =>
    have ends := plain.ends (by rintro _ rfl; cases direct)
    cases made <;> cases ends <;> cases direct
  | registers | closes | stays | refuses | fails | starts => cases plain.ends nofun

theorem serving_step (serving : Serving s r command c) (step : Step c move next) (plain : Moment.Plain s ⟨c, move⟩)
    (quiet : (Moment.traffic ⟨c, move⟩).entered = []) : Serving s r command next := by
  cases serving with
  | waiting awaits stack queue => exact waiting_step awaits stack queue step
  | asking awaits stack queue evaluated asked => exact asking_step awaits stack queue evaluated asked step plain quiet
  | concluded awaits queue calm silent => exact concluded_step awaits queue calm silent step plain quiet

theorem runs_serving (serving : Serving s r command c) (path : Runs c moments last)
    (plain : ∀ moment ∈ moments, moment.Plain s) (alone : submitted moments = []) :
    Serving s r command last ∧ ∀ moment ∈ moments, Serving s r command moment.before := by
  induction path with
  | nil => exact ⟨serving, by simp⟩
  | @step moments middle move next _ step ih =>
    simp only [submitted, List.flatMap_append, List.append_eq_nil_iff, List.flatMap_singleton] at alone
    simp only [List.forall_mem_append] at plain
    obtain ⟨held, before⟩ := ih plain.1 alone.1
    refine ⟨serving_step held step (plain.2 _ List.mem_cons_self) alone.2, ?_⟩
    simpa only [List.forall_mem_append, List.forall_mem_singleton] using ⟨before, held⟩

theorem Serving.untold (serving : Serving s r command c)
    (quiet : ∀ digest next, r.perform s.choose (.command command) = .ok (digest, next) → digest.notice = none) :
    Moment.told ⟨c, move⟩ = none := by
  have stack : ∀ notice waiting rest, c.stack ≠ .round notice waiting :: rest := by
    intro notice waiting rest top
    cases serving with
    | waiting _ stack | asking _ stack => cases top.symm.trans stack
    | concluded _ _ _ silent =>
      rcases silent quiet with draining | none
      · cases top.symm.trans draining
      · cases top.symm.trans none
  cases told : Moment.told ⟨c, move⟩ with
  | none => rfl
  | some delivery =>
    obtain ⟨later, rest, top⟩ := Moment.told_top told
    exact absurd top (stack _ _ _)

theorem Submission.served (submission : Submission s c command moments last) (awaits : Awaits s r c)
    (free : c.stack = []) (empty : c.queue = []) :
    Awaits s (r.after (r.perform s.choose (.command command))) last ∧ last.queue = [] ∧
      ∀ moment ∈ moments, Serving s r command moment.before := by
  obtain ⟨⟨first, entered, path⟩, plain, alone, rest⟩ := submission
  have begins : first = { c with queue := [command], stack := [.work .draining] } := by
    cases entered with
    | call _ called =>
      cases called
      rw [submit_free (by simp [busy, free]), empty, free, List.nil_append]
  have waiting : Serving s r command first := by
    rw [begins]
    exact .waiting ⟨awaits.rule, awaits.datacenter, awaits.lifecycle, awaits.registry⟩ rfl rfl
  obtain ⟨serving, before⟩ := runs_serving waiting path plain alone
  cases serving with
  | waiting _ stack | asking _ stack => cases rest.symm.trans stack
  | concluded awaits queue => exact ⟨awaits, queue, before⟩

theorem submission_exists (s : Setting χ) (command : Command) (free : c.stack = []) :
    ∃ moments last, Submission s c command moments last := by
  have waits : c.step? = none := by simp [step?, free]
  obtain ⟨moments, last, path, plain, alone, rest⟩ := rest_exists s (c.submit command)
  exact ⟨moments, last, ⟨_, .call waits rfl, path⟩, plain, alone, rest⟩

end Serving

-- Whatever went on before, and whatever the listeners and the evaluator come to.
theorem commands_idempotent (rule : DistanceRule) (configured : Option String) (listeners : List (Listener χ))
    (writes : List Registry.Write) {moments : List (Moment χ)} {c : Coordinator χ}
    (path : Runs { fresh rule configured listeners with registry := Registry.empty.run writes } moments c)
    (ready : c.lifecycle = .ready) (free : c.stack = [])
    (evaluate : Descriptor → String → Except Fault (Option Distance)) (command : Command) :
    ∃ s : Setting χ, s.rule = rule ∧ c.datacenter = some s.datacenter ∧ s.evaluate = evaluate ∧
      s.listeners = c.listeners ∧
      (∃ once first, Submission s c command once first) ∧
      ∀ once first, Submission s c command once first →
        first.registry = c.registry.after (c.registry.perform s.choose (.command command)) ∧
        (∃ again second, Submission s first command again second) ∧
        ∀ again second, Submission s first command again second →
          second.registry = first.registry ∧ ∀ moment ∈ again, moment.told = none := by
  have sound := fresh_sound rule configured listeners (Registry.empty.run writes)
  have orderly := runs_orderly sound (fresh_orderly rule configured listeners (Registry.empty.run writes)) path
  have valid := runs_coherent (Registry.run_coherent Registry.empty_coherent writes) path
  obtain ⟨datacenter, located⟩ := Option.isSome_iff_exists.mp ((runs_sound sound path).1.located (.inr ready))
  let s : Setting χ := ⟨rule, datacenter, evaluate, c.listeners⟩
  have awaits : Awaits s c.registry c := ⟨(runs_terms path).1, located, ready, rfl⟩
  have empty : c.queue = [] := orderly.empty (by simp [busy, free]) (by simp [ready])
  refine ⟨s, rfl, located, rfl, rfl, submission_exists s command free, fun once first submission => ?_⟩
  obtain ⟨awaits, empty, _⟩ := submission.served awaits free empty
  refine ⟨awaits.registry, submission_exists s command submission.rest, fun again second resubmission => ?_⟩
  obtain ⟨settled, _, serving⟩ := resubmission.served awaits submission.rest empty
  constructor
  · rw [settled.registry, awaits.registry]
    exact Registry.after_again valid
  · intro moment member
    exact (serving moment member).untold fun digest next done => (Registry.perform_again valid done).2

-- A node turns up in another datacenter, and once more.
theorem moved_twice_is_moved :
    let evaluate : Descriptor → String → Except Fault (Option Distance) := fun _ _ => .ok none
    let node (datacenter : String) : Descriptor := ⟨⟨1⟩, .v4 ⟨10, 0, 0, 1⟩ 9042, some datacenter, none⟩
    let command : Command := .event (.added (node "dc2"))
    ∃ (s : Setting Unit) (moments : List (Moment Unit)) (c : Coordinator Unit) (once : List (Moment Unit))
      (first : Coordinator Unit) (again : List (Moment Unit)) (second : Coordinator Unit),
      s.evaluate = evaluate ∧ Runs (fresh ⟨true, true⟩ (some "dc1") [.outside ()]) moments c ∧
      c.lifecycle = .ready ∧ c.stack = [] ∧ c.registry.topology.home = [⟨⟨1⟩, 0⟩] ∧
      Submission s c command once first ∧ first.registry.topology.remote = [⟨⟨1⟩, 0⟩] ∧
      Submission s first command again second ∧ second.registry = first.registry ∧
      ∀ moment ∈ again, moment.told = none := by
  intro evaluate node command
  let idle : Coordinator Unit := fresh ⟨true, true⟩ (some "dc1") [.outside ()]
  let moves : List (Move Unit) :=
    [.call (.start [node "dc1"] []), .own, .call (.answer (.ok none)), .own, .call .finish, .own, .own, .own,
      .call .finish, .own, .own, .own]
  let choose := Setting.choose (⟨⟨true, true⟩, "dc1", evaluate, []⟩ : Setting Unit)
  have shown : (idle.play moves).map (fun played => (played.2.lifecycle, played.2.stack.isEmpty, played.2.datacenter,
      played.2.registry.topology.home,
      (played.2.registry.after (played.2.registry.perform choose (.command command))).topology.remote)) =
      some (.ready, true, some "dc1", [⟨⟨1⟩, 0⟩], [⟨⟨1⟩, 0⟩]) := by decide +kernel
  obtain ⟨⟨moments, c⟩, played, facts⟩ := Option.map_eq_some_iff.mp shown
  simp only [Prod.mk.injEq, List.isEmpty_iff] at facts
  obtain ⟨ready, free, located, home, remote⟩ := facts
  obtain ⟨path, _⟩ := play_exact.mp played
  obtain ⟨s, ruled, datacenter, evaluated, _, ⟨once, first, submission⟩, course⟩ :=
    commands_idempotent ⟨true, true⟩ (some "dc1") [.outside ()] [] path ready free evaluate command
  obtain ⟨registry, ⟨again, second, resubmission⟩, settled⟩ := course once first submission
  have same : s.choose = choose := by
    funext d
    simp only [Setting.choose, choose, ruled, evaluated, Option.some.inj (datacenter.symm.trans located)]
  refine ⟨s, moments, c, once, first, again, second, evaluated, path, ready, free, home, submission, ?_, resubmission,
    settled again second resubmission⟩
  rw [registry, same]
  exact remote

end Coordinator
end ClusterRouting
