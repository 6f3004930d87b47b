import ClusterRouting.Proofs.Coordinator.Conclusions
import ClusterRouting.Proofs.Coordinator.Stacked

namespace ClusterRouting.Coordinator
variable {χ : Type}

section Queue
variable {start c next : Coordinator χ} {moments : List (Moment χ)}

theorem effect_queue {traffic : Traffic} (effect : Effect c traffic next) :
    c.queue ++ traffic.entered = traffic.left ++ next.queue := by
  cases effect with
  | queued => rfl
  | taken => rfl
  | dispatched _ waiting => simpa [Traffic.entered, Traffic.left] using waiting
  | _ => simp [Traffic.entered, Traffic.left]

theorem runs_queue (path : Runs start moments c) :
    start.queue ++ submitted moments = dispatched moments ++ c.queue := by
  induction path with
  | nil => simp [submitted, dispatched]
  | @step moments c move next _ step ih =>
    have passes := effect_queue (step_effect step)
    simp only [submitted, dispatched, List.flatMap_append, List.flatMap_singleton] at ih ⊢
    rw [← List.append_assoc, ih, List.append_assoc, passes, List.append_assoc]

end Queue

-- What a coordinator is at when a command leaves its queue, and what becomes of the command.
structure Alone (c : Coordinator χ) (command : Command) : Prop where
  innermost : ∃ rest, c.stack = .work .draining :: rest ∧ ∀ frame ∈ rest, frame.role = .closing
  populated : c.lifecycle ≠ .initializing
  applied : c.lifecycle = .ready → ∃ datacenter next, c.datacenter = some datacenter ∧ c.step? = some next ∧
    TakenUp { c with queue := c.queue.tail } datacenter (.command command) next
  dropped : c.lifecycle ≠ .ready → ∃ record, c.step? = some (note { c with queue := c.queue.tail } record)

-- What the evaluator was asked for is concluded with its answer.
def Concluded (c : Coordinator χ) (made : Call χ) : Prop :=
  ∀ verdict datacenter purpose d rest, made.verdict? = some verdict →
    c.stack = .work (.evaluating datacenter purpose d) :: rest →
    c.call? made = some (conclude { c with stack := rest } (purpose.errand d)
      (c.registry.settled purpose d (verdict.map (c.rule.decide datacenter d))))

theorem Moment.leaves {moment : Moment χ} {command : Command} (leaves : moment.traffic = .leaves command) :
    ∃ rest later, moment.before.stack = .work .draining :: rest ∧ moment.before.queue = command :: later := by
  unfold Moment.traffic at leaves
  split at leaves
  · cases leaves
  · rename_i first rest other later _ top waiting
    cases leaves
    exact ⟨rest, later, top, waiting⟩
  · cases leaves

theorem Sound.alone {moment : Moment χ} {command : Command} (sound : Sound moment.before)
    (leaves : moment.traffic = .leaves command) : Alone moment.before command := by
  obtain ⟨rest, later, top, waiting⟩ := Moment.leaves leaves
  have quiet := (sound.stacked_of top).beneath_taking rfl
  have populated : moment.before.lifecycle ≠ .initializing := by
    intro initializing
    obtain ⟨datacenter, left, below⟩ := sound.starting_below top (by simp) initializing
    cases quiet _ below
  have moves : moment.before.step? = some (dispatch { moment.before with queue := later } command) := by
    simp [step?, top, waiting]
  refine ⟨⟨rest, top, quiet⟩, populated, ?_, ?_⟩
  · intro ready
    obtain ⟨datacenter, known⟩ := Option.isSome_iff_exists.mp (sound.located (.inr ready))
    refine ⟨datacenter, _, known, ?_, takeUp_exact _ datacenter (.command command)⟩
    simp [moves, dispatch, ready, known, waiting, takeUp]
  · intro other
    rw [moves, waiting]
    unfold dispatch
    split
    · rename_i ready
      exact absurd ready other
    · exact ⟨_, rfl⟩
    · exact ⟨_, rfl⟩
    · exact ⟨_, rfl⟩

theorem runs_concluded {start c : Coordinator χ} {moments : List (Moment χ)} (path : Runs start moments c)
    {moment : Moment χ} (member : moment ∈ moments) {made : Call χ} (move : moment.move = .call made) :
    Concluded moment.before made := by
  intro verdict datacenter purpose d rest given top
  obtain ⟨_, next, _, step⟩ := path.visits member
  rw [move] at step
  cases step with
  | call _ called =>
    rw [called, evaluated_settles (evaluated_of_verdict given top called) top]

section Returns
variable {before first c next : Coordinator χ} {inner : List (Moment χ)}
variable {base : List (Frame (Listener χ) Notice Job)}

theorem held_ne {stack above : List (Frame (Listener χ) Notice Job)} {frame : Frame (Listener χ) Notice Job}
    (held : stack = above ++ frame :: base) : stack ≠ base := by
  intro back
  have lengths := congrArg List.length (held.symm.trans back)
  simp only [List.length_append, List.length_cons] at lengths
  omega

-- By the time it returns, the queue is empty.
theorem drains_queue (path : Runs first inner c) (held : first.stack = .work .draining :: base)
    (inside : ∀ moment ∈ inner, moment.before.stack ≠ base) (back : c.stack = base) : c.queue = [] := by
  have held : (∃ above, c.stack = above ++ .work .draining :: base) ∨ (c.stack = base ∧ c.queue = []) := by
    refine path.keeps (fun s => (∃ above, s.stack = above ++ .work .draining :: base) ∨ (s.stack = base ∧ s.queue = []))
      (.inl ⟨[], held⟩) fun moment member next step before => ?_
    rcases before with ⟨above, held⟩ | ⟨returned, _⟩
    · exact (step_effect step).restacks.draining held
    · exact absurd returned (inside moment member)
  rcases held with ⟨above, held⟩ | ⟨_, empty⟩
  · exact absurd back (held_ne held)
  · exact empty

-- Nothing leaves the queue up to a moment at which the coordinator is ready.
def Readied (first : Coordinator χ) (inner : List (Moment χ)) : Prop :=
  ∃ populated drained middle, inner = populated ++ drained ∧ Runs first populated middle ∧
    middle.lifecycle = .ready ∧ dispatched populated = []

theorem Readied.later (readied : Readied first inner) (moment : Moment χ) : Readied first (inner ++ [moment]) := by
  obtain ⟨populated, drained, middle, rfl, path, ready, calm⟩ := readied
  exact ⟨populated, drained ++ [moment], middle, List.append_assoc .., path, ready, calm⟩

inductive Starting (base : List (Frame (Listener χ) Notice Job)) (first : Coordinator χ)
    (inner : List (Moment χ)) (c : Coordinator χ) : Prop where
  | populating {datacenter}
      (held : ∃ above left, c.stack = above ++ .work (.populating datacenter left) :: base)
      (calm : dispatched inner = [])
  | draining (held : ∃ above, c.stack = above ++ .work .draining :: base)
      (readied : c.answer = some (.ok ()) → Readied first inner)
  | ended (back : c.stack = base) (done : c.answer = some (.ok ()) → c.queue = [] ∧ Readied first inner)

theorem start_starting {nodes : List Descriptor} {contacts : List HostId}
    (called : before.start? nodes contacts = some first) : Starting before.stack first [] first := by
  obtain ⟨_, ⟨_, error, rfl⟩ | ⟨_, error, rfl⟩ | ⟨_, datacenter, log, rfl⟩⟩ := start_exact called
  · exact .ended rfl (by simp)
  · refine .draining ⟨[], rfl⟩ ?_
    simp [failStart, note, begin]
  · exact .populating ⟨[], nodes, rfl⟩ rfl

theorem populating_calm {datacenter : String} {left : List Descriptor} (sound : Sound c)
    (held : Frame.work (.populating datacenter left) ∈ c.stack) (move : Move χ) :
    (Moment.traffic ⟨c, move⟩).left = [] := by
  cases passes : Moment.traffic ⟨c, move⟩ with
  | still => rfl
  | enters command => rfl
  | leaves command =>
    obtain ⟨rest, top, quiet⟩ := (Sound.alone sound passes).innermost
    change c.stack = _ at top
    rw [top] at held
    rcases List.mem_cons.mp held with other | below
    · cases other
    · cases quiet _ below

theorem starting_step {move : Move χ} (sound : Sound c) (path : Runs first inner c)
    (starting : Starting base first inner c) (inside : c.stack ≠ base) (step : Step c move next) :
    Starting base first (inner ++ [⟨c, move⟩]) next := by
  have effect := step_effect step
  cases starting with
  | @populating datacenter held calm =>
    obtain ⟨above, left, held⟩ := held
    have still : dispatched (inner ++ [⟨c, move⟩]) = [] := by
      have member : Frame.work (.populating datacenter left) ∈ c.stack := by simp [held]
      have passes := populating_calm sound member move
      simpa [dispatched, passes] using calm
    rcases effect.restacks.populating held with held | ⟨stack, ready⟩ | ⟨back, answer⟩
    · exact .populating held still
    · refine .draining ⟨[], stack⟩ fun _ => ?_
      exact ⟨_, [], next, (List.append_nil _).symm, path.step step, ready, still⟩
    · exact .ended back (by simp [answer])
  | draining held readied =>
    obtain ⟨above, held⟩ := held
    have answer := effect.answer sound (by simp [held])
    have onward : next.answer = some (.ok ()) → Readied first (inner ++ [⟨c, move⟩]) :=
      fun ok => (readied (answer ▸ ok)).later _
    rcases effect.restacks.draining held with held | ⟨back, empty⟩
    · exact .draining held onward
    · exact .ended back fun ok => ⟨empty, onward ok⟩
  | ended back => exact absurd back inside

theorem runs_starting (sound : Sound first) (path : Runs first inner c) (starting : Starting base first [] first)
    (inside : ∀ moment ∈ inner, moment.before.stack ≠ base) : Starting base first inner c := by
  induction path with
  | nil => exact starting
  | step path step ih =>
    refine starting_step (runs_sound sound path).1 path (ih fun moment member => ?_) ?_ step
    · exact inside moment (List.mem_append_left _ member)
    · exact inside _ (List.mem_append_right _ List.mem_cons_self)

end Returns

-- A call made earlier has just returned: the stack is for the first time again what it was before it.
structure Returned (moments earlier : List (Moment χ)) (before : Coordinator χ) (call : Call χ)
    (inner : List (Moment χ)) (c : Coordinator χ) : Prop where
  made : moments = earlier ++ ⟨before, .call call⟩ :: inner
  inside : ∀ moment ∈ inner, moment.before.stack ≠ before.stack
  back : c.stack = before.stack

section Calls
variable {start before c : Coordinator χ} {moments earlier inner : List (Moment χ)} {call : Call χ}

theorem Returned.path (returned : Returned moments earlier before call inner c) (sound : Sound start)
    (path : Runs start moments c) :
    ∃ first, before.call? call = some first ∧ Sound first ∧ Runs first inner c := by
  rw [returned.made] at path
  obtain ⟨middle, prior, rest⟩ := path.split
  obtain ⟨same, first, step, later⟩ := rest.first
  have known := (runs_sound sound prior).1
  rw [← same] at known step
  cases step with
  | call _ called => exact ⟨first, called, effect_sound known (call_effect called), later⟩

theorem Returned.submit_empties {command : Command}
    (returned : Returned moments earlier before (.submit command) inner c) (sound : Sound start)
    (path : Runs start moments c) (free : before.busy = false) : c.queue = [] := by
  obtain ⟨first, called, _, later⟩ := returned.path sound path
  cases called
  rw [submit_free free] at later
  exact drains_queue later rfl returned.inside returned.back

theorem Returned.start_empties {nodes : List Descriptor} {contacts : List HostId}
    (returned : Returned moments earlier before (.start nodes contacts) inner c) (sound : Sound start)
    (path : Runs start moments c) (ok : c.answer = some (.ok ())) :
    before.busy = false ∧ c.queue = [] ∧
      ∃ first, before.start? nodes contacts = some first ∧ Readied first inner := by
  obtain ⟨first, called, known, later⟩ := returned.path sound path
  refine ⟨(start_exact called).1, ?_⟩
  have finished : c.queue = [] ∧ Readied first inner := by
    cases runs_starting known later (start_starting called) returned.inside with
    | populating held =>
      obtain ⟨above, left, held⟩ := held
      exact absurd returned.back (held_ne held)
    | draining held =>
      obtain ⟨above, held⟩ := held
      exact absurd returned.back (held_ne held)
    | ended _ done => exact done ok
  exact ⟨finished.1, first, called, finished.2⟩

theorem Returned.after (returned : Returned moments [] before call inner c) (earlier : List (Moment χ)) :
    Returned (earlier ++ moments) earlier before call inner c :=
  ⟨congrArg (earlier ++ ·) returned.made, returned.inside, returned.back⟩

theorem play_returned {moves : List (Move χ)} (played : before.play (.call call :: moves) = some (moments, c))
    (free : before.stack = []) (inside : (moments.tail.all fun moment => !moment.before.stack.isEmpty) = true)
    (back : c.stack = []) :
    Runs before moments c ∧ ∃ inner, moments = ⟨before, .call call⟩ :: inner ∧
      Returned moments [] before call inner c := by
  obtain ⟨path, calls⟩ := play_exact.mp played
  obtain ⟨⟨first, _⟩, inner, rfl, rfl, _⟩ := List.map_eq_cons_iff.mp calls
  obtain ⟨rfl, _⟩ := path.first
  refine ⟨path, inner, rfl, rfl, fun moment member none => ?_, back.trans free.symm⟩
  have held := List.all_eq_true.mp inside moment member
  rw [none, free] at held
  cases held

end Calls

-- A submission made with nothing under way finds nobody busy, and so does one made while a close is told
-- and nothing else; both answer for the whole queue.
theorem runs_keep_order (rule : DistanceRule) (configured : Option String) (listeners : List (Listener χ))
    (registry : Registry) {moments : List (Moment χ)} {c : Coordinator χ}
    (path : Runs { fresh rule configured listeners with registry } moments c) :
    submitted moments = dispatched moments ++ c.queue ∧
      (∀ moment ∈ moments, ∀ command, moment.traffic = .leaves command → Alone moment.before command) ∧
      (∀ moment ∈ moments, ∀ made, moment.move = .call made → Concluded moment.before made) ∧
      (∀ earlier before command inner, Returned moments earlier before (.submit command) inner c →
        before.busy = false → c.queue = [] ∧ c.busy = false) ∧
      (∀ earlier before nodes contacts inner, Returned moments earlier before (.start nodes contacts) inner c →
        c.answer = some (.ok ()) → c.queue = [] ∧ c.busy = false ∧
          ∃ first, before.start? nodes contacts = some first ∧ Readied first inner) := by
  have sound := fresh_sound rule configured listeners registry
  have freed : ∀ {before : Coordinator χ}, c.stack = before.stack → before.busy = false → c.busy = false := by
    intro before back free
    simpa only [busy, back] using free
  refine ⟨by simpa [fresh] using runs_queue path, ?_, fun _ member _ => runs_concluded path member, ?_, ?_⟩
  · intro moment member command leaves
    exact ((runs_sound sound path).2 moment member).alone leaves
  · intro earlier before command inner returned free
    exact ⟨returned.submit_empties sound path free, freed returned.back free⟩
  · intro earlier before nodes contacts inner returned ok
    obtain ⟨free, empty, readied⟩ := returned.start_empties sound path ok
    exact ⟨empty, freed returned.back free, readied⟩

-- The evaluator submits while it runs, and so does a listener that breaks off afterwards: both commands wait for the
-- start to record its node. Later a listener submits while it is told of the change that the holder has asked for.
theorem nested_submissions_keep_order :
    let node : Descriptor := ⟨⟨1⟩, .v4 ⟨10, 0, 0, 1⟩ 9042, some "dc1", none⟩
    let idle : Coordinator Unit := fresh ⟨true, true⟩ (some "dc1") [.outside ()]
    let down : Call Unit := .submit (.event (.down ⟨1⟩))
    ∃ opening ready first later c inner,
      Runs idle opening ready ∧ ready.answer = some (.ok ()) ∧ ready.queue = [] ∧ ready.busy = false ∧
      idle.start? [node] [] = some first ∧ Readied first opening.tail ∧
      Runs idle (opening ++ later) c ∧ Returned (opening ++ later) opening ready down inner c ∧
      c.queue = [] ∧ c.busy = false ∧
      submitted (opening ++ later) = [.event (.up ⟨1⟩), .report ⟨1⟩ .remote, .event (.down ⟨1⟩),
        .event (.reevaluate ⟨1⟩)] ∧
      dispatched (opening ++ later) = submitted (opening ++ later) ∧
      c.registry.distance? ⟨1⟩ = some .home := by
  intro node idle down
  let told : List (Move Unit) := [.own, .call .finish, .own]
  let start : List (Move Unit) :=
    [.own, .call (.submit (.event (.up ⟨1⟩))), .call (.answer (.ok none)), .own,
      .call (.submit (.report ⟨1⟩ .remote)), .call (.throw (.message "boom")), .own, .own] ++ told ++ [.own, .own] ++
      told ++ [.own] ++ told ++ [.own]
  let rest : List (Move Unit) :=
    [.own, .own, .call (.submit (.event (.reevaluate ⟨1⟩))), .call .finish, .own, .own,
      .call (.answer (.ok (some .home)))] ++ told ++ [.own]
  have shown : ((idle.play (.call (.start [node] []) :: start)).bind fun first =>
      (first.2.play (.call down :: rest)).map fun second =>
        ((first.1.tail.all fun moment => !moment.before.stack.isEmpty) && first.2.stack.isEmpty &&
            (second.1.tail.all fun moment => !moment.before.stack.isEmpty) && second.2.stack.isEmpty,
          first.2.answer, submitted (first.1 ++ second.1), second.2.registry.distance? ⟨1⟩)) =
      some (true, some (.ok ()),
        [.event (.up ⟨1⟩), .report ⟨1⟩ .remote, .event (.down ⟨1⟩), .event (.reevaluate ⟨1⟩)], some .home) := by
    decide +kernel
  obtain ⟨⟨opening, ready⟩, opened, continued⟩ := Option.bind_eq_some_iff.mp shown
  obtain ⟨⟨later, c⟩, ended, facts⟩ := Option.map_eq_some_iff.mp continued
  simp only [Prod.mk.injEq, Bool.and_eq_true, List.isEmpty_iff] at facts
  obtain ⟨⟨⟨⟨inside, back⟩, nested⟩, still⟩, answer, sent, distance⟩ := facts
  obtain ⟨path, inner, rfl, started⟩ := play_returned opened rfl inside back
  obtain ⟨onward, deeper, _, returned⟩ := play_returned ended back nested still
  have whole := path.trans onward
  have again := returned.after (⟨idle, .call (.start [node] [])⟩ :: inner)
  obtain ⟨_, _, _, _, starts⟩ := runs_keep_order _ _ _ _ path
  obtain ⟨empty, free, first, called, readied⟩ := starts _ _ _ _ _ started answer
  obtain ⟨order, _, _, submits, _⟩ := runs_keep_order _ _ _ _ whole
  obtain ⟨drained, idle_again⟩ := submits _ _ _ _ again free
  refine ⟨_, ready, first, later, c, deeper, path, answer, empty, free, called, readied, whole, again, drained,
    idle_again, sent, ?_, distance⟩
  rw [order, drained, List.append_nil]

end ClusterRouting.Coordinator
