import ClusterRouting.Proofs.Coordinator.Order

namespace ClusterRouting.Coordinator
variable {χ : Type}

inductive Turns (c : Coordinator χ) : Move χ → Coordinator χ → Prop where
  | stays {move next} (same : next.lifecycle = c.lifecycle) (late : move = .call .close → c.lifecycle = .closed) :
      Turns c move next
  | starts {nodes contacts next} (created : c.lifecycle = .created)
      (turned : next.lifecycle = .initializing ∨ next.lifecycle = .closed) : Turns c (.call (.start nodes contacts)) next
  | readies {next} (initializing : c.lifecycle = .initializing) (turned : next.lifecycle = .ready)
      (answer : next.answer = some (.ok ())) : Turns c .own next
  | closes {next} (opened : c.lifecycle ≠ .closed) (turned : next.lifecycle = .closed) : Turns c (.call .close) next

theorem advance_turns {c next : Coordinator χ} {move : Move χ} (advance : Advance c move next) : Turns c move next := by
  have applied : ∀ {inner : Coordinator χ}, Applies inner next → inner.lifecycle = c.lifecycle →
      next.lifecycle = c.lifecycle := by
    rintro inner ⟨_, _, _, rfl, _⟩ same
    exact same
  cases advance with
  | records => exact .stays (applied (initial_applied _ _ _).applies rfl) nofun
  | applies => exact .stays (applied (apply_applied _ _ _).applies rfl) nofun
  | answers given top answered =>
    refine .stays (applied (evaluated_answered answered top).applies rfl) ?_
    rintro ⟨⟩
    cases given
  | returns ends =>
    refine .stays rfl ?_
    rintro ⟨⟩
    cases ends
  | writes direct =>
    refine .stays rfl ?_
    rintro ⟨⟩
    cases direct
  | readies _ starting => exact .readies starting rfl rfl
  | closes opened => exact .closes opened rfl
  | stays closed => exact .stays rfl fun _ => closed
  | fails _ _ created => exact .starts created (.inr rfl)
  | starts _ created => exact .starts created (.inl rfl)
  | _ => exact .stays rfl nofun

-- What holds of any coordinator that was never anything but fresh: initial nodes are recorded by a start, which
-- comes before any datacenter, and whoever leaves a queue behind has found the coordinator closed.
structure Orderly (c : Coordinator χ) : Prop where
  populating : ∀ datacenter left, Frame.work (.populating datacenter left) ∈ c.stack →
    c.lifecycle = .initializing ∨ c.lifecycle = .closed
  unset : c.lifecycle = .created → c.datacenter = none
  empty : c.busy = false → c.lifecycle ≠ .closed → c.queue = []

section Orderly
variable {start c next : Coordinator χ} {moments : List (Moment χ)}

theorem fresh_orderly (rule : DistanceRule) (configured : Option String) (listeners : List (Listener χ))
    (registry : Registry) : Orderly { fresh rule configured listeners with registry } :=
  ⟨by simp [fresh], fun _ => rfl, fun _ _ => rfl⟩

theorem busy_of_taking {frame : Frame (Listener χ) Notice Job} (held : frame ∈ c.stack) (role : frame.role = .taking)
    (free : c.busy = false) : False :=
  Bool.eq_false_iff.mp free (busy_iff.mpr ⟨frame, held, role⟩)

theorem effect_orderly {traffic : Traffic} (sound : Sound c) (orderly : Orderly c) (effect : Effect c traffic next) :
    Orderly next := by
  obtain ⟨populating, unset, empty⟩ := orderly
  have within : ∀ {frames : List (Frame (Listener χ) Notice Job)} {datacenter left},
      (∀ frame ∈ frames, frame.role ≠ .taking) → Frame.work (.populating datacenter left) ∉ frames :=
    fun other member => other _ member rfl
  cases effect with
  | aside => exact ⟨populating, unset, empty⟩
  | @unwound frame rest frames _ _ _ top role same =>
    have others : ∀ other ∈ frames, other.role ≠ .taking := fun other member => same other member ▸ role
    refine ⟨fun datacenter left member => ?_, unset, fun free => empty ?_⟩
    · rcases List.mem_append.mp member with above | below
      · exact absurd above (within others)
      · exact populating datacenter left (top ▸ List.mem_cons_of_mem _ below)
    · -- the frames that come and go take no commands
      rw [Bool.eq_false_iff, Ne, busy_iff] at free ⊢
      rintro ⟨other, member, taking⟩
      rw [top] at member
      rcases List.mem_cons.mp member with rfl | below
      · exact role taking
      · exact free ⟨other, List.mem_append_right _ below, taking⟩
  | @recorded datacenter d left rest frames _ _ top others =>
    refine ⟨fun _ _ _ => populating datacenter (d :: left) (top ▸ List.mem_cons_self), unset, fun free => ?_⟩
    exact (busy_of_taking (List.mem_append_right _ List.mem_cons_self) rfl free).elim
  | @dispatched _ _ rest frames _ _ top waiting others =>
    refine ⟨fun datacenter left member => ?_, unset, fun free => ?_⟩
    · rcases List.mem_append.mp member with above | below
      · exact absurd above (within fun other held => by simp [others other held])
      · exact populating datacenter left below
    · exact (busy_of_taking (List.mem_append_right _ (top ▸ List.mem_cons_self)) rfl free).elim
  | drained top none =>
    exact ⟨fun datacenter left below => populating datacenter left (top ▸ List.mem_cons_of_mem _ below), unset,
      fun _ _ => none⟩
  | queued busy => exact ⟨populating, unset, fun free => by cases busy.symm.trans free⟩
  | taken =>
    refine ⟨fun datacenter left member => ?_, unset, fun free => ?_⟩
    · exact populating datacenter left (by simpa using member)
    · exact (busy_of_taking List.mem_cons_self rfl free).elim
  | closed => exact ⟨fun _ _ _ => .inr rfl, nofun, fun _ opened => absurd rfl opened⟩
  | refused => exact ⟨populating, unset, empty⟩
  | failed => exact ⟨fun _ _ _ => .inr rfl, nofun, fun _ opened => absurd rfl opened⟩
  | started => exact ⟨fun _ _ _ => .inl rfl, nofun, fun free => (busy_of_taking List.mem_cons_self rfl free).elim⟩
  | @readied datacenter rest _ top =>
    refine ⟨fun datacenter left member => ?_, nofun, fun free => ?_⟩
    · rcases List.mem_cons.mp member with other | below
      · cases other
      · cases (sound.stacked_of top).beneath_taking rfl _ below
    · exact (busy_of_taking List.mem_cons_self rfl free).elim
  | @abandoned datacenter _ top gone =>
    have closed : c.lifecycle = .closed := by
      rcases populating datacenter [] (top ▸ List.mem_cons_self) with initializing | closed
      · exact absurd initializing gone
      · exact closed
    exact ⟨fun datacenter left below => populating datacenter left (top ▸ List.mem_cons_of_mem _ below), unset,
      fun _ opened => absurd closed opened⟩

theorem runs_orderly (sound : Sound start) (orderly : Orderly start) (path : Runs start moments c) : Orderly c := by
  induction path with
  | nil => exact orderly
  | step path step ih => exact effect_orderly (runs_sound sound path).1 ih (step_effect step)

theorem Sound.settled (sound : Sound c) (free : c.busy = false) : c.lifecycle ≠ .initializing := by
  intro initializing
  obtain ⟨_, _, held⟩ := sound.starting initializing
  exact busy_of_taking held rfl free

end Orderly

-- A close that keeps a start from its end.
def Moment.Interrupts (moment : Moment χ) : Prop :=
  moment.move = .call .close ∧ moment.before.lifecycle = .initializing

def Interrupted (inner : List (Moment χ)) : Prop := ∃ moment ∈ inner, moment.Interrupts

theorem interrupted_append {inner : List (Moment χ)} {moment : Moment χ} :
    Interrupted (inner ++ [moment]) ↔ Interrupted inner ∨ moment.Interrupts := by
  simp only [Interrupted, List.mem_append, List.mem_singleton, or_and_right, exists_or, exists_eq_left]

-- How far a start has come that found the coordinator created and a datacenter to go with.
inductive Opening (base : List (Frame (Listener χ) Notice Job)) (inner : List (Moment χ)) (c : Coordinator χ) :
    Prop where
  | populating {datacenter} (held : ∃ above left, c.stack = above ++ .work (.populating datacenter left) :: base)
      (phase : c.lifecycle = .closed ↔ Interrupted inner)
  | draining (held : ∃ above, c.stack = above ++ .work .draining :: base)
      (turned : c.lifecycle = .ready ∨ c.lifecycle = .closed) (answer : c.answer = some (.ok ()))
      (smooth : ¬ Interrupted inner)
  | ended (back : c.stack = base) (turned : c.lifecycle = .ready ∨ c.lifecycle = .closed)
      (answer : (c.answer = some (.ok ()) ∧ ¬ Interrupted inner) ∨
        (c.answer = some (.error .closed) ∧ Interrupted inner))

section Opening
variable {first c next : Coordinator χ} {inner : List (Moment χ)} {move : Move χ}
variable {base above : List (Frame (Listener χ) Notice Job)}

theorem Stacked.beneath (stacked : Stacked (above ++ base)) : Stacked base := by
  induction above with
  | nil => exact stacked
  | cons frame above ih => exact ih stacked.tail

theorem Turns.phase (turns : Turns c move next) (opened : c.lifecycle = .initializing ∨ c.lifecycle = .closed)
    (phase : c.lifecycle = .closed ↔ Interrupted inner) :
    next.lifecycle = .closed ↔ Interrupted (inner ++ [⟨c, move⟩]) := by
  rw [interrupted_append, ← phase]
  cases turns with
  | stays same late =>
    rw [same]
    refine ⟨.inl, ?_⟩
    rintro (closed | ⟨close, _⟩)
    · exact closed
    · exact late close
  | starts created => simp [created] at opened
  | readies initializing turned => simp [initializing, turned, Moment.Interrupts]
  | closes still turned =>
    have initializing : c.lifecycle = .initializing := opened.resolve_right still
    simp [initializing, turned, Moment.Interrupts]

theorem Turns.finished (turns : Turns c move next) (turned : c.lifecycle = .ready ∨ c.lifecycle = .closed) :
    (next.lifecycle = .ready ∨ next.lifecycle = .closed) ∧ ¬ Moment.Interrupts ⟨c, move⟩ := by
  have past : ¬ Moment.Interrupts ⟨c, move⟩ := by
    rintro ⟨_, initializing⟩
    simp only at initializing
    simp [initializing] at turned
  refine ⟨?_, past⟩
  cases turns with
  | stays same => exact same ▸ turned
  | starts created => simp [created] at turned
  | readies initializing => simp [initializing] at turned
  | closes _ closed => exact .inr closed

theorem opening_step (sound : Sound c) (orderly : Orderly c) (opening : Opening base inner c)
    (inside : c.stack ≠ base) (step : Step c move next) : Opening base (inner ++ [⟨c, move⟩]) next := by
  have effect := step_effect step
  have turns := advance_turns (step_advance step)
  cases opening with
  | @populating datacenter held phase =>
    obtain ⟨above, left, held⟩ := held
    have opened := orderly.populating datacenter left (by simp [held])
    have onward := turns.phase opened phase
    rcases effect.restacks.populating held with still | ⟨stack, ready⟩ | ⟨back, error⟩
    · exact .populating still onward
    · have smooth : ¬ Interrupted (inner ++ [⟨c, move⟩]) := by simp [← onward, ready]
      refine .draining ⟨[], stack⟩ (.inl ready) ?_ smooth
      cases turns with
      | readies _ _ answer => exact answer
      | stays same => simp [← same, ready] at opened
      | starts _ turned => simp [ready] at turned
      | closes _ closed => cases ready.symm.trans closed
    · have below : Stacked (.work (.populating datacenter left) :: base) := (held ▸ sound.stacked).beneath
      have closed : next.lifecycle = .closed := by
        cases turns with
        | stays same =>
          refine same.trans (opened.resolve_left fun initializing => ?_)
          -- the frame of the start is gone
          obtain ⟨_, _, member⟩ := (effect_sound sound effect).starting (same.trans initializing)
          rw [back] at member
          cases below.beneath_taking rfl _ member
        | starts created => simp [created] at opened
        | readies _ _ answer => cases error.symm.trans answer
        | closes _ closed => exact closed
      exact .ended back (.inr closed) (.inr ⟨error, onward.mp closed⟩)
  | draining held turned answer smooth =>
    obtain ⟨above, held⟩ := held
    obtain ⟨later, past⟩ := turns.finished turned
    have kept : next.answer = some (.ok ()) := (effect.answer sound (by simp [held])).trans answer
    have calm : ¬ Interrupted (inner ++ [⟨c, move⟩]) := by simp [interrupted_append, smooth, past]
    rcases effect.restacks.draining held with still | ⟨back, _⟩
    · exact .draining still later kept calm
    · exact .ended back later (.inl ⟨kept, calm⟩)
  | ended back => exact absurd back inside

theorem runs_opening (sound : Sound first) (orderly : Orderly first) (path : Runs first inner c)
    (opening : Opening base [] first) (inside : ∀ moment ∈ inner, moment.before.stack ≠ base) : Opening base inner c := by
  induction path with
  | nil => exact opening
  | step path step ih =>
    refine opening_step (runs_sound sound path).1 (runs_orderly sound orderly path)
      (ih fun moment member => ?_) ?_ step
    · exact inside moment (List.mem_append_left _ member)
    · exact inside _ (List.mem_append_right _ List.mem_cons_self)

theorem Opening.returned (opening : Opening base inner c) (back : c.stack = base) :
    (c.lifecycle = .ready ∨ c.lifecycle = .closed) ∧
      ((c.answer = some (.ok ()) ∧ ¬ Interrupted inner) ∨ (c.answer = some (.error .closed) ∧ Interrupted inner)) := by
  cases opening with
  | populating held =>
    obtain ⟨above, left, held⟩ := held
    exact absurd back (held_ne held)
  | draining held =>
    obtain ⟨above, held⟩ := held
    exact absurd back (held_ne held)
  | ended _ turned answer => exact ⟨turned, answer⟩

end Opening

section Refused
variable {first c next : Coordinator χ} {inner : List (Moment χ)} {move : Move χ}
variable {base : List (Frame (Listener χ) Notice Job)}

theorem returns_at_once (path : Runs first inner c) (same : first.stack = base)
    (inside : ∀ moment ∈ inner, moment.before.stack ≠ base) : inner = [] ∧ c = first := by
  cases inner with
  | nil => exact ⟨rfl, path.eq_of_nil⟩
  | cons moment later =>
    obtain ⟨rfl, _⟩ := path.first
    exact absurd same (inside moment List.mem_cons_self)

-- Where the queue of a closed coordinator is emptied, nobody else gets a move.
theorem closed_drain_step (closed : c.lifecycle = .closed) (top : c.stack = .work .draining :: base)
    (step : Step c move next) : move = .own ∧ ((c.queue = [] ∧ next = { c with stack := base }) ∨
      ∃ command later log, c.queue = command :: later ∧ next = { c with queue := later, log := log }) := by
  cases waiting : c.queue with
  | nil =>
    have drains : c.step? = some { c with queue := [], stack := base } := by simp [step?, top, waiting]
    cases step with
    | own moved => exact ⟨rfl, .inl ⟨rfl, Option.some.inj (moved.symm.trans drains)⟩⟩
    | call waits => cases drains.symm.trans waits
  | cons command later =>
    have drops : c.step? = some (note { c with queue := later } (.commandAfterClose command.kind command.host)) := by
      simp [step?, top, waiting, dispatch, closed]
    cases step with
    | own moved => exact ⟨rfl, .inr ⟨command, later, _, rfl, Option.some.inj (moved.symm.trans drops)⟩⟩
    | call waits => cases drops.symm.trans waits

theorem closed_drains (path : Runs first inner c) (closed : first.lifecycle = .closed)
    (top : first.stack = .work .draining :: base) (inside : ∀ moment ∈ inner, moment.before.stack ≠ base)
    (back : c.stack = base) : c = { first with queue := c.queue, log := c.log, stack := base } := by
  have course : c = { first with queue := c.queue, log := c.log, stack := .work .draining :: base } ∨
      c = { first with queue := c.queue, log := c.log, stack := base } := by
    refine path.keeps (fun s => s = { first with queue := s.queue, log := s.log, stack := .work .draining :: base } ∨
      s = { first with queue := s.queue, log := s.log, stack := base }) (.inl (by rw [← top])) ?_
    intro moment member next step before
    rcases before with drops | ended
    · have shut : moment.before.lifecycle = .closed := by rw [drops, closed]
      have held : moment.before.stack = .work .draining :: base := by rw [drops]
      rcases (closed_drain_step shut held step).2 with ⟨_, rfl⟩ | ⟨_, _, _, _, rfl⟩
      · exact .inr (by rw [drops])
      · exact .inl (by rw [drops])
    · exact absurd (by rw [ended]) (inside moment member)
  rcases course with drops | ended
  · have held : c.stack = [] ++ .work .draining :: base := by rw [drops, List.nil_append]
    exact absurd back (held_ne held)
  · exact ended

-- With nothing in the queue it takes the one move.
theorem closed_drains_nothing (path : Runs first inner c) (closed : first.lifecycle = .closed)
    (top : first.stack = .work .draining :: base) (empty : first.queue = [])
    (inside : ∀ moment ∈ inner, moment.before.stack ≠ base) (back : c.stack = base) :
    inner = [⟨first, .own⟩] ∧ c = { first with stack := base } := by
  cases inner with
  | nil =>
    obtain rfl := path.eq_of_nil
    rw [top] at back
    exact absurd back (held_ne (List.nil_append _).symm)
  | cons moment later =>
    obtain ⟨found, next, step, rest⟩ := path.first
    obtain ⟨_, move⟩ := moment
    cases found
    obtain ⟨rfl, ⟨_, rfl⟩ | ⟨_, _, _, waiting, _⟩⟩ := closed_drain_step closed top step
    · obtain ⟨rfl, rfl⟩ := returns_at_once rest rfl fun moment member =>
        inside moment (List.mem_cons_of_mem _ member)
      exact ⟨rfl, rfl⟩
    · cases empty.symm.trans waiting

end Refused

end ClusterRouting.Coordinator
