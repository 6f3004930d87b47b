import ClusterRouting.Proofs.Coordinator.Effects

namespace ClusterRouting.Coordinator
variable {χ : Type}

inductive Stacked : List (Frame (Listener χ) Notice Job) → Prop where
  | nil : Stacked []
  | closing {frame rest} (role : frame.role = .closing) (below : Stacked rest) : Stacked (frame :: rest)
  | taking {frame rest} (role : frame.role = .taking) (below : Stacked rest)
      (quiet : ∀ other ∈ rest, other.role = .closing) : Stacked (frame :: rest)
  | within {frame rest} (role : frame.role = .within) (below : Stacked rest)
      (served : ∃ other ∈ rest, other.role = .taking) : Stacked (frame :: rest)

section Stack
variable {frame : Frame (Listener χ) Notice Job} {rest stack frames : List (Frame (Listener χ) Notice Job)}

theorem Stacked.tail (stacked : Stacked (frame :: rest)) : Stacked rest := by
  cases stacked with
  | closing _ below => exact below
  | taking _ below => exact below
  | within _ below => exact below

theorem Stacked.beneath_taking (stacked : Stacked (frame :: rest)) (role : frame.role = .taking) :
    ∀ other ∈ rest, other.role = .closing := by
  cases stacked with
  | closing other => rw [role] at other; cases other
  | taking _ _ quiet => exact quiet
  | within other => rw [role] at other; cases other

theorem Stacked.quiet (stacked : Stacked stack) (free : ∀ frame ∈ stack, frame.role ≠ .taking) :
    ∀ frame ∈ stack, frame.role = .closing := by
  induction stacked with
  | nil => simp
  | closing role _ ih =>
    intro other member
    rcases List.mem_cons.mp member with rfl | later
    · exact role
    · exact ih (fun frame below => free frame (List.mem_cons_of_mem _ below)) other later
  | taking role => exact absurd role (free _ List.mem_cons_self)
  | within _ _ served =>
    obtain ⟨other, member, role⟩ := served
    exact absurd role (free other (List.mem_cons_of_mem _ member))

theorem Stacked.push (stacked : Stacked stack) (served : ∃ other ∈ stack, other.role = .taking)
    (within : ∀ frame ∈ frames, frame.role = .within) : Stacked (frames ++ stack) := by
  induction frames with
  | nil => exact stacked
  | cons first later ih =>
    obtain ⟨other, member, role⟩ := served
    refine .within (within first List.mem_cons_self) ?_ ⟨other, List.mem_append_right _ member, role⟩
    exact ih fun frame below => within frame (List.mem_cons_of_mem _ below)

theorem Stacked.again (stacked : Stacked (frame :: rest)) (role : frame.role ≠ .taking)
    (same : ∀ other ∈ frames, other.role = frame.role) : Stacked (frames ++ rest) := by
  cases stacked with
  | closing closing below =>
    induction frames with
    | nil => exact below
    | cons first later ih =>
      refine .closing ((same first List.mem_cons_self).trans closing) ?_
      exact ih fun other member => same other (List.mem_cons_of_mem _ member)
  | taking taking => exact absurd taking role
  | within within below served =>
    exact below.push served fun other member => (same other member).trans within

theorem Stacked.instead {other : Frame (Listener χ) Notice Job} (stacked : Stacked (frame :: rest))
    (role : frame.role = .taking) (same : other.role = .taking) : Stacked (other :: rest) :=
  .taking same stacked.tail (stacked.beneath_taking role)

end Stack

-- While a start is under way its frame is on the stack, and afterwards the datacenter is known.
structure Sound (c : Coordinator χ) : Prop where
  stacked : Stacked c.stack
  starting : c.lifecycle = .initializing →
    ∃ datacenter left, Frame.work (.populating datacenter left) ∈ c.stack
  located : c.lifecycle = .initializing ∨ c.lifecycle = .ready → c.datacenter.isSome

theorem fresh_sound (rule : DistanceRule) (configured : Option String) (listeners : List (Listener χ))
    (registry : Registry) : Sound { fresh rule configured listeners with registry } :=
  ⟨.nil, by simp [fresh], by simp [fresh]⟩

section Sound
variable {c next : Coordinator χ} {frame : Frame (Listener χ) Notice Job}
variable {rest stack : List (Frame (Listener χ) Notice Job)}

theorem Sound.stacked_of (sound : Sound c) (held : c.stack = stack) : Stacked stack := held ▸ sound.stacked

theorem Sound.starting_below (sound : Sound c) (top : c.stack = frame :: rest)
    (other : ∀ datacenter left, frame ≠ .work (.populating datacenter left))
    (initializing : c.lifecycle = .initializing) :
    ∃ datacenter left, Frame.work (.populating datacenter left) ∈ rest := by
  obtain ⟨datacenter, left, member⟩ := sound.starting initializing
  rw [top] at member
  rcases List.mem_cons.mp member with same | below
  · exact absurd same.symm (other datacenter left)
  · exact ⟨datacenter, left, below⟩

theorem effect_sound {traffic : Traffic} (sound : Sound c)
    (effect : Effect c traffic next) : Sound next := by
  have free : c.busy = false → ∀ frame ∈ c.stack, frame.role ≠ .taking := by
    intro free frame member role
    exact Bool.eq_false_iff.mp free (busy_iff.mpr ⟨frame, member, role⟩)
  have begins : c.busy = false → ∀ {frame}, frame.role = .taking → Stacked (frame :: c.stack) :=
    fun idle _ role => .taking role sound.stacked (sound.stacked.quiet (free idle))
  cases effect with
  | aside => exact ⟨sound.stacked, sound.starting, sound.located⟩
  | unwound top role same =>
    refine ⟨(sound.stacked_of top).again role same, ?_, sound.located⟩
    intro initializing
    obtain ⟨datacenter, left, below⟩ := sound.starting_below top (by rintro _ _ rfl; exact role rfl) initializing
    exact ⟨datacenter, left, List.mem_append_right _ below⟩
  | @recorded datacenter d left rest frames _ _ top within =>
    have stacked : Stacked (.work (.populating datacenter left) :: rest) := (sound.stacked_of top).instead rfl rfl
    refine ⟨stacked.push ⟨_, List.mem_cons_self, rfl⟩ within, ?_, sound.located⟩
    intro _
    exact ⟨datacenter, left, List.mem_append_right _ List.mem_cons_self⟩
  | dispatched top waiting within =>
    refine ⟨sound.stacked.push ⟨_, top ▸ List.mem_cons_self, rfl⟩ within, ?_, sound.located⟩
    intro initializing
    obtain ⟨datacenter, left, member⟩ := sound.starting initializing
    exact ⟨datacenter, left, List.mem_append_right _ member⟩
  | drained top empty =>
    exact ⟨(sound.stacked_of top).tail, sound.starting_below top (by simp), sound.located⟩
  | queued => exact ⟨sound.stacked, sound.starting, sound.located⟩
  | taken idle =>
    refine ⟨begins idle rfl, ?_, sound.located⟩
    intro initializing
    obtain ⟨datacenter, left, member⟩ := sound.starting initializing
    exact ⟨datacenter, left, List.mem_cons_of_mem _ member⟩
  | closed => exact ⟨.closing rfl sound.stacked, by simp, by simp⟩
  | refused => exact ⟨sound.stacked, sound.starting, sound.located⟩
  | failed idle => exact ⟨begins idle rfl, by simp, by simp⟩
  | @started datacenter nodes _ idle =>
    exact ⟨begins idle rfl, fun _ => ⟨datacenter, nodes, List.mem_cons_self⟩, fun _ => rfl⟩
  | readied top initializing =>
    exact ⟨(sound.stacked_of top).instead rfl rfl, by simp, fun _ => sound.located (.inl initializing)⟩
  | abandoned top gone =>
    exact ⟨(sound.stacked_of top).tail, fun initializing => absurd initializing gone, sound.located⟩

end Sound

theorem runs_sound {start c : Coordinator χ} {moments : List (Moment χ)} (sound : Sound start)
    (path : Runs start moments c) : Sound c ∧ ∀ moment ∈ moments, Sound moment.before := by
  induction path with
  | nil => exact ⟨sound, by simp⟩
  | step _ step ih =>
    refine ⟨effect_sound ih.1 (step_effect step), ?_⟩
    intro moment member
    rcases List.mem_append.mp member with earlier | last
    · exact ih.2 moment earlier
    · cases List.mem_singleton.mp last
      exact ih.1

section Restacking
variable {c next : Coordinator χ} {traffic : Traffic} {above base : List (Frame (Listener χ) Notice Job)}

inductive Restacks (c next : Coordinator χ) : Prop where
  | pushed {frames} (stack : next.stack = frames ++ c.stack)
  | unwound {frame rest frames} (top : c.stack = frame :: rest) (role : frame.role ≠ .taking)
      (stack : next.stack = frames ++ rest)
  | recorded {datacenter d left rest frames} (top : c.stack = .work (.populating datacenter (d :: left)) :: rest)
      (stack : next.stack = frames ++ .work (.populating datacenter left) :: rest)
  | drained {rest} (top : c.stack = .work .draining :: rest) (stack : next.stack = rest)
      (empty : next.queue = [])
  | readied {datacenter rest} (top : c.stack = .work (.populating datacenter []) :: rest)
      (stack : next.stack = .work .draining :: rest) (ready : next.lifecycle = .ready)
  | abandoned {datacenter rest} (top : c.stack = .work (.populating datacenter []) :: rest)
      (stack : next.stack = rest) (answer : next.answer = some (.error .closed))

theorem Effect.restacks (effect : Effect c traffic next) : Restacks c next := by
  cases effect with
  | aside => exact .pushed (List.nil_append _).symm
  | unwound top role => exact .unwound top role rfl
  | recorded top => exact .recorded top rfl
  | dispatched => exact .pushed rfl
  | drained top empty => exact .drained top rfl empty
  | queued => exact .pushed (List.nil_append _).symm
  | taken => exact .pushed (List.singleton_append).symm
  | closed => exact .pushed (List.singleton_append).symm
  | refused => exact .pushed (List.nil_append _).symm
  | failed => exact .pushed (List.singleton_append).symm
  | started => exact .pushed (List.singleton_append).symm
  | readied top => exact .readied top rfl rfl
  | abandoned top => exact .abandoned top rfl rfl

theorem Restacks.beneath {frame : Frame (Listener χ) Notice Job} {rest : List (Frame (Listener χ) Notice Job)}
    (restacks : Restacks c next) (held : c.stack = frame :: rest) : ∃ frames, next.stack = frames ++ rest := by
  cases restacks with
  | @pushed frames stack => exact ⟨frames ++ [frame], by simp [stack, held]⟩
  | @unwound _ _ frames top _ stack =>
    cases held.symm.trans top
    exact ⟨frames, stack⟩
  | @recorded datacenter _ left _ frames top stack =>
    cases held.symm.trans top
    exact ⟨frames ++ [.work (.populating datacenter left)], by simp [stack]⟩
  | drained top stack =>
    cases held.symm.trans top
    exact ⟨[], stack⟩
  | readied top stack =>
    cases held.symm.trans top
    exact ⟨[.work .draining], stack⟩
  | abandoned top stack =>
    cases held.symm.trans top
    exact ⟨[], stack⟩

-- Whoever applies commands stays on the stack until the queue is empty.
theorem Restacks.draining (restacks : Restacks c next) (held : c.stack = above ++ .work .draining :: base) :
    (∃ above, next.stack = above ++ .work .draining :: base) ∨ (next.stack = base ∧ next.queue = []) := by
  cases above with
  | cons top between =>
    obtain ⟨frames, result⟩ := restacks.beneath held
    exact .inl ⟨frames ++ between, by simp [result]⟩
  | nil =>
    cases restacks with
    | @pushed frames stack => exact .inl ⟨frames, stack.trans (congrArg _ held)⟩
    | unwound top role =>
      cases held.symm.trans top
      exact absurd rfl role
    | recorded top => cases held.symm.trans top
    | drained top stack empty =>
      cases held.symm.trans top
      exact .inr ⟨stack, empty⟩
    | readied top => cases held.symm.trans top
    | abandoned top => cases held.symm.trans top

-- Recording the initial nodes ends in applying what is queued, unless there was a close.
theorem Restacks.populating (restacks : Restacks c next) {datacenter : String} {left : List Descriptor}
    (held : c.stack = above ++ .work (.populating datacenter left) :: base) :
    (∃ above left, next.stack = above ++ .work (.populating datacenter left) :: base) ∨
      (next.stack = .work .draining :: base ∧ next.lifecycle = .ready) ∨
      (next.stack = base ∧ next.answer = some (.error .closed)) := by
  cases above with
  | cons top between =>
    obtain ⟨frames, result⟩ := restacks.beneath held
    exact .inl ⟨frames ++ between, left, by simp [result]⟩
  | nil =>
    cases restacks with
    | @pushed frames stack => exact .inl ⟨frames, left, stack.trans (congrArg _ held)⟩
    | unwound top role =>
      cases held.symm.trans top
      exact absurd rfl role
    | @recorded _ _ later _ frames top stack =>
      cases held.symm.trans top
      exact .inl ⟨frames, later, stack⟩
    | drained top => cases held.symm.trans top
    | readied top stack ready =>
      cases held.symm.trans top
      exact .inr (.inl ⟨stack, ready⟩)
    | abandoned top stack answer =>
      cases held.symm.trans top
      exact .inr (.inr ⟨stack, answer⟩)

-- No start gets through to its answer while commands are applied.
theorem Effect.answer (effect : Effect c traffic next) (sound : Sound c)
    (held : Frame.work .draining ∈ c.stack) : next.answer = c.answer := by
  have busy : c.busy = true := busy_iff.mpr ⟨_, held, rfl⟩
  have apart : ∀ {datacenter left rest}, c.stack ≠ .work (.populating datacenter left) :: rest := by
    intro datacenter left rest top
    rw [top] at held
    rcases List.mem_cons.mp held with other | below
    · cases other
    · cases (sound.stacked_of top).beneath_taking rfl _ below
  cases effect with
  | refused free => rw [busy] at free; cases free
  | failed free => rw [busy] at free; cases free
  | readied top => exact absurd top apart
  | abandoned top => exact absurd top apart
  | _ => rfl

end Restacking

end ClusterRouting.Coordinator
