import ClusterRouting.Policy
import ClusterRouting.Proofs.Coordinator.Openings
import ClusterRouting.Proofs.Coordinator.Stages
import ClusterRouting.Proofs.Plan.Offers

namespace ClusterRouting

def Lifecycle.rank : Lifecycle → Nat
  | created => 0
  | initializing => 1
  | ready => 2
  | closed => 3

def Frame.unclosed {χ : Type} : Frame (Listener χ) Notice Job → List (Listener χ)
  | .round .closing waiting => waiting
  | _ => []

namespace Coordinator
variable {χ : Type}

def unclosed (c : Coordinator χ) : List (Listener χ) := c.stack.flatMap Frame.unclosed

def Moment.closing (moment : Moment χ) : List (Listener χ) :=
  match moment.told with
  | some (child, .closing) => [child]
  | _ => []

def closings (moments : List (Moment χ)) : List (Listener χ) := moments.flatMap Moment.closing

section Turning
variable {start before c next : Coordinator χ} {moments earlier later inner : List (Moment χ)} {move : Move χ}

theorem Turns.rank (turns : Turns c move next) : c.lifecycle.rank ≤ next.lifecycle.rank := by
  cases turns with
  | stays same => exact Nat.le_of_eq (congrArg _ same.symm)
  | starts created => simp [created, Lifecycle.rank]
  | readies initializing turned => simp [initializing, turned, Lifecycle.rank]
  | closes _ turned => cases c.lifecycle <;> simp [turned, Lifecycle.rank]

theorem runs_rank (path : Runs start moments c) :
    (moments.map (fun moment => moment.before.lifecycle.rank) ++ [c.lifecycle.rank]).Pairwise (· ≤ ·) := by
  induction path with
  | nil => simp
  | @step moments c move next _ step ih =>
    have turned := (advance_turns (step_advance step)).rank
    rw [List.map_append, List.map_singleton, List.pairwise_append]
    refine ⟨ih, List.pairwise_singleton _ _, ?_⟩
    intro rank member
    obtain ⟨_, _, earlier⟩ := List.pairwise_append.mp ih
    rw [List.forall_mem_singleton]
    rcases List.mem_append.mp member with before | last
    · exact Nat.le_trans (earlier rank before _ List.mem_cons_self) turned
    · exact List.mem_singleton.mp last ▸ turned

-- A coordinator is created no more once somebody has called for a start, whatever came of it.
theorem created_once {nodes : List Descriptor} {contacts : List HostId}
    (path : Runs start (earlier ++ ⟨before, .call (.start nodes contacts)⟩ :: later) c) : c.lifecycle ≠ .created := by
  obtain ⟨middle, _, rest⟩ := path.split
  obtain ⟨rfl, first, step, onward⟩ := rest.first
  have begun : first.lifecycle ≠ .created := by
    cases step with
    | call _ called =>
      obtain ⟨_, ⟨late, rfl⟩ | ⟨_, error, _, rfl⟩ | ⟨_, _, _, _, rfl⟩⟩ := start_decided called
      · exact late
      · simp [failStart, note, begin]
      · simp
  clear path rest step
  induction onward with
  | nil => exact begun
  | step _ step ih =>
    cases advance_turns (step_advance step) with
    | stays same => rw [same]; exact ih
    | starts _ turned => rcases turned with opened | closed <;> simp [*]
    | readies _ turned => simp [turned]
    | closes _ turned => simp [turned]

theorem step_datacenter {datacenter : String} (orderly : Orderly c) (step : Step c move next)
    (located : c.datacenter = some datacenter) : next.datacenter = some datacenter := by
  rcases (advance_keeps (step_advance step)).datacenter with same | starts
  · exact same.trans located
  · cases step with
    | own => cases starts
    | @call call _ _ called =>
      cases call with
      | start nodes contacts =>
        obtain ⟨_, ⟨_, rfl⟩ | ⟨created, _⟩ | ⟨created, _⟩⟩ := start_decided called
        · exact located
        · cases located.symm.trans (orderly.unset created)
        · cases located.symm.trans (orderly.unset created)
      | _ => cases starts

theorem runs_datacenter (sound : Sound start) (orderly : Orderly start) (path : Runs start moments c) :
    ∀ moment ∈ moments, ∀ datacenter, moment.before.datacenter = some datacenter → c.datacenter = some datacenter := by
  induction path with
  | nil => simp
  | @step moments c move next path step ih =>
    intro moment member datacenter located
    refine step_datacenter (runs_orderly sound orderly path) step ?_
    rcases List.mem_append.mp member with earlier | last
    · exact ih moment earlier datacenter located
    · rw [List.mem_singleton.mp last] at located
      exact located

end Turning

section Starts
variable {start before first c : Coordinator χ} {moments earlier inner : List (Moment χ)}
variable {nodes : List Descriptor} {contacts : List HostId}

theorem Returned.started (returned : Returned moments earlier before (.start nodes contacts) inner c)
    (sound : Sound start) (orderly : Orderly start) (path : Runs start moments c) :
    (c.lifecycle = .ready ∨ c.lifecycle = .closed) ∧
      (c.answer = some (.ok ()) ↔ before.lifecycle = .created ∧
        (∃ found, Datacenter.atStart before.configured nodes contacts = .ok found) ∧ ¬ Interrupted inner) := by
  obtain ⟨first, called, known, later⟩ := returned.path sound path
  obtain ⟨middle, prior, rest⟩ := (returned.made ▸ path).split
  obtain ⟨rfl, _⟩ := rest.first
  have free := (start_exact called).1
  have settled := (runs_sound sound prior).1.settled free
  have tidy := runs_orderly sound orderly prior
  have onward : Orderly first := effect_orderly (runs_sound sound prior).1 tidy (call_effect called)
  obtain ⟨_, ⟨late, rfl⟩ | ⟨created, error, failed, rfl⟩ | ⟨created, found, records, resolved, rfl⟩⟩ :=
    start_decided called
  · obtain ⟨rfl, rfl⟩ := returns_at_once later rfl returned.inside
    refine ⟨?_, by simp [late]⟩
    cases phase : before.lifecycle <;> simp_all
  · rw [closed_drains later rfl rfl returned.inside returned.back]
    exact ⟨.inr rfl, by simp [failed, failStart, note, begin]⟩
  · obtain ⟨turned, answer⟩ := (runs_opening known onward later
      (.populating ⟨[], nodes, rfl⟩ (by simp [Interrupted])) returned.inside).returned returned.back
    refine ⟨turned, ?_⟩
    rcases answer with ⟨ok, smooth⟩ | ⟨error, interrupted⟩
    · simp [ok, smooth, created, resolved]
    · simp [error, interrupted]

-- A start that is made after some of the moments and has returned Ok by the end of them.
def Granted (start : Coordinator χ) (moments earlier : List (Moment χ)) : Prop :=
  ∃ before nodes contacts inner c,
    let whole := earlier ++ ⟨before, .call (.start nodes contacts)⟩ :: inner
    whole <+: moments ∧ Runs start whole c ∧ Returned whole earlier before (.start nodes contacts) inner c ∧
      c.answer = some (.ok ())

theorem granted_last {first second : List (Moment χ)} (sound : Sound start) (orderly : Orderly start)
    (one : Granted start moments first) (two : Granted start moments second) : second.length ≤ first.length := by
  obtain ⟨early, nodes, contacts, inner, _, within, _⟩ := one
  obtain ⟨late, _, _, others, c, beyond, path, returned, ok⟩ := two
  have created : late.lifecycle = .created := ((returned.started sound orderly path).2.mp ok).1
  by_contra longer
  -- the second start comes upon what the first one left behind
  obtain ⟨middle, prior, rest⟩ := path.split
  obtain ⟨rfl, _⟩ := rest.first
  have ahead : first ++ [⟨early, .call (.start nodes contacts)⟩] <+: second := by
    refine @List.prefix_of_prefix_length_le _ _ _ moments ?_ ?_ ?_
    · exact ((List.prefix_append _ inner).trans (by simp)).trans within
    · exact (List.prefix_append _ _).trans beyond
    · simp only [List.length_append, List.length_singleton]
      omega
  obtain ⟨between, rfl⟩ := ahead
  rw [List.append_assoc] at prior
  exact created_once prior created

theorem granted_once {first second : List (Moment χ)} (sound : Sound start) (orderly : Orderly start)
    (one : Granted start moments first) (two : Granted start moments second) : first = second := by
  have same := Nat.le_antisymm (granted_last sound orderly two one) (granted_last sound orderly one two)
  obtain ⟨_, _, _, _, _, within, _⟩ := one
  obtain ⟨_, _, _, _, _, beyond, _⟩ := two
  have ahead : first <+: second := List.prefix_of_prefix_length_le ((List.prefix_append _ _).trans within)
    ((List.prefix_append _ _).trans beyond) (Nat.le_of_eq same)
  exact ahead.eq_of_length same

end Starts

section Closing
variable {start c next : Coordinator χ} {moments : List (Moment χ)} {move : Move χ}

theorem Applies.unclosed (applies : Applies c next) : next.unclosed = c.unclosed := by
  obtain ⟨_, _, frames, rfl, within⟩ := applies
  have none : frames.flatMap Frame.unclosed = [] := by
    rw [List.flatMap_eq_nil_iff]
    intro frame member
    have role := within frame member
    unfold Frame.role at role
    unfold Frame.unclosed
    split <;> simp_all
  simp [Coordinator.unclosed, none]

-- Nobody is left out or told twice, and only the close itself adds to those who are to be told.
theorem advance_unclosed (advance : Advance c move next) :
    Moment.closing ⟨c, move⟩ ++ next.unclosed = c.unclosed ∨
      (c.lifecycle ≠ .closed ∧ next.lifecycle = .closed ∧
        Moment.closing ⟨c, move⟩ ++ next.unclosed = c.listeners ++ c.unclosed) := by
  have silent : ∀ {job rest}, c.stack = .work job :: rest → Moment.closing ⟨c, .own⟩ = [] := by
    intro job rest top
    simp [Moment.closing, Moment.told, top]
  have applied : ∀ {inner : Coordinator χ}, Applies inner next → inner.unclosed = c.unclosed →
      next.unclosed = c.unclosed := fun applies same => applies.unclosed.trans same
  cases advance with
  | @tells notice => cases notice <;> simp [Moment.closing, Moment.told, unclosed, Frame.unclosed, *]
  | @finishes notice => cases notice <;> simp [Moment.closing, Moment.told, unclosed, Frame.unclosed, *]
  | observes top => simp [Moment.closing, Moment.told, unclosed, top, Frame.unclosed]
  | returns _ top => simp [Moment.closing, Moment.told, unclosed, top, Frame.unclosed]
  | records top =>
    rw [silent top]
    exact .inl (applied (initial_applied _ _ _).applies (by simp [unclosed, top, Frame.unclosed]))
  | applies top =>
    rw [silent top]
    exact .inl (applied (apply_applied _ _ _).applies rfl)
  | answers _ top answered =>
    exact .inl (applied (evaluated_answered answered top).applies (by simp [unclosed, top, Frame.unclosed]))
  | closes opened => exact .inr ⟨opened, rfl, rfl⟩
  | assigns top | misses top | readies top | abandons top | drops top | drains top =>
    simp [silent top, unclosed, top, Frame.unclosed]
  | _ => exact .inl rfl

-- Those who have been told of the close and those who will be, in the order in which they registered.
structure Heard (moments : List (Moment χ)) (c : Coordinator χ) : Prop where
  order : closings moments ++ c.unclosed <+: c.listeners
  silent : c.lifecycle ≠ .closed → closings moments ++ c.unclosed = []

theorem runs_heard (silent : start.unclosed = []) (path : Runs start moments c) : Heard moments c := by
  induction path with
  | nil => exact ⟨by simp [closings, silent], fun _ => by simp [closings, silent]⟩
  | @step moments c move next _ step ih =>
    obtain ⟨order, silent⟩ := ih
    have advance := step_advance step
    have kept := advance_keeps advance
    have told : closings (moments ++ [⟨c, move⟩]) ++ next.unclosed =
        closings moments ++ (Moment.closing ⟨c, move⟩ ++ next.unclosed) := by simp [closings]
    rcases advance_unclosed advance with same | ⟨opened, closed, more⟩
    · rw [same] at told
      exact ⟨told ▸ order.trans kept.listeners,
        fun opened => told.trans (silent fun closed => opened (kept.closed closed))⟩
    · obtain ⟨none, rest⟩ := List.append_eq_nil_iff.mp (silent opened)
      rw [more, none, rest, List.nil_append, List.append_nil] at told
      exact ⟨told ▸ kept.listeners, fun opened => absurd closed opened⟩

end Closing

end Coordinator

theorem Walk.nowhere_next (r : Registry) : nowhere.next r = (none, nowhere) := by
  simp [next, nowhere, scan]

theorem Policy.plan_unready {χ φ σ : Type} {p : Policy χ φ} (unready : p.coordinator.lifecycle ≠ .ready)
    (request : Request) : (p.plan request).2.planner = p.planner ∧
      ∀ (judge : Judge φ σ) r state,
        (p.plan request).1.pull judge r state = (.exhausted, (p.plan request).1, state) := by
  unfold plan
  simp only [unready, if_false, true_and]
  intro judge r state
  exact QueryPlan.pull_of_none (Walk.nowhere_next r)

namespace Coordinator
variable {χ φ σ : Type}

-- Whoever is told of anything may call meanwhile, except to start while commands are applied.
theorem lifecycle_only_advances (rule : DistanceRule) (configured : Option String) (listeners : List (Listener χ))
    (registry : Registry) {moments : List (Moment χ)} {c : Coordinator χ}
    (path : Runs { fresh rule configured listeners with registry } moments c) :
    (moments.map (fun moment => moment.before.lifecycle.rank) ++ [c.lifecycle.rank]).Pairwise (· ≤ ·) ∧
      (∀ first second, Granted { fresh rule configured listeners with registry } moments first →
        Granted { fresh rule configured listeners with registry } moments second → first = second) ∧
      (∀ moment ∈ moments, ∀ datacenter, moment.before.datacenter = some datacenter → c.datacenter = some datacenter) ∧
      (∀ earlier before nodes contacts inner, Returned moments earlier before (.start nodes contacts) inner c →
        (c.lifecycle = .ready ∨ c.lifecycle = .closed) ∧
        (c.answer = some (.ok ()) ↔ before.lifecycle = .created ∧
          (∃ found, Datacenter.atStart configured nodes contacts = .ok found) ∧
          ∀ moment ∈ inner, moment.move = .call .close → moment.before.lifecycle ≠ .initializing)) ∧
      (∀ (p : Policy χ φ) request, p.coordinator = c → c.lifecycle ≠ .ready → (p.plan request).2.planner = p.planner ∧
        ∀ (judge : Judge φ σ) r state,
          (p.plan request).1.pull judge r state = (.exhausted, (p.plan request).1, state)) ∧
      closings moments <+: c.listeners := by
  have sound := fresh_sound rule configured listeners registry
  have orderly := fresh_orderly rule configured listeners registry
  refine ⟨runs_rank path, fun first second => granted_once sound orderly, runs_datacenter sound orderly path, ?_, ?_, ?_⟩
  · intro earlier before nodes contacts inner returned
    obtain ⟨turned, answer⟩ := returned.started sound orderly path
    obtain ⟨_, prior, rest⟩ := (returned.made ▸ path).split
    obtain ⟨rfl, _⟩ := rest.first
    rw [(runs_terms prior).2] at answer
    refine ⟨turned, answer.trans ?_⟩
    simp only [Interrupted, Moment.Interrupts, not_exists, not_and]
    rfl
  · rintro p request rfl unready
    exact p.plan_unready unready request
  · exact (List.prefix_append _ _).trans (runs_heard rfl path).order

-- A listener that closes when it hears of the initial node keeps the start from its end, and is told of the close.
theorem interrupted_start_closes :
    let idle : Coordinator Unit := fresh ⟨true, false⟩ (some "dc1") [.outside ()]
    let nodes : List Descriptor := [⟨⟨1⟩, .v4 ⟨10, 0, 0, 1⟩ 9042, some "dc1", none⟩]
    ∃ before inner c, Runs idle (⟨before, .call (.start nodes [])⟩ :: inner) c ∧
      Returned (⟨before, .call (.start nodes [])⟩ :: inner) [] before (.start nodes []) inner c ∧
      c.answer = some (.error .closed) ∧
      (∃ moment ∈ inner, moment.move = .call .close ∧ moment.before.lifecycle = .initializing) ∧
      closings (⟨before, .call (.start nodes [])⟩ :: inner) <+: [.outside ()] := by
  intro idle nodes
  let moves : List (Move Unit) :=
    [.own, .own, .call .close, .own, .call .finish, .own, .call .finish, .own, .own, .own, .call .finish, .own, .own]
  have shown : (idle.play (.call (.start nodes []) :: moves)).map (fun played =>
      (played.1.tail.all fun moment => !moment.before.stack.isEmpty, played.2.stack.isEmpty, played.2.answer,
        played.2.listeners)) = some (true, true, some (.error .closed), [.outside ()]) := rfl
  obtain ⟨⟨moments, c⟩, played, facts⟩ := Option.map_eq_some_iff.mp shown
  simp only [Prod.mk.injEq, List.isEmpty_iff] at facts
  obtain ⟨inside, back, answer, registered⟩ := facts
  obtain ⟨path, inner, rfl, returned⟩ := play_returned played rfl inside back
  obtain ⟨_, _, _, starts, _, told⟩ := @lifecycle_only_advances Unit Unit Unit _ _ _ _ _ _ path
  refine ⟨idle, inner, c, path, returned, answer, ?_, registered ▸ told⟩
  by_contra smooth
  have ok := (starts _ _ _ _ _ returned).2.mpr ⟨rfl, ⟨_, rfl⟩, fun moment member close initializing =>
    smooth ⟨moment, member, close, initializing⟩⟩
  cases answer.symm.trans ok

end Coordinator
end ClusterRouting
