import ClusterRouting.Coordinator.Settle
import ClusterRouting.Proofs.Coordinator.Bookkeeping

namespace ClusterRouting

def Setting.fresh {χ : Type} (s : Setting χ) (r : Registry) : Coordinator χ :=
  { Coordinator.fresh s.rule (some s.datacenter) s.listeners with registry := r }

namespace Coordinator
variable {χ : Type}

-- A start, and then commands, up to where nothing is under way any more.
structure Session (s : Setting χ) (r : Registry) (nodes : List Descriptor) (contacts : List HostId)
    (commands : List Command) (moments : List (Moment χ)) (c : Coordinator χ) : Prop where
  path : ∃ first, Step (s.fresh r) (.call (.start nodes contacts)) first ∧ Runs first moments c
  plain : ∀ moment ∈ moments, moment.Plain s
  commands : submitted moments = commands
  rest : c.stack = []

section Sessions
variable {s : Setting χ} {r : Registry} {nodes : List Descriptor} {contacts : List HostId} {commands : List Command}
variable {moments : List (Moment χ)} {c first : Coordinator χ}

theorem start_exact_configured (s : Setting χ) (r : Registry) (nodes : List Descriptor) (contacts : List HostId) :
    (s.fresh r).start? nodes contacts = some { s.fresh r with
      lifecycle := .initializing
      datacenter := some s.datacenter
      log := (Ledger.opened s r nodes contacts).log
      stack := [.work (.populating s.datacenter nodes)] } := by
  simp [start?, Setting.fresh, fresh, busy, Datacenter.atStart, Datacenter.resolve, noteAll, begin, Ledger.opened]

theorem start_underway (step : Step (s.fresh r) (.call (.start nodes contacts)) first) :
    Underway s first (.serving (.initial s.datacenter nodes)) (Ledger.opened s r nodes contacts) := by
  cases step with
  | call _ called =>
    cases called.symm.trans (start_exact_configured s r nodes contacts)
    exact ⟨rfl, rfl, rfl, rfl, rfl, rfl, ⟨rfl, rfl⟩, trivial, by simp⟩

theorem runs_book {stage : Stage χ} {ledger : Ledger χ} (under : Underway s first stage ledger)
    (shown : Shown s [] stage ledger) (path : Runs first moments c) (plain : ∀ moment ∈ moments, moment.Plain s) :
    ∃ later booked, Underway s c later booked ∧ Shown s moments later booked ∧
      later.outlook s c.queue booked = (stage.outlook s first.queue ledger).apply s (submitted moments) := by
  induction path with
  | nil => exact ⟨stage, ledger, under, shown, rfl⟩
  | @step moments middle move next path step ih =>
    obtain ⟨later, booked, onward, marked, outlook⟩ :=
      ih fun moment member => plain moment (List.mem_append_left _ member)
    obtain ⟨last, final, ended, seen, grown⟩ :=
      step_books onward marked step (plain _ (List.mem_append_right _ List.mem_cons_self))
    refine ⟨last, final, ended, seen, grown.trans ?_⟩
    rw [outlook]
    simp [submitted, Ledger.apply, List.flatMap_append]

-- Whoever asked for what and when, and however the listeners ended.
theorem session_exact (session : Session s r nodes contacts commands moments c) :
    let ledger := Ledger.whole s r nodes contacts commands
    c.lifecycle = .ready ∧ c.answer = some (.ok ()) ∧ c.queue = [] ∧ c.registry = ledger.registry ∧
      c.log.filter (!·.ofListener) = ledger.log.filter (!·.ofListener) ∧ tellings moments = ledger.tellings ∧
      kept moments = ledger.kept ∧ lost moments = ledger.lost := by
  intro ledger
  obtain ⟨first, step, path⟩ := session.path
  have under := start_underway step
  have none : first.queue = [] := by
    cases step with
    | call _ called =>
      cases called.symm.trans (start_exact_configured s r nodes contacts)
      rfl
  obtain ⟨stage, booked, ended, shown, outlook⟩ := runs_book under ⟨rfl, rfl, rfl⟩ path session.plain
  have idle : stage = .idle := by
    have frames := ended.stack.symm.trans session.rest
    cases stage with
    | idle => rfl
    | _ => simp [Stage.frames] at frames
  subst idle
  have queue := ended.idle rfl
  obtain ⟨ready, answer⟩ := ended.stands
  have same : booked = ledger := by
    rw [queue, none, session.commands] at outlook
    exact outlook
  subst same
  refine ⟨ready, answer, queue, ended.registry, ended.log, ?_, ?_, shown.lost⟩
  · simpa [Stage.ahead] using shown.tellings
  · simpa [Stage.asked] using shown.kept

end Sessions

section Existence
variable (s : Setting χ)

theorem answer_weight {c next : Coordinator χ} {verdict : Except Fault (Option Distance)} {datacenter : String}
    {purpose : Purpose} {d : Descriptor} {rest : List (Frame (Listener χ) Notice Job)}
    (top : c.stack = .work (.evaluating datacenter purpose d) :: rest) (answered : c.evaluated? verdict = some next) :
    next.weight < c.weight := by
  have whole : c.weight = weight { c with stack := rest } + recordingWeight c.listeners.length := by
    simp only [weight, top, stackWeight, frameWeight]
    omega
  rw [whole]
  cases evaluated_answered answered top with
  | @assigned peer _ distance => exact weight_assign { c with stack := rest } peer distance
  | failed record =>
    rw [weight_note]
    simp only [recordingWeight]
    omega
  | adopted decided => exact weight_adopt { c with stack := rest } purpose d decided

theorem rest_exists (c : Coordinator χ) :
    ∃ moments last, Runs c moments last ∧ (∀ moment ∈ moments, moment.Plain s) ∧ submitted moments = [] ∧
      last.stack = [] := by
  have onward : ∀ {move : Move χ} {next : Coordinator χ}, Step c move next → Moment.Plain s ⟨c, move⟩ →
      (Moment.traffic ⟨c, move⟩).entered = [] →
      (∃ moments last, Runs next moments last ∧ (∀ moment ∈ moments, moment.Plain s) ∧ submitted moments = [] ∧
        last.stack = []) →
      ∃ moments last, Runs c moments last ∧ (∀ moment ∈ moments, moment.Plain s) ∧ submitted moments = [] ∧
        last.stack = [] := by
    rintro move next step plain quiet ⟨moments, last, path, others, none, rest⟩
    refine ⟨⟨c, move⟩ :: moments, last, (Runs.nil.step step).trans path, ?_, ?_, rest⟩
    · intro moment member
      rcases List.mem_cons.mp member with rfl | later
      · exact plain
      · exact others moment later
    · simpa [submitted, quiet] using none
  cases moved : c.step? with
  | some next =>
    have smaller := weight_step moved
    refine onward (.own moved) (by simp [Moment.Plain]) ?_ (rest_exists next)
    unfold Moment.traffic
    split <;> first | rfl | simp_all
  | none =>
    cases top : c.stack with
    | nil => exact ⟨[], c, .nil, by simp, rfl, top⟩
    | cons frame rest =>
      cases frame with
      | round => simp [step?, top] at moved
      | inside child notice =>
        cases child with
        | meter => simp [step?, top] at moved
        | outside name =>
          have called : c.call? .finish = some { c with stack := rest } := by simp [call?, return?, top]
          have smaller : weight { c with stack := rest } < c.weight := by
            simp only [weight, top, stackWeight, frameWeight]
            omega
          exact onward (.call moved called) (by simp [Moment.Plain, top, Call.ends]) rfl (rest_exists _)
      | work job =>
        cases job with
        | evaluating datacenter purpose d =>
          have called : ∃ next, c.evaluated? (s.evaluate d datacenter) = some next := by
            cases purpose <;> cases s.evaluate d datacenter <;> simp [evaluated?, top, Except.map]
          obtain ⟨next, called⟩ := called
          have smaller := answer_weight top called
          have answered : c.call? (.answer (s.evaluate d datacenter)) = some next := called
          exact onward (.call moved answered) (by simp [Moment.Plain, top, Call.verdict?]) rfl (rest_exists next)
        | populating datacenter left => cases left <;> simp [step?, top] at moved
        | draining => cases queue : c.queue <;> simp [step?, top, queue] at moved
        | assigning peer => cases live : c.registry.node? peer <;> simp [step?, top, live] at moved
termination_by c.weight

-- Each command may be submitted when what came before it is done with.
theorem session_exists (r : Registry) (nodes : List Descriptor) (contacts : List HostId) (commands : List Command) :
    ∃ moments c, Session s r nodes contacts commands moments c := by
  induction commands using List.reverseRecOn with
  | nil =>
    have called : (s.fresh r).call? (.start nodes contacts) = _ := start_exact_configured s r nodes contacts
    have waits : (s.fresh r).step? = none := rfl
    obtain ⟨moments, c, path, plain, none, rest⟩ := rest_exists s _
    exact ⟨moments, c, ⟨_, .call waits called, path⟩, plain, none, rest⟩
  | append_singleton commands command ih =>
    obtain ⟨moments, c, ⟨first, step, path⟩, plain, same, rest⟩ := ih
    have waits : c.step? = none := by simp [step?, rest]
    obtain ⟨others, last, onward, others_plain, none, ended⟩ := rest_exists s (c.submit command)
    refine ⟨moments ++ [⟨c, .call (.submit command)⟩] ++ others, last,
      ⟨first, step, (path.step (.call waits rfl)).trans onward⟩, ?_, ?_, ended⟩
    · simp only [List.forall_mem_append]
      exact ⟨⟨plain, by simp [Moment.Plain]⟩, others_plain⟩
    · have entered : submitted [(⟨c, .call (.submit command)⟩ : Moment χ)] = [command] := rfl
      simp only [submitted, List.flatMap_append] at same none entered ⊢
      simp only [same, none, entered, List.append_nil]

end Existence

end Coordinator
end ClusterRouting
