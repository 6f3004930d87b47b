import ClusterRouting.Proofs.Coordinator.Closed
import ClusterRouting.Proofs.Coordinator.Openings

namespace ClusterRouting

def ErrorKind.unlocated : List ErrorKind :=
  [noContactPoints, unknownContactPoints, undeterminedDatacenter, ambiguousDatacenter]

namespace Coordinator
variable {χ : Type}

section Late
variable {c : Coordinator χ}

-- A start is called too late. Nobody is asked or told, and it returns with the same move.
theorem start_late (free : c.busy = false) (late : c.lifecycle ≠ .created) (nodes : List Descriptor)
    (contacts : List HostId) : c.start? nodes contacts = some { c with
      answer := some (.error (if c.lifecycle = .closed then .closed else .alreadyInitialized)) } := by
  unfold start?
  rw [free]
  cases phase : c.lifecycle with
  | created => exact absurd phase late
  | initializing | ready | closed => simp

end Late

section Returning
variable {start before first c next : Coordinator χ} {moments earlier inner later : List (Moment χ)}
variable {nodes : List Descriptor} {contacts : List HostId} {call : Call χ}

def failed (c : Coordinator χ) (error : RoutingError) : Coordinator χ :=
  { c with
    lifecycle := .closed
    answer := some (.error error)
    meters := c.meters.bump (.initFailures error.kind)
    log := c.log ++ [.startFailed error] }

-- Nothing is queued before there was a start, so nothing is dropped either.
theorem Returned.failed {error : RoutingError} (returned : Returned moments earlier before (.start nodes contacts) inner c)
    (sound : Sound start) (orderly : Orderly start) (path : Runs start moments c)
    (answer : c.answer = some (.error error)) (kind : error.kind ∈ ErrorKind.unlocated) :
    inner = [⟨before.failStart error, .own⟩] ∧ c = before.failed error ∧ before.datacenter = none := by
  obtain ⟨first, called, known, later⟩ := returned.path sound path
  obtain ⟨_, prior, rest⟩ := (returned.made ▸ path).split
  obtain ⟨rfl, _⟩ := rest.first
  have tidy := runs_orderly sound orderly prior
  have onward := effect_orderly (runs_sound sound prior).1 tidy (call_effect called)
  obtain ⟨free, ⟨late, rfl⟩ | ⟨created, other, _, rfl⟩ | ⟨_, _, _, _, rfl⟩⟩ := start_decided called
  · obtain ⟨rfl, rfl⟩ := returns_at_once later rfl returned.inside
    cases answer
    split at kind <;> simp [RoutingError.kind, ErrorKind.unlocated] at kind
  · have empty : before.queue = [] := tidy.empty free (by simp [created])
    obtain ⟨alone, same⟩ := closed_drains_nothing later rfl rfl empty returned.inside returned.back
    have left : c = before.failed other := same
    rw [left] at answer
    cases answer
    exact ⟨alone, left, tidy.unset created⟩
  · obtain ⟨_, ⟨ok, _⟩ | ⟨closed, _⟩⟩ := (runs_opening known onward later
      (.populating ⟨[], nodes, rfl⟩ (by simp [Interrupted])) returned.inside).returned returned.back
    · cases answer.symm.trans ok
    · cases answer.symm.trans closed
      simp [RoutingError.kind, ErrorKind.unlocated] at kind

-- A closed coordinator takes up nothing that is called meanwhile, also where it is still at something else.
theorem Returned.closed_keeps (returned : Returned moments earlier before call inner c) (sound : Sound start)
    (path : Runs start moments c) (closed : before.lifecycle = .closed)
    (made : (∃ command, call = .submit command) ∨ ∃ nodes contacts, call = .start nodes contacts) :
    c.registry = before.registry := by
  obtain ⟨first, called, _, later⟩ := returned.path sound path
  rcases made with ⟨command, rfl⟩ | ⟨nodes, contacts, rfl⟩
  · cases called
    cases working : before.busy with
    | true =>
      rw [submit_busy working] at later
      obtain ⟨_, rfl⟩ := returns_at_once later rfl returned.inside
      rfl
    | false =>
      rw [submit_free working] at later
      rw [closed_drains later closed rfl returned.inside returned.back]
  · obtain ⟨free, _⟩ := start_exact called
    have refused := start_late free (by simp [closed]) nodes contacts
    cases called.symm.trans refused
    obtain ⟨_, rfl⟩ := returns_at_once later rfl returned.inside
    rfl

theorem unwritten_free (sound : Sound c) (free : c.busy = false) : c.unwritten = [] := by
  have quiet := sound.stacked.quiet fun frame member role => busy_of_taking member role free
  rw [unwritten, List.flatMap_eq_nil_iff]
  intro frame member
  have role := quiet frame member
  cases frame with
  | work job => cases job <;> cases role
  | _ => rfl

theorem closed_stays (valid : c.registry.Coherent) (sound : Sound c) (closed : c.lifecycle = .closed)
    (free : c.busy = false) (path : Runs c later next) (mediated : Mediated later) : next.registry = c.registry := by
  obtain ⟨written, left, _, same⟩ := runs_wind valid closed path mediated
  rw [unwritten_free sound free] at left
  exact same (List.append_eq_nil_iff.mp left.symm).1

end Returning

-- The single move that a failed start is followed by empties the queue, in which nothing is.
theorem failed_start_only_closes (rule : DistanceRule) (configured : Option String) (listeners : List (Listener χ))
    (writes : List Registry.Write) {moments : List (Moment χ)} {c : Coordinator χ}
    (path : Runs { fresh rule configured listeners with registry := Registry.empty.run writes } moments c) :
    (∀ earlier before nodes contacts inner error, Returned moments earlier before (.start nodes contacts) inner c →
      c.answer = some (.error error) → error.kind ∈ ErrorKind.unlocated →
        inner = [⟨before.failStart error, .own⟩] ∧ c = before.failed error ∧ c.datacenter = none ∧
        ∀ counter, c.meters.count counter =
          before.meters.count counter + if .initFailures error.kind = counter then 1 else 0) ∧
      (c.busy = false → c.lifecycle ≠ .created → ∀ nodes contacts, c.start? nodes contacts = some { c with
        answer := some (.error (if c.lifecycle = .closed then .closed else .alreadyInitialized)) }) ∧
      (∀ earlier before call inner, Returned moments earlier before call inner c → before.lifecycle = .closed →
        (∃ command, call = .submit command) ∨ (∃ nodes contacts, call = .start nodes contacts) →
        c.registry = before.registry) ∧
      (c.busy = false → c.lifecycle = .closed → ∀ later next, Runs c later next → Mediated later →
        next.registry = c.registry) := by
  have sound := fresh_sound rule configured listeners (Registry.empty.run writes)
  have orderly := fresh_orderly rule configured listeners (Registry.empty.run writes)
  have valid := runs_coherent (Registry.run_coherent Registry.empty_coherent writes) path
  refine ⟨?_, start_late, ?_, ?_⟩
  · intro earlier before nodes contacts inner error returned answer kind
    obtain ⟨alone, left, unset⟩ := returned.failed sound orderly path answer kind
    refine ⟨alone, left, left ▸ unset, fun counter => ?_⟩
    rw [left]
    exact Meters.count_bump before.meters (.initFailures error.kind) counter
  · intro earlier before call inner returned closed made
    exact returned.closed_keeps sound path closed made
  · intro free closed later next onward mediated
    exact closed_stays valid (runs_sound sound path).1 closed free onward mediated

-- The contact point is not among the nodes. The one that is known stays as it is, also when it is reported down.
theorem unknown_contact_only_closes :
    let known : Descriptor := ⟨⟨1⟩, .v4 ⟨10, 0, 0, 1⟩ 9042, some "dc1", none⟩
    let writes : List Registry.Write := [.upsert known ⟨[], .ok .home⟩]
    let idle : Coordinator Unit := { fresh ⟨true, false⟩ none [.outside ()] with registry := Registry.empty.run writes }
    let call : Call Unit := .start [known] [⟨9⟩]
    ∃ before inner c later next, Runs idle (⟨before, .call call⟩ :: inner) c ∧
      Returned (⟨before, .call call⟩ :: inner) [] before call inner c ∧
      c.answer = some (.error .unknownContactPoints) ∧ ErrorKind.unknownContactPoints ∈ ErrorKind.unlocated ∧
      c = before.failed .unknownContactPoints ∧ c.meters.count (.initFailures .unknownContactPoints) = 1 ∧
      c.busy = false ∧ c.lifecycle = .closed ∧ Runs c later next ∧ Mediated later ∧
      submitted later = [.event (.down ⟨1⟩)] ∧ next.registry = before.registry := by
  intro known writes idle call
  let rest : List (Move Unit) := [.call (.submit (.event (.down ⟨1⟩))), .own, .own]
  have shown : ((idle.play [.call call, .own]).bind fun first => (first.2.play rest).map fun second =>
      (first.1.tail.all fun moment => !moment.before.stack.isEmpty, first.2.stack.isEmpty, first.2.answer,
        first.2.busy, first.2.lifecycle, submitted second.1)) =
      some (true, true, some (.error .unknownContactPoints), false, .closed, [.event (.down ⟨1⟩)]) := rfl
  obtain ⟨⟨moments, c⟩, opened, continued⟩ := Option.bind_eq_some_iff.mp shown
  obtain ⟨⟨later, next⟩, closed, facts⟩ := Option.map_eq_some_iff.mp continued
  simp only [Prod.mk.injEq, List.isEmpty_iff] at facts
  obtain ⟨inside, back, answer, free, ended, sent⟩ := facts
  obtain ⟨path, inner, rfl, returned⟩ := play_returned opened rfl inside back
  obtain ⟨onward, others⟩ := play_exact.mp closed
  have mediated : Mediated later := by
    rw [Mediated, others]
    decide
  obtain ⟨fails, _, _, stays⟩ := failed_start_only_closes ⟨true, false⟩ none [.outside ()] writes path
  have kind : ErrorKind.unknownContactPoints ∈ ErrorKind.unlocated := by decide
  obtain ⟨_, left, _, counted⟩ := fails _ _ _ _ _ _ returned answer kind
  refine ⟨idle, inner, c, later, next, path, returned, answer, kind, left, counted _, free, ended, onward, mediated,
    sent, ?_⟩
  rw [stays free ended later next onward mediated, left]
  rfl

end Coordinator
end ClusterRouting
