import ClusterRouting.Proofs.Coordinator.Independence

namespace ClusterRouting

theorem LogRecord.filter_error (log : List LogRecord) :
    (log.filter (!·.ofListener)).filter (·.level = .error) = log.filter (·.level = .error) := by
  rw [List.filter_filter]
  congr 1
  funext record
  cases record <;> rfl

theorem Errand.failure_level (e : Errand) (fault : Fault) : (e.failure fault).level = .error := by
  cases e <;> rfl

namespace Registry

section Logging
variable {choose : Descriptor → Except Fault Distance} {r next : Registry} {e : Errand} {digest : Digest}

theorem recorded_logs {d : Descriptor} {decided : Except Fault Distance}
    (done : r.recorded d decided = .ok (digest, next)) : ∀ record ∈ digest.records, record.level ≠ .error := by
  obtain ⟨upsert, _, rfl⟩ := recorded_exact done
  cases upsert <;> simp [Upsert.digest, Digest.logged, Digest.silent, LogRecord.level]

theorem assigned_logs (r : Registry) (peer : Peer) (distance : Distance) :
    ∀ record ∈ (r.assigned peer distance).1.records, record.level ≠ .error := by
  unfold assigned
  split
  · simp [Digest.logged, LogRecord.level]
  · split <;> simp [Digest.silent, LogRecord.level]

theorem treated_logs (r : Registry) (host : HostId) (health : Health) (forced : Bool) :
    ∀ record ∈ (r.treated host health forced).1.records, record.level ≠ .error := by
  unfold treated
  split
  · simp [Digest.logged, LogRecord.level]
  · split
    · simp [Digest.logged, LogRecord.level]
    · dsimp only
      split <;> simp [Digest.silent, LogRecord.level]

-- An error is logged only for an errand that comes to nothing.
theorem perform_logs (done : r.perform choose e = .ok (digest, next)) :
    ∀ record ∈ digest.records, record.level ≠ .error := by
  cases perform_performed done with
  | recorded _ done => exact recorded_logs done
  | @assigned peer distance _ _ done =>
    have logs := assigned_logs r peer distance
    rwa [done] at logs
  | @treated health forced done =>
    have logs := treated_logs r e.host health forced
    rwa [done] at logs
  | removed _ told => simp [told, LogRecord.level]
  | refused mild told _ => simpa [told, Digest.logged] using mild

end Logging

def survivors (choose : Descriptor → Except Fault Distance) : Registry → List Errand → List Errand
  | _, [] => []
  | r, e :: all =>
    match r.perform choose e with
    | .ok (_, next) => e :: next.survivors choose all
    | .error _ => r.survivors choose all

theorem survivors_sublist (choose : Descriptor → Except Fault Distance) (r : Registry) (all : List Errand) :
    (r.survivors choose all).Sublist all := by
  induction all generalizing r with
  | nil => exact .slnil
  | cons e all ih =>
    cases done : r.perform choose e with
    | ok result => simpa only [survivors, done] using (ih result.2).cons_cons e
    | error fault => simpa only [survivors, done] using (ih r).cons e

end Registry

namespace Ledger
variable {χ : Type} (s : Setting χ)

theorem foldl_enter_kept (ledger : Ledger χ) (all : List Errand) :
    (all.foldl (enter s) ledger).kept = ledger.kept ++ ledger.registry.survivors s.choose all := by
  induction all generalizing ledger with
  | nil => simp [Registry.survivors]
  | cons e all ih =>
    cases done : ledger.registry.perform s.choose e with
    | ok result => simp [ih, enter_ok done, Registry.survivors, done]
    | error fault => simp [ih, enter_error done, Registry.survivors, done]

theorem foldl_enter_perm (ledger : Ledger χ) (all : List Errand) :
    ((all.foldl (enter s) ledger).kept ++ (all.foldl (enter s) ledger).lost.map Prod.fst).Perm
      (ledger.kept ++ ledger.lost.map Prod.fst ++ all) := by
  induction all generalizing ledger with
  | nil => simp
  | cons e all ih =>
    refine (ih (ledger.enter s e)).trans ?_
    cases done : ledger.registry.perform s.choose e with
    | ok result =>
      rw [enter_ok done]
      simp only [List.append_assoc, List.perm_append_left_iff]
      exact List.perm_append_comm_assoc [e] (ledger.lost.map Prod.fst) all
    | error fault => simp [enter_error done]

-- The second ledger was spared what the evaluator broke off in the first. They were opened with different records.
structure Spared (opening other : List LogRecord) (ledger spared : Ledger χ) : Prop where
  registry : spared.registry = ledger.registry
  tellings : spared.tellings = ledger.tellings
  kept : spared.kept = ledger.kept
  lost : spared.lost = []
  log : ∃ body, ledger.log = opening ++ body ∧ spared.log = other ++ body.filter (·.level ≠ .error) ∧
    body.filter (·.level = .error) = ledger.lost.map fun broken => broken.1.failure broken.2

section Sparing
variable {s} {opening other : List LogRecord} {ledger spared : Ledger χ}

theorem Spared.enter_ok (pair : Spared opening other ledger spared) {e : Errand} {digest : Digest} {next : Registry}
    (done : ledger.registry.perform s.choose e = .ok (digest, next)) :
    Spared opening other (ledger.enter s e) (spared.enter s e) := by
  have again : spared.registry.perform s.choose e = .ok (digest, next) := pair.registry ▸ done
  have mild := Registry.perform_logs done
  obtain ⟨body, first, second, failures⟩ := pair.log
  rw [Ledger.enter_ok done, Ledger.enter_ok again]
  refine ⟨rfl, ?_, ?_, pair.lost, body ++ digest.records, ?_, ?_, ?_⟩
  · simp only [pair.tellings]
  · simp only [pair.kept]
  · simp only [first, List.append_assoc]
  · have whole : digest.records.filter (·.level ≠ .error) = digest.records :=
      List.filter_eq_self.mpr fun record member => by simpa using mild record member
    simp only [second, List.filter_append, whole, List.append_assoc]
  · have none : digest.records.filter (·.level = .error) = [] :=
      List.filter_eq_nil_iff.mpr fun record member => by simpa using mild record member
    simp only [List.filter_append, none, List.append_nil, failures]

theorem Spared.enter_error (pair : Spared opening other ledger spared) {e : Errand} {fault : Fault}
    (broken : ledger.registry.perform s.choose e = .error fault) :
    Spared opening other (ledger.enter s e) spared := by
  obtain ⟨body, first, second, failures⟩ := pair.log
  rw [Ledger.enter_error broken]
  refine ⟨pair.registry, pair.tellings, pair.kept, pair.lost, body ++ [e.failure fault], ?_, ?_, ?_⟩
  · simp only [first, List.append_assoc]
  · simp [second, Errand.failure_level]
  · simp [failures, Errand.failure_level]

theorem Spared.foldl (s : Setting χ) (pair : Spared opening other ledger spared) (all : List Errand) :
    Spared opening other (all.foldl (enter s) ledger)
      ((ledger.registry.survivors s.choose all).foldl (enter s) spared) := by
  induction all generalizing ledger spared with
  | nil => exact pair
  | cons e all ih =>
    cases done : ledger.registry.perform s.choose e with
    | ok result =>
      have rest := ih (pair.enter_ok done)
      rw [enter_registry, done] at rest
      simp only [Registry.survivors, done, List.foldl_cons]
      exact rest
    | error fault =>
      have rest := ih (pair.enter_error done)
      rw [enter_registry, done] at rest
      simp only [Registry.survivors, done, List.foldl_cons]
      exact rest

theorem Spared.ready (s : Setting χ) (pair : Spared opening other ledger spared) :
    Spared opening other (ledger.ready s) (spared.ready s) := by
  have mild : (LogRecord.ready s.datacenter ledger.registry.size).level = .info := rfl
  obtain ⟨body, first, second, failures⟩ := pair.log
  refine ⟨pair.registry, pair.tellings, pair.kept, pair.lost, body ++ [.ready s.datacenter ledger.registry.size], ?_, ?_, ?_⟩
  · simp only [Ledger.ready, first, List.append_assoc]
  · simp [Ledger.ready, second, pair.registry, mild]
  · simp [Ledger.ready, failures, mild]

end Sparing

section Whole
variable (r : Registry) (nodes : List Descriptor) (contacts : List HostId) (commands : List Command)

theorem opened_log :
    (opened s r nodes contacts).log.filter (!·.ofListener) = (opened s r nodes contacts).log := by
  simp only [opened]
  split <;> rfl

theorem whole_perm :
    let ledger := whole s r nodes contacts commands
    (ledger.kept ++ ledger.lost.map Prod.fst).Perm (errands nodes commands) := by
  intro ledger
  have started := foldl_enter_perm s (opened s r nodes contacts) (nodes.map .initial)
  have ended := foldl_enter_perm s (((nodes.map .initial).foldl (enter s) (opened s r nodes contacts)).ready s)
    (commands.map .command)
  rw [← whole_foldl] at ended
  exact ended.trans (started.append_right _)

theorem whole_spared :
    ∃ fewer less, fewer.Sublist nodes ∧ less.Sublist commands ∧
      (whole s r nodes contacts commands).kept = errands fewer less ∧
      Spared (opened s r nodes contacts).log (opened s r fewer contacts).log (whole s r nodes contacts commands)
        (whole s r fewer contacts less) := by
  let recorded := (nodes.map Errand.initial).foldl (enter s) (opened s r nodes contacts)
  obtain ⟨fewer, part, first⟩ := List.sublist_map_iff.mp (Registry.survivors_sublist s.choose r (nodes.map .initial))
  obtain ⟨less, share, second⟩ :=
    List.sublist_map_iff.mp (Registry.survivors_sublist s.choose recorded.registry (commands.map .command))
  have outset : Spared (opened s r nodes contacts).log (opened s r fewer contacts).log (opened s r nodes contacts)
      (opened s r fewer contacts) := ⟨rfl, rfl, rfl, rfl, [], by simp, by simp, rfl⟩
  have started := outset.foldl s (nodes.map .initial)
  have ended := (started.ready s).foldl s (commands.map .command)
  refine ⟨fewer, less, part, share, ?_, ?_⟩
  · have kept : recorded.kept = fewer.map .initial := (foldl_enter_kept s _ _).trans first
    rw [whole_foldl, foldl_enter_kept, errands]
    exact congrArg₂ (· ++ ·) kept second
  · rw [whole_foldl, whole_foldl, ← first, ← second]
    exact ended

end Whole

end Ledger

namespace Coordinator
variable {χ : Type}

section Sessions
variable {s : Setting χ} {r : Registry} {nodes : List Descriptor} {contacts : List HostId} {commands : List Command}
variable {moments : List (Moment χ)} {c : Coordinator χ}

-- Without them everything is as it is with them, apart from the log.
theorem broken_errands_leave_no_trace (session : Session s r nodes contacts commands moments c) :
    c.lifecycle = .ready ∧ c.answer = some (.ok ()) ∧
    (kept moments ++ (lost moments).map Prod.fst).Perm (errands nodes commands) ∧
    ∃ fewer less body, fewer.Sublist nodes ∧ less.Sublist commands ∧ kept moments = errands fewer less ∧
      c.log.filter (!·.ofListener) = (Ledger.opened s r nodes contacts).log ++ body ∧
      body.filter (·.level = .error) = (lost moments).map (fun broken => broken.1.failure broken.2) ∧
      (∃ others last, Session s r fewer contacts less others last) ∧
      ∀ others last, Session s r fewer contacts less others last →
        last.registry = c.registry ∧ tellings others = tellings moments ∧ last.lifecycle = c.lifecycle ∧
        last.answer = c.answer ∧ kept others = kept moments ∧ lost others = [] ∧
        last.log.filter (!·.ofListener) =
          (Ledger.opened s r fewer contacts).log ++ body.filter (·.level ≠ .error) := by
  obtain ⟨ready, answer, _, registry, log, told, taken, broken⟩ := session_exact session
  obtain ⟨fewer, less, part, share, survived, pair⟩ := Ledger.whole_spared s r nodes contacts commands
  obtain ⟨body, logged, spared, failures⟩ := pair.log
  refine ⟨ready, answer, ?_, fewer, less, body.filter (!·.ofListener), part, share, taken.trans survived, ?_, ?_, ?_, ?_⟩
  · rw [taken, broken]
    exact Ledger.whole_perm s r nodes contacts commands
  · rw [log, logged, List.filter_append, Ledger.opened_log]
  · rw [LogRecord.filter_error, broken, failures]
  · exact session_exists s r fewer contacts less
  · intro others last second
    obtain ⟨again, answered, _, same, relogged, retold, retaken, spare⟩ := session_exact second
    refine ⟨?_, ?_, again.trans ready.symm, answered.trans answer.symm, ?_, spare.trans pair.lost, ?_⟩
    · rw [same, pair.registry, registry]
    · rw [retold, pair.tellings, told]
    · rw [retaken, pair.kept, taken]
    · rw [relogged, spared, List.filter_append, Ledger.opened_log, List.filter_filter, List.filter_filter]
      simp only [Bool.and_comm]

end Sessions

-- The evaluator breaks off on everything of the second datacenter: a node of the start, and what the other one
-- is announced to have become.
theorem start_and_move_broken_off :
    let node (host : Nat) (datacenter : String) : Descriptor :=
      ⟨⟨host⟩, .v4 ⟨10, 0, 0, 1⟩ 9042, some datacenter, none⟩
    let s : Setting Unit := {
      rule := ⟨true, true⟩
      datacenter := "dc1"
      evaluate := fun d _ => if d.datacenter = some "dc2" then .error (.message "boom") else .ok none
      listeners := [.outside ()] }
    let commands : List Command :=
      [.event (.up ⟨1⟩), .event (.added (node 1 "dc2")), .event (.down ⟨2⟩), .report ⟨1⟩ .remote]
    ∃ moments c fewer less others last,
      Session s .empty [node 1 "dc1", node 2 "dc2"] [⟨1⟩] commands moments c ∧
      kept moments = errands fewer less ∧ Session s .empty fewer [⟨1⟩] less others last ∧
      lost moments =
        [(.initial (node 2 "dc2"), .message "boom"), (.command (.event (.added (node 1 "dc2"))), .message "boom")] ∧
      last.registry = c.registry ∧ tellings others = tellings moments ∧
      c.registry.status ⟨1⟩ = some ⟨node 1 "dc1", .up, .remote, false⟩ := by
  intro node s commands
  obtain ⟨moments, c, session⟩ := session_exists s .empty [node 1 "dc1", node 2 "dc2"] [⟨1⟩] commands
  obtain ⟨_, _, _, fewer, less, _, _, _, survived, _, _, ⟨others, last, second⟩, spared⟩ :=
    broken_errands_leave_no_trace session
  obtain ⟨registry, told, _⟩ := spared others last second
  obtain ⟨_, _, _, _, _, _, _, broken⟩ := session_exact session
  refine ⟨moments, c, fewer, less, others, last, session, survived, second, ?_, registry, told, ?_⟩
  · rw [broken]
    decide +kernel
  · rw [session_registry session]
    decide +kernel

-- Among the contact points of another datacenter, a node that the evaluator breaks off on is named in a warning, too.
theorem broken_contact_is_warned_of :
    let node : Descriptor := ⟨⟨1⟩, .v4 ⟨10, 0, 0, 1⟩ 9042, some "dc2", none⟩
    let s : Setting Unit := {
      rule := ⟨false, true⟩
      datacenter := "dc1"
      evaluate := fun _ _ => .error (.message "boom")
      listeners := [] }
    ∃ moments c others last, Session s .empty [node] [⟨1⟩] [] moments c ∧ kept moments = errands [] [] ∧
      lost moments = [(.initial node, .message "boom")] ∧ Session s .empty [] [⟨1⟩] [] others last ∧
      c.log.filter (!·.ofListener) =
        [.mismatched "dc1" [node], .evaluationFailed ⟨1⟩ (.message "boom"), .ready "dc1" 0] ∧
      last.log.filter (!·.ofListener) = [.ready "dc1" 0] := by
  intro node s
  obtain ⟨moments, c, session⟩ := session_exists s .empty [node] [⟨1⟩] []
  obtain ⟨others, last, second⟩ := session_exists s .empty [] [⟨1⟩] []
  obtain ⟨_, _, _, _, log, _, kept, lost⟩ := session_exact session
  obtain ⟨_, _, _, _, relogged, _⟩ := session_exact second
  refine ⟨moments, c, others, last, session, ?_, ?_, second, ?_, ?_⟩
  · rw [kept]
    decide +kernel
  · rw [lost]
    decide +kernel
  · rw [log]
    decide +kernel
  · rw [relogged]
    decide +kernel

end Coordinator
end ClusterRouting
