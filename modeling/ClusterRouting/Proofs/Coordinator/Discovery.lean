import ClusterRouting.Proofs.Coordinator.Independence

namespace ClusterRouting

namespace Ledger
variable {χ : Type} {s : Setting χ} {ledger other : Ledger χ}

-- The same was told, and the same is known. How it is logged, and what the errands were, is left open.
structure Alike (ledger other : Ledger χ) : Prop where
  registry : other.registry = ledger.registry
  tellings : other.tellings = ledger.tellings

theorem Alike.enter (alike : Alike ledger other) {e f : Errand}
    (same : ∀ (r : Registry) choose, r.perform choose f = r.perform choose e) :
    Alike (ledger.enter s e) (other.enter s f) := by
  have again : other.registry.perform s.choose f = ledger.registry.perform s.choose e := by
    rw [alike.registry, same]
  cases done : ledger.registry.perform s.choose e with
  | error fault =>
    rw [enter_error done, enter_error (again.trans done)]
    exact ⟨alike.registry, alike.tellings⟩
  | ok result =>
    obtain ⟨digest, next⟩ := result
    rw [enter_ok done, enter_ok (again.trans done)]
    exact ⟨rfl, congrArg (· ++ s.spread next digest.notice) alike.tellings⟩

theorem Alike.foldl {α : Type} (alike : Alike ledger other) (one two : α → Errand)
    (same : ∀ a (r : Registry) choose, r.perform choose (two a) = r.perform choose (one a)) (all : List α) :
    Alike (all.foldl (fun ledger a => ledger.enter s (one a)) ledger)
      (all.foldl (fun ledger a => ledger.enter s (two a)) other) := by
  induction all generalizing ledger other with
  | nil => exact alike
  | cons a all ih => exact ih (alike.enter (same a))

-- The second ledger is ready before it hears of the nodes, the first one only afterwards.
theorem whole_discovered (s : Setting χ) (r : Registry) (known found : List Descriptor)
    (contacts points : List HostId) (commands : List Command) :
    Alike (whole s r (known ++ found) contacts commands)
      (whole s r known points ((found.map fun d => .event (.added d)) ++ commands)) := by
  have outset : Alike (opened s r (known ++ found) contacts) (opened s r known points) := ⟨rfl, rfl⟩
  have recorded := outset.foldl (s := s) .initial .initial (fun _ _ _ => rfl) known
  have begun : Alike ((opened s r (known ++ found) contacts).record s known)
      (((opened s r known points).record s known).ready s) := ⟨recorded.registry, recorded.tellings⟩
  have announced := begun.foldl (s := s) .initial (fun d => .command (.event (.added d))) (fun _ _ _ => rfl) found
  have begins : Alike (ready s _) _ := ⟨announced.registry, announced.tellings⟩
  have ended := begins.foldl (s := s) .command .command (fun _ _ _ => rfl) commands
  simpa only [whole, record, apply, List.foldl_append, List.foldl_map] using ended

end Ledger

namespace Coordinator
variable {χ : Type} {s : Setting χ} {r : Registry} {found : List Descriptor} {contacts points : List HostId}
variable {commands : List Command} {moments others : List (Moment χ)} {c last : Coordinator χ}

theorem sessions_discover (known : List Descriptor)
    (session : Session s r (known ++ found) contacts commands moments c)
    (second : Session s r known points ((found.map fun d => .event (.added d)) ++ commands) others last) :
    last.registry = c.registry ∧ tellings others = tellings moments := by
  obtain ⟨_, _, _, registry, _, told, _⟩ := session_exact session
  obtain ⟨_, _, _, same, _, retold, _⟩ := session_exact second
  have alike := Ledger.whole_discovered s r known found contacts points commands
  exact ⟨by rw [same, alike.registry, registry], by rw [retold, alike.tellings, told]⟩

-- Both are certain to come to an end, and both starts succeed.
theorem loaded_or_discovered_alike (s : Setting χ) (r : Registry) (nodes : List Descriptor) (contacts : List HostId) :
    (∃ moments c, Session s r nodes contacts [] moments c) ∧
    (∃ moments c, Session s r [] contacts (nodes.map fun d => .event (.added d)) moments c) ∧
    ∀ moments c others last, Session s r nodes contacts [] moments c →
      Session s r [] contacts (nodes.map fun d => .event (.added d)) others last →
      c.answer = some (.ok ()) ∧ last.answer = some (.ok ()) ∧ last.registry = c.registry ∧
        tellings others = tellings moments := by
  refine ⟨session_exists s r nodes contacts [], session_exists s r [] contacts _, ?_⟩
  intro moments c others last session second
  obtain ⟨_, answer, _⟩ := session_exact session
  obtain ⟨_, answered, _⟩ := session_exact second
  rw [← List.append_nil (nodes.map _)] at second
  obtain ⟨registry, told⟩ := sessions_discover [] session second
  exact ⟨answer, answered, registry, told⟩

-- A host comes three times, in two datacenters and at two addresses; the evaluator breaks off on the second one.
theorem repeated_host_loaded_or_discovered :
    let node (host port : Nat) (datacenter : String) : Descriptor :=
      ⟨⟨host⟩, .v4 ⟨10, 0, 0, 1⟩ (.ofNat port), some datacenter, none⟩
    let s : Setting Unit := {
      rule := ⟨true, true⟩
      datacenter := "dc1"
      evaluate := fun d _ => if d.host = ⟨2⟩ then .error .wordless else .ok none
      listeners := [.outside ()] }
    let nodes := [node 1 9042 "dc1", node 2 9042 "dc1", node 3 9042 "dc2", node 1 9042 "dc2", node 1 9043 "dc2"]
    ∃ moments c others last, Session s .empty nodes [⟨1⟩] [] moments c ∧
      Session s .empty [] [⟨1⟩] (nodes.map fun d => .event (.added d)) others last ∧
      last.registry = c.registry ∧ c.registry.topology.remote = [⟨⟨3⟩, 1⟩, ⟨⟨1⟩, 0⟩] ∧
      c.registry.status ⟨1⟩ = some ⟨node 1 9043 "dc2", .unknown, .remote, false⟩ ∧
      tellings others = tellings moments ∧
      (tellings moments).map Telling.notice =
        [.added ⟨⟨1⟩, 0⟩, .distanceChanged ⟨⟨1⟩, 0⟩ .home, .added ⟨⟨3⟩, 1⟩, .distanceChanged ⟨⟨3⟩, 1⟩ .remote,
          .distanceChanged ⟨⟨1⟩, 0⟩ .remote] := by
  intro node s nodes
  obtain ⟨⟨moments, c, session⟩, ⟨others, last, second⟩, alike⟩ := loaded_or_discovered_alike s .empty nodes [⟨1⟩]
  obtain ⟨_, _, registry, told⟩ := alike moments c others last session second
  obtain ⟨_, _, _, _, _, tellings, _⟩ := session_exact session
  refine ⟨moments, c, others, last, session, second, registry, ?_, ?_, told, ?_⟩
  · rw [session_registry session]
    decide +kernel
  · rw [session_registry session]
    decide +kernel
  · rw [tellings]
    decide +kernel

end Coordinator
end ClusterRouting
