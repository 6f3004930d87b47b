import ClusterRouting.Proofs.Coordinator.Sessions

namespace ClusterRouting

-- What a session has to do: the initial nodes come before all commands.
def errands (nodes : List Descriptor) (commands : List Command) : List Errand :=
  nodes.map .initial ++ commands.map .command

theorem errands_about (nodes : List Descriptor) (commands : List Command) (host : HostId) :
    (errands nodes commands).filter (·.host = host) =
      errands (nodes.filter (·.host = host)) (commands.filter (·.host = host)) := by
  simp only [errands, List.filter_append, List.filter_map]
  rfl

namespace Registry

def Agree (r other : Registry) (host : HostId) : Prop :=
  r.status host = other.status host ∧ r.distance? host = other.distance? host

def pursue (choose : Descriptor → Except Fault Distance) (r : Registry) (all : List Errand) : Registry :=
  all.foldl (fun r e => r.after (r.perform choose e)) r

section Pursuing
variable {r other : Registry} {host : HostId}

theorem agree_of_status (valid : r.Coherent) (sound : other.Coherent) (same : r.status host = other.status host) :
    r.Agree other host := by
  refine ⟨same, ?_⟩
  have placed : ∀ {r : Registry}, r.Coherent → r.distance? host = (r.status host).map Node.distance := by
    intro r valid
    rw [valid.distance?_eq, status, Option.map_map]
    rfl
  rw [placed valid, placed sound, same]

theorem pursue_append (choose : Descriptor → Except Fault Distance) (r : Registry) (before after : List Errand) :
    r.pursue choose (before ++ after) = (r.pursue choose before).pursue choose after :=
  List.foldl_append

theorem pursue_coherent (valid : r.Coherent) (choose : Descriptor → Except Fault Distance) (all : List Errand) :
    (r.pursue choose all).Coherent := by
  induction all generalizing r with
  | nil => exact valid
  | cons e all ih => exact ih (changes_coherent valid (perform_changes choose r e))

theorem status_pursue (valid : r.Coherent) (choose : Descriptor → Except Fault Distance) (all : List Errand)
    (host : HostId) :
    (r.pursue choose all).status host =
      (all.filter (·.host = host)).foldl (fun known e => e.becomes choose known) (r.status host) := by
  induction all generalizing r with
  | nil => rfl
  | cons e all ih =>
    have step := status_perform valid choose e host
    have rest := ih (changes_coherent valid (perform_changes choose r e))
    rw [step] at rest
    by_cases about : host = e.host
    · rw [List.filter_cons_of_pos (by simp [about]), List.foldl_cons]
      rwa [if_pos about] at rest
    · rw [List.filter_cons_of_neg (by simpa using Ne.symm about)]
      rwa [if_neg about] at rest

end Pursuing

end Registry

namespace Ledger
variable {χ : Type} (s : Setting χ)

theorem foldl_enter_registry (ledger : Ledger χ) (all : List Errand) :
    (all.foldl (enter s) ledger).registry = ledger.registry.pursue s.choose all := by
  induction all generalizing ledger with
  | nil => rfl
  | cons e all ih =>
    rw [List.foldl_cons, ih, enter_registry]
    rfl

theorem whole_foldl (r : Registry) (nodes : List Descriptor) (contacts : List HostId) (commands : List Command) :
    whole s r nodes contacts commands =
      (commands.map .command).foldl (enter s)
        (((nodes.map .initial).foldl (enter s) (opened s r nodes contacts)).ready s) := by
  simp only [whole, record, apply, List.foldl_map]

theorem whole_registry (r : Registry) (nodes : List Descriptor) (contacts : List HostId) (commands : List Command) :
    (whole s r nodes contacts commands).registry = r.pursue s.choose (errands nodes commands) := by
  rw [whole_foldl, foldl_enter_registry, errands, Registry.pursue_append]
  exact congrArg (Registry.pursue s.choose · _) (foldl_enter_registry s (opened s r nodes contacts) _)

end Ledger

namespace Coordinator
variable {χ : Type}

section Sessions
variable {s : Setting χ} {r : Registry} {nodes others : List Descriptor} {contacts points : List HostId}
variable {commands rest : List Command} {moments later : List (Moment χ)} {c last : Coordinator χ}

theorem session_registry (session : Session s r nodes contacts commands moments c) :
    c.registry = r.pursue s.choose (errands nodes commands) := by
  obtain ⟨_, _, _, registry, _⟩ := session_exact session
  rw [registry, Ledger.whole_registry]

theorem sessions_agree (valid : r.Coherent) (session : Session s r nodes contacts commands moments c)
    (second : Session s r others points rest later last) {host : HostId}
    (same : (errands nodes commands).filter (·.host = host) = (errands others rest).filter (·.host = host)) :
    c.registry.Agree last.registry host := by
  rw [session_registry session, session_registry second]
  apply Registry.agree_of_status (Registry.pursue_coherent valid _ _) (Registry.pursue_coherent valid _ _)
  rw [Registry.status_pursue valid, Registry.status_pursue valid, same]

theorem errands_swap (nodes : List Descriptor) (before after : List Command) {one two : Command}
    (differ : one.host ≠ two.host) (host : HostId) :
    (errands nodes (before ++ one :: two :: after)).filter (·.host = host) =
      (errands nodes (before ++ two :: one :: after)).filter (·.host = host) := by
  simp only [errands, List.map_append, List.map_cons, List.filter_append]
  congr 2
  by_cases about : one.host = host
  · have other : two.host ≠ host := fun same => differ (about.trans same.symm)
    simp [Errand.host, about, other]
  · simp [List.filter_cons, Errand.host, about]

-- Whatever the evaluator breaks off on, and whatever else is asked for.
theorem hosts_do_not_interfere {writes : List Registry.Write}
    (session : Session s (Registry.empty.run writes) nodes contacts commands moments c) (points : List HostId) :
    (∀ host,
      (∃ alone last, Session s (Registry.empty.run writes) (nodes.filter (·.host = host)) points
        (commands.filter (·.host = host)) alone last) ∧
      ∀ alone last, Session s (Registry.empty.run writes) (nodes.filter (·.host = host)) points
        (commands.filter (·.host = host)) alone last → c.registry.Agree last.registry host) ∧
    ∀ before one two after, commands = before ++ one :: two :: after → one.host ≠ two.host →
      (∃ swapped last, Session s (Registry.empty.run writes) nodes points (before ++ two :: one :: after) swapped last) ∧
      ∀ swapped last, Session s (Registry.empty.run writes) nodes points (before ++ two :: one :: after) swapped last →
        ∀ host, c.registry.Agree last.registry host := by
  have valid : (Registry.empty.run writes).Coherent := Registry.run_coherent Registry.empty_coherent writes
  refine ⟨fun host => ⟨session_exists s _ _ points _, fun alone last single => ?_⟩, ?_⟩
  · apply sessions_agree valid session single
    rw [errands_about, errands_about]
    simp only [List.filter_filter, Bool.and_self]
  · rintro before one two after rfl differ
    refine ⟨session_exists s _ _ points _, fun swapped last second host => ?_⟩
    exact sessions_agree valid session second (errands_swap nodes before after differ host)

end Sessions

-- The evaluator breaks off whenever it is asked about the second host.
theorem forced_down_beside_others :
    let node (host : Nat) : Descriptor := ⟨⟨host⟩, .v4 ⟨10, 0, 0, 1⟩ 9042, some "dc1", none⟩
    let s : Setting Unit := {
      rule := ⟨true, true⟩
      datacenter := "dc1"
      evaluate := fun d _ => if d.host = ⟨2⟩ then .error .wordless else .ok none
      listeners := [.outside ()] }
    let commands : List Command :=
      [.event (.added (node 3)), .event (.forceDown ⟨1⟩), .event (.added (node 2)), .event (.removed ⟨3⟩)]
    ∃ moments c, Session s (Registry.empty.run []) [node 1, node 2] [] commands moments c ∧
      c.registry.status ⟨1⟩ = some ⟨node 1, .forcedDown, .home, false⟩ := by
  intro node s commands
  obtain ⟨moments, c, session⟩ := session_exists s (Registry.empty.run []) [node 1, node 2] [] commands
  refine ⟨moments, c, session, ?_⟩
  obtain ⟨⟨alone, last, single⟩, agree⟩ := (hosts_do_not_interfere session []).1 ⟨1⟩
  rw [(agree alone last single).1, session_registry single]
  decide +kernel

end Coordinator
end ClusterRouting
