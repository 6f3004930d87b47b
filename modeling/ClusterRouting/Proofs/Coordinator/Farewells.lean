import ClusterRouting.Proofs.Coordinator.Closed
import ClusterRouting.Proofs.Coordinator.Lifecycle

namespace ClusterRouting.Coordinator
variable {χ : Type}

-- A start that counts, and for which no datacenter is found.
def Moment.Fails (moment : Moment χ) : Prop :=
  moment.before.lifecycle = .created ∧ ∃ nodes contacts error, moment.move = .call (.start nodes contacts) ∧
    Datacenter.atStart moment.before.configured nodes contacts = .error error

section Shutting
variable {start c next : Coordinator χ} {moments : List (Moment χ)} {move : Move χ}

theorem fails_shuts (step : Step c move next) (fails : Moment.Fails ⟨c, move⟩) : next.lifecycle = .closed := by
  obtain ⟨created, nodes, contacts, error, rfl, failed⟩ := fails
  cases step with
  | call _ called =>
    obtain ⟨_, ⟨late, _⟩ | ⟨_, _, _, rfl⟩ | ⟨_, _, _, resolved, _⟩⟩ := start_decided called
    · exact absurd created late
    · rfl
    · cases failed.symm.trans resolved

theorem step_shuts (step : Step c move next) (opened : c.lifecycle ≠ .closed) :
    next.lifecycle = .closed ↔ move = .call .close ∨ Moment.Fails ⟨c, move⟩ := by
  constructor
  · intro closed
    cases advance_turns (step_advance step) with
    | stays same => exact absurd (same.symm.trans closed) opened
    | readies _ turned => cases turned.symm.trans closed
    | closes => exact .inl rfl
    | starts created =>
      cases step with
      | call _ called =>
        obtain ⟨_, ⟨late, _⟩ | ⟨_, error, failed, _⟩ | ⟨_, _, _, _, rfl⟩⟩ := start_decided called
        · exact absurd created late
        · exact .inr ⟨created, _, _, error, rfl, failed⟩
        · cases closed
  · rintro (rfl | fails)
    · cases advance_turns (step_advance step) with
      | stays _ late => exact absurd (late rfl) opened
      | closes _ turned => exact turned
    · exact fails_shuts step fails

theorem runs_shut (opened : start.lifecycle ≠ .closed) (path : Runs start moments c) :
    c.lifecycle = .closed ↔ ∃ moment ∈ moments, moment.move = .call .close ∨ moment.Fails := by
  induction path with
  | nil => simp [opened]
  | @step moments c move next _ step ih =>
    have later : (∃ moment ∈ moments ++ [⟨c, move⟩], moment.move = .call .close ∨ Moment.Fails moment) ↔
        c.lifecycle = .closed ∨ (move = .call .close ∨ Moment.Fails ⟨c, move⟩) := by
      simp only [ih, List.mem_append, List.mem_singleton, or_and_right, exists_or, exists_eq_left]
    rw [later]
    by_cases closed : c.lifecycle = .closed
    · simp [closed, (advance_keeps (step_advance step)).closed closed]
    · simp [closed, step_shuts step closed]

theorem runs_unclosed (closed : start.lifecycle = .closed) (path : Runs start moments c) :
    closings moments ++ c.unclosed = start.unclosed := by
  induction path with
  | nil => rfl
  | @step moments c move next path step ih =>
    have told : closings (moments ++ [⟨c, move⟩]) ++ next.unclosed =
        closings moments ++ (Moment.closing ⟨c, move⟩ ++ next.unclosed) := by simp [closings]
    rcases advance_unclosed (step_advance step) with same | ⟨opened, _⟩
    · rw [told, same, ih]
    · exact absurd (runs_closed closed path) opened

end Shutting

section Closing
variable {start before c : Coordinator χ} {moments earlier inner : List (Moment χ)}

theorem Returned.told (returned : Returned moments earlier before .close inner c) (sound : Sound start)
    (silent : start.unclosed = []) (path : Runs start moments c) (opened : before.lifecycle ≠ .closed) :
    closings inner = before.listeners := by
  obtain ⟨middle, prior, rest⟩ := (returned.made ▸ path).split
  obtain ⟨rfl, _⟩ := rest.first
  obtain ⟨first, called, _, later⟩ := returned.path sound path
  have closes : first = close before := (Option.some.inj called).symm
  have nobody : before.unclosed = [] := (List.append_eq_nil_iff.mp ((runs_heard silent prior).silent opened)).2
  have due : first.unclosed = before.listeners := by
    have listed : first.unclosed = before.listeners ++ before.unclosed := by
      simp [closes, close, opened, unclosed, publish, note, Frame.unclosed]
    rw [listed, nobody, List.append_nil]
  have closed : first.lifecycle = .closed := by simp [closes, close, opened, publish, note]
  have done : c.unclosed = [] := by
    rw [← nobody]
    simp only [unclosed, returned.back]
  rw [← due, ← runs_unclosed closed later, done, List.append_nil]

theorem Returned.unheard (returned : Returned moments earlier before .close inner c) (sound : Sound start)
    (path : Runs start moments c) (closed : before.lifecycle = .closed) : inner = [] ∧ c = before := by
  obtain ⟨first, called, _, later⟩ := returned.path sound path
  have still : first = before := by
    rw [← Option.some.inj called, close, if_pos closed]
  obtain ⟨alone, rfl⟩ := returns_at_once later (congrArg stack still) returned.inside
  exact ⟨alone, still⟩

end Closing

-- A close may come from a callback, and whoever is told of it may break off, register others or call again.
theorem first_close_reaches_unless_failed (rule : DistanceRule) (configured : Option String)
    (listeners : List (Listener χ)) (registry : Registry) {moments : List (Moment χ)} {c : Coordinator χ}
    (path : Runs { fresh rule configured listeners with registry } moments c) :
    ∀ earlier before inner, Returned moments earlier before .close inner c →
      (∀ moment ∈ earlier, moment.move ≠ .call .close) →
      ((closings inner = before.listeners) ↔ (∀ moment ∈ earlier, ¬ moment.Fails) ∨ before.listeners = []) ∧
      ((∃ moment ∈ earlier, moment.Fails) → inner = [] ∧ c = before) := by
  intro earlier before inner returned first
  have sound := fresh_sound rule configured listeners registry
  obtain ⟨middle, prior, rest⟩ := (returned.made ▸ path).split
  obtain ⟨rfl, _⟩ := rest.first
  have shut : before.lifecycle = .closed ↔ ∃ moment ∈ earlier, moment.Fails := by
    rw [runs_shut (by simp [fresh]) prior]
    constructor
    · rintro ⟨moment, member, close | fails⟩
      · exact absurd close (first moment member)
      · exact ⟨moment, member, fails⟩
    · rintro ⟨moment, member, fails⟩
      exact ⟨moment, member, .inr fails⟩
  have silent : (∃ moment ∈ earlier, moment.Fails) → inner = [] ∧ c = before :=
    fun failed => returned.unheard sound path (shut.mpr failed)
  refine ⟨⟨fun told => ?_, ?_⟩, silent⟩
  · by_cases failed : ∃ moment ∈ earlier, moment.Fails
    · rw [(silent failed).1] at told
      exact .inr told.symm
    · exact .inl fun moment member fails => failed ⟨moment, member, fails⟩
  · rintro (smooth | nobody)
    · refine returned.told sound rfl path fun closed => ?_
      obtain ⟨moment, member, fails⟩ := shut.mp closed
      exact smooth moment member fails
    · by_cases closed : before.lifecycle = .closed
      · rw [(silent (shut.mp closed)).1, nobody]
        rfl
      · exact returned.told sound rfl path closed

-- The first of two listeners breaks off when it is told, and the second one is told all the same.
theorem close_passes_broken_listener :
    let idle : Coordinator Bool := fresh ⟨true, false⟩ (some "dc1") [.outside false, .outside true]
    ∃ inner c, Runs idle (⟨idle, .call .close⟩ :: inner) c ∧
      Returned (⟨idle, .call .close⟩ :: inner) [] idle .close inner c ∧
      (∃ moment ∈ inner, moment.move = .call (.throw .wordless)) ∧
      closings inner = [.outside false, .outside true] := by
  intro idle
  let moves : List (Move Bool) := [.own, .call (.throw .wordless), .own, .call .finish, .own]
  have shown : (idle.play (.call .close :: moves)).map (fun played =>
      (played.1.tail.all fun moment => !moment.before.stack.isEmpty, played.2.stack.isEmpty)) = some (true, true) := rfl
  obtain ⟨⟨moments, c⟩, played, facts⟩ := Option.map_eq_some_iff.mp shown
  simp only [Prod.mk.injEq, List.isEmpty_iff] at facts
  obtain ⟨inside, back⟩ := facts
  obtain ⟨path, inner, rfl, returned⟩ := play_returned played rfl inside back
  have called : inner.map Moment.move = moves := (List.cons.inj (play_exact.mp played).2).2
  have broken : ∃ moment ∈ inner, moment.move = .call (.throw .wordless) := by
    refine List.mem_map.mp ?_
    rw [called]
    simp [moves]
  obtain ⟨reached, _⟩ := first_close_reaches_unless_failed _ _ _ _ path [] idle inner returned (by simp)
  exact ⟨inner, c, path, returned, broken, reached.mpr (.inl (by simp))⟩

-- The contact point is not among the nodes, so the start fails, and the listener never hears of the close.
theorem failed_start_hushes_close :
    ¬ ∀ (listeners : List (Listener Unit)) (moments earlier inner : List (Moment Unit)) (before c : Coordinator Unit),
      Runs (fresh ⟨true, false⟩ none listeners) moments c → Returned moments earlier before .close inner c →
        (∀ moment ∈ earlier, moment.move ≠ .call .close) → ∀ child ∈ before.listeners, child ∈ closings inner := by
  intro reaches
  let idle : Coordinator Unit := fresh ⟨true, false⟩ none [.outside ()]
  let known : Descriptor := ⟨⟨1⟩, .v4 ⟨10, 0, 0, 1⟩ 9042, some "dc1", none⟩
  -- the start returns after its queue is found empty, and the close at once
  let opening : List (Move Unit) := [.call (.start [known] [⟨9⟩]), .own]
  have shown : (idle.play opening).map (fun played => (played.2.lifecycle, played.2.stack.isEmpty, played.2.listeners)) =
      some (.closed, true, [.outside ()]) := rfl
  obtain ⟨⟨earlier, before⟩, played, facts⟩ := Option.map_eq_some_iff.mp shown
  simp only [Prod.mk.injEq, List.isEmpty_iff] at facts
  obtain ⟨closed, free, registered⟩ := facts
  obtain ⟨path, called⟩ := play_exact.mp played
  have stays : before.call? .close = some before := by simp [call?, close, closed]
  have whole := path.step (.call (by simp [step?, free]) stays)
  have returned : Returned (earlier ++ [⟨before, .call .close⟩]) earlier before .close [] before := ⟨rfl, by simp, rfl⟩
  have first : ∀ moment ∈ earlier, moment.move ≠ .call .close := by
    intro moment member close
    have made : moment.move ∈ opening := called ▸ List.mem_map_of_mem member
    simp [opening, close] at made
  have heard := reaches _ _ earlier [] before before whole returned first (.outside ()) (by simp [registered])
  simp [closings] at heard

end ClusterRouting.Coordinator
