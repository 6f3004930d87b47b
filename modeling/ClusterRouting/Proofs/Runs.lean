import Mathlib.Data.List.Induction

namespace ClusterRouting
variable {σ μ : Type}

structure Moment (σ μ : Type) where
  before : σ
  move : μ

-- One move after another, each as the step relation allows it.
inductive Runs (step : σ → μ → σ → Prop) (start : σ) : List (Moment σ μ) → σ → Prop where
  | nil : Runs step start [] start
  | step {moments s move next} (path : Runs step start moments s) (moved : step s move next) :
      Runs step start (moments ++ [⟨s, move⟩]) next

section Paths
variable {step : σ → μ → σ → Prop} {start s : σ} {moment : Moment σ μ} {earlier later : List (Moment σ μ)}

theorem Runs.last (path : Runs step start (earlier ++ [moment]) s) :
    Runs step start earlier moment.before ∧ step moment.before moment.move s := by
  generalize whole : earlier ++ [moment] = moments at path
  cases path with
  | nil => simp at whole
  | step path moved =>
    obtain ⟨rfl, same⟩ := List.append_inj' whole rfl
    cases same
    exact ⟨path, moved⟩

theorem Runs.split (path : Runs step start (earlier ++ later) s) :
    ∃ middle, Runs step start earlier middle ∧ Runs step middle later s := by
  induction later using List.reverseRecOn generalizing s with
  | nil => exact ⟨s, by simpa using path, .nil⟩
  | append_singleton later last ih =>
    rw [← List.append_assoc] at path
    obtain ⟨before, moved⟩ := path.last
    obtain ⟨middle, first, second⟩ := ih before
    exact ⟨middle, first, second.step moved⟩

theorem Runs.eq_of_nil (path : Runs step start [] s) : s = start := by
  generalize none : ([] : List (Moment σ μ)) = moments at path
  cases path with
  | nil => rfl
  | step path moved => simp at none

theorem Runs.first (path : Runs step start (moment :: later) s) :
    moment.before = start ∧ ∃ next, step start moment.move next ∧ Runs step next later s := by
  have joined : Runs step start ([moment] ++ later) s := path
  obtain ⟨middle, single, rest⟩ := joined.split
  have alone : Runs step start ([] ++ [moment]) middle := single
  obtain ⟨none, moved⟩ := alone.last
  have same := none.eq_of_nil
  rw [same] at moved
  exact ⟨same, middle, moved, rest⟩

theorem Runs.visits (path : Runs step start later s) (member : moment ∈ later) :
    ∃ earlier next, Runs step start earlier moment.before ∧ step moment.before moment.move next := by
  obtain ⟨earlier, rest, rfl⟩ := List.append_of_mem member
  obtain ⟨middle, before, after⟩ := path.split
  obtain ⟨rfl, next, moved, _⟩ := after.first
  exact ⟨earlier, next, before, moved⟩

theorem Runs.trans {middle : σ} (first : Runs step start earlier middle) (second : Runs step middle later s) :
    Runs step start (earlier ++ later) s := by
  induction second with
  | nil => simpa using first
  | step _ moved ih =>
    rw [← List.append_assoc]
    exact ih.step moved

theorem Runs.keeps (path : Runs step start later s) (holds : σ → Prop) (initially : holds start)
    (kept : ∀ moment ∈ later, ∀ next, step moment.before moment.move next → holds moment.before → holds next) :
    holds s := by
  induction path with
  | nil => exact initially
  | step _ moved ih =>
    obtain ⟨earlier, last⟩ := List.forall_mem_append.mp kept
    exact last _ (List.mem_singleton_self _) _ moved (ih earlier)

-- What held at first and does not hold at last is given up in one of the moves.
theorem Runs.crossing (path : Runs step start later s) (holds : σ → Prop) (initially : holds start)
    (last : ¬ holds s) :
    ∃ before moment after next, later = before ++ moment :: after ∧ Runs step start before moment.before ∧
      holds moment.before ∧ step moment.before moment.move next ∧ ¬ holds next ∧ Runs step next after s := by
  induction path with
  | nil => exact absurd initially last
  | @step moments s move next path moved ih =>
    by_cases held : holds s
    · exact ⟨moments, ⟨s, move⟩, [], next, rfl, path, held, moved, last, .nil⟩
    · obtain ⟨before, moment, after, middle, rfl, first, kept, turns, given, rest⟩ := ih held
      exact ⟨before, moment, after ++ [⟨s, move⟩], middle, by simp, first, kept, turns, given, rest.step moved⟩

end Paths

-- A run can be played where a function says what becomes of each move.
def play (proceed? : σ → μ → Option σ) (s : σ) : List μ → Option (List (Moment σ μ) × σ)
  | [] => some ([], s)
  | move :: later =>
    (proceed? s move).bind fun next =>
      (play proceed? next later).map fun played => (⟨s, move⟩ :: played.1, played.2)

theorem play_exact {step : σ → μ → σ → Prop} {proceed? : σ → μ → Option σ}
    (exact : ∀ {s move next}, proceed? s move = some next ↔ step s move next) {s last : σ} {moves : List μ}
    {moments : List (Moment σ μ)} :
    play proceed? s moves = some (moments, last) ↔ Runs step s moments last ∧ moments.map Moment.move = moves := by
  induction moves generalizing s moments with
  | nil =>
    constructor
    · intro played
      cases played
      exact ⟨.nil, rfl⟩
    · rintro ⟨path, none⟩
      obtain rfl := List.map_eq_nil_iff.mp none
      rw [path.eq_of_nil]
      rfl
  | cons move later ih =>
    simp only [play, Option.bind_eq_some_iff, Option.map_eq_some_iff]
    constructor
    · rintro ⟨next, proceeds, ⟨rest, finish⟩, played, same⟩
      cases same
      obtain ⟨path, rfl⟩ := ih.mp played
      exact ⟨(Runs.nil.step (exact.mp proceeds)).trans path, rfl⟩
    · rintro ⟨path, moves⟩
      obtain ⟨moment, rest, rfl, rfl, rfl⟩ := List.map_eq_cons_iff.mp moves
      obtain ⟨rfl, next, moved, path⟩ := path.first
      exact ⟨next, exact.mpr moved, _, ih.mpr ⟨path, rfl⟩, rfl⟩

end ClusterRouting
