import ClusterRouting.Proofs.Fanout.Delivery
import Mathlib.Computability.StateTransition

namespace ClusterRouting.Switchboard
variable {μ χ ν : Type}

-- What a multiplexer is asked to hold: a sink, or a multiplexer that others may go on to register with.
inductive Entrant (μ χ : Type) where
  | sink (sink : Sink χ)
  | named (name : μ)

abbrev Entrant.leaf (child : χ) : Entrant μ χ := .sink (.child child)

-- A call in progress: the lists as they are, and what each loop still has to register, innermost first.
structure Enrolment (μ χ : Type) where
  lists : μ → List (Entrant μ χ)
  loops : List (List (Entrant μ χ))

def rosters (s : Switchboard μ χ ν) : μ → List (Entrant μ χ) := fun name => (s.board name).map .leaf

def held (s : Switchboard μ χ ν) : Entrant μ χ → List χ
  | .sink sink => sink.children
  | .named name => s.board name

theorem held_congr {s t : Switchboard μ χ ν} {into : μ} (same : ∀ other ≠ into, s.board other = t.board other)
    {entrant : Entrant μ χ} (apart : entrant ≠ .named into) : s.held entrant = t.held entrant := by
  cases entrant with
  | sink => rfl
  | named name => exact same name fun here => apart (congrArg _ here)

section Enrolling
variable [DecidableEq μ]

def grow (lists : μ → List (Entrant μ χ)) (into : μ) (entrants : List (Entrant μ χ)) : μ → List (Entrant μ χ) :=
  fun other => if other = into then lists other ++ entrants else lists other

-- A loop goes through the list as it was when the loop began.
def Enrolment.step? (into : μ) (enrolment : Enrolment μ χ) : Option (Enrolment μ χ) :=
  match enrolment.loops with
  | [] => none
  | [] :: outer => some { enrolment with loops := outer }
  | (.sink (.child child) :: later) :: outer => some ⟨grow enrolment.lists into [.leaf child], later :: outer⟩
  | (.sink (.multiplexer sinks) :: later) :: outer =>
    some { enrolment with loops := (Sink.childrenOf sinks).map .leaf :: later :: outer }
  | (.named name :: later) :: outer => some { enrolment with loops := enrolment.lists name :: later :: outer }

def enrolled (lists : μ → List (Entrant μ χ)) (into : μ) (entrants : List (Entrant μ χ)) :
    Part (μ → List (Entrant μ χ)) :=
  (StateTransition.eval (Enrolment.step? into) ⟨lists, [entrants]⟩).map Enrolment.lists

def Moment.enrolled (lists : μ → List (Entrant μ χ)) (moment : Moment μ χ ν) : Part (μ → List (Entrant μ χ)) :=
  match moment.move with
  | .register name sink => Switchboard.enrolled lists name [.sink sink]
  | .join name source => Switchboard.enrolled lists name [.named source]
  | .own | .publish .. | .finish | .throw _ => .some lists

def replayed (moments : List (Moment μ χ ν)) : Part (μ → List (Entrant μ χ)) :=
  moments.foldlM Moment.enrolled fun _ => []

section Calls
variable {s : Switchboard μ χ ν} {into : μ} {outer : List (List (Entrant μ χ))}

theorem rosters_extend (s : Switchboard μ χ ν) (into : μ) (children : List χ) :
    (s.extend into children).rosters = grow s.rosters into (children.map .leaf) := by
  funext other
  simp only [rosters, extend, grow]
  split <;> simp

theorem grow_cons (lists : μ → List (Entrant μ χ)) (into : μ) (entrant : Entrant μ χ) (later : List (Entrant μ χ)) :
    grow (grow lists into [entrant]) into later = grow lists into (entrant :: later) := by
  funext other
  simp only [grow]
  split <;> simp

-- What a flat list holds is registered without any further recursion, also with a list that it came from.
theorem leaves_reach (lists : μ → List (Entrant μ χ)) (children : List χ) :
    StateTransition.Reaches (Enrolment.step? into) ⟨lists, children.map .leaf :: outer⟩
      ⟨grow lists into (children.map .leaf), outer⟩ := by
  induction children generalizing lists with
  | nil =>
    have same : grow lists into [] = lists := by
      funext other
      simp [grow]
    rw [List.map_nil, same]
    exact .single rfl
  | cons child later ih =>
    rw [List.map_cons, ← grow_cons]
    exact .head rfl (ih _)

-- No list holds a multiplexer, so there is at most one loop inside another.
theorem entrant_reach (s : Switchboard μ χ ν) (entrant : Entrant μ χ) (later : List (Entrant μ χ)) :
    StateTransition.Reaches (Enrolment.step? into) ⟨s.rosters, (entrant :: later) :: outer⟩
      ⟨(s.extend into (s.held entrant)).rosters, later :: outer⟩ := by
  rw [rosters_extend]
  cases entrant with
  | sink sink =>
    cases sink with
    | child child => exact .single rfl
    | multiplexer sinks => exact .head rfl (leaves_reach s.rosters (Sink.childrenOf sinks))
  | named name => exact .head rfl (leaves_reach s.rosters (s.board name))

theorem entrants_reach (s : Switchboard μ χ ν) (entrants : List (Entrant μ χ)) :
    StateTransition.Reaches (Enrolment.step? into) ⟨s.rosters, entrants :: outer⟩
      ⟨(entrants.foldl (fun s entrant => s.extend into (s.held entrant)) s).rosters, outer⟩ := by
  induction entrants generalizing s with
  | nil => exact .single rfl
  | cons entrant later ih => exact (entrant_reach s entrant later).trans (ih _)

theorem enrolled_rosters (s : Switchboard μ χ ν) (into : μ) (entrants : List (Entrant μ χ)) :
    enrolled s.rosters into entrants =
      .some (entrants.foldl (fun s entrant => s.extend into (s.held entrant)) s).rosters := by
  rw [Part.eq_some_iff, enrolled, Part.mem_map_iff]
  exact ⟨_, StateTransition.mem_eval.mpr ⟨entrants_reach s entrants, rfl⟩, rfl⟩

theorem foldl_extend (s : Switchboard μ χ ν) {entrants : List (Entrant μ χ)} (others : .named into ∉ entrants) :
    entrants.foldl (fun s entrant => s.extend into (s.held entrant)) s = s.extend into (entrants.flatMap s.held) := by
  induction entrants generalizing s with
  | nil => simp [extend]
  | cons entrant later ih =>
    have rest : .named into ∉ later := fun member => others (List.mem_cons_of_mem _ member)
    have kept : later.flatMap (s.extend into (s.held entrant)).held = later.flatMap s.held := by
      refine List.flatMap_congr fun one member => held_congr ?_ (ne_of_mem_of_not_mem member rest)
      intro other apart
      simp [extend, apart]
    rw [List.foldl_cons, ih _ rest, kept, List.flatMap_cons]
    simp only [extend]
    congr 1
    funext other
    split <;> simp

theorem enrolled_define (s : Switchboard μ χ ν) {name : μ} {entrants : List (Entrant μ χ)}
    (others : .named name ∉ entrants) : enrolled (s.define name []).rosters name entrants =
      .some ((s.define name []).extend name (entrants.flatMap s.held)).rosters := by
  have kept : entrants.flatMap (s.define name []).held = entrants.flatMap s.held := by
    refine List.flatMap_congr fun one member => held_congr ?_ (ne_of_mem_of_not_mem member others)
    intro other apart
    simp [define, apart]
  rw [enrolled_rosters, foldl_extend _ others, kept]

theorem define_extend (s : Switchboard μ χ ν) (name : μ) (sinks : List (Sink χ)) :
    (s.define name []).extend name ((sinks.map Entrant.sink).flatMap s.held) = s.define name sinks := by
  have all : (sinks.map Entrant.sink).flatMap s.held = Sink.childrenOf sinks := by
    induction sinks with
    | nil => rfl
    | cons sink later ih => rw [List.map_cons, List.flatMap_cons, ih]; rfl
  rw [all]
  simp only [define, extend]
  congr 1
  funext other
  split <;> simp [Sink.childrenOf]

end Calls

section Runs
variable [Delivered ν] {s next : Switchboard μ χ ν} {move : Move μ χ ν} {moments : List (Moment μ χ ν)}

theorem advance_enrolled (advance : Advance s move next) :
    Moment.enrolled s.rosters ⟨s, move⟩ = .some next.rosters := by
  cases advance with
  | registers | joins => exact enrolled_rosters _ _ _
  | _ => rfl

theorem runs_replayed (path : Runs empty moments s) : replayed moments = .some s.rosters := by
  induction path with
  | nil => rfl
  | step _ moved ih =>
    rw [replayed] at ih ⊢
    rw [List.foldlM_append, ih]
    simpa using advance_enrolled (proceed_advance moved)

-- Only a call for a list itself adds to it.
theorem runs_keep_board (path : Runs s moments next) {name : μ} (quiet : ∀ moment ∈ moments,
    (∀ sink, moment.move ≠ .register name sink) ∧ ∀ source, moment.move ≠ .join name source) :
    next.board name = s.board name := by
  have nobody : ∀ moment ∈ moments, moment.entered name = [] := by
    intro moment member
    obtain ⟨neither, nor⟩ := quiet moment member
    unfold Moment.entered
    split
    · rename_i other sink moved
      refine if_neg ?_
      rintro rfl
      exact neither sink moved
    · rename_i other source moved
      refine if_neg ?_
      rintro rfl
      exact nor source moved
    · rfl
  rw [runs_board path, List.flatMap_eq_nil_iff.mpr nobody, List.append_nil]

end Runs

-- The calls of a run all come to an end, and so does whatever is called next.
theorem registration_flattens [Delivered ν] {moments : List (Moment μ χ ν)} {s : Switchboard μ χ ν}
    (path : Runs empty moments s) :
    replayed moments = .some s.rosters ∧
    (∀ into sink, enrolled s.rosters into [.sink sink] = .some (s.register into sink).rosters) ∧
    (∀ into source, enrolled s.rosters into [.named source] = .some (s.join into source).rosters) ∧
    -- what a call adds, and where
    (∀ into child, (s.register into (.child child)).board into = s.board into ++ [child]) ∧
    (∀ into source, (s.join into source).board into = s.board into ++ s.board source) ∧
    (∀ into other, other ≠ into → (∀ sink, (s.register into sink).board other = s.board other) ∧
      ∀ source, (s.join into source).board other = s.board other) ∧
    -- a new multiplexer registers one after another
    (∀ name entrants, .named name ∉ entrants → enrolled (s.define name []).rosters name entrants =
      .some ((s.define name []).extend name (entrants.flatMap s.held)).rosters) ∧
    (∀ name sinks, enrolled (s.define name []).rosters name (sinks.map .sink) =
      .some (s.define name sinks).rosters) ∧
    -- nothing comes later than with a call for the list itself
    ∀ {later : List (Moment μ χ ν)} {c : Switchboard μ χ ν}, Runs s later c → ∀ name,
      (∀ moment ∈ later, (∀ sink, moment.move ≠ .register name sink) ∧ ∀ source, moment.move ≠ .join name source) →
      c.board name = s.board name := by
  refine ⟨runs_replayed path, fun _ _ => enrolled_rosters _ _ _, fun _ _ => enrolled_rosters _ _ _, ?_, ?_, ?_,
    fun _ _ => enrolled_define s, ?_, ?_⟩
  · intro into child
    simp [register, extend, Sink.children]
  · intro into source
    simp [join, extend]
  · intro into other apart
    simp [register, join, extend, apart]
  · intro name sinks
    rw [enrolled_define s (by simp), define_extend]
  · exact fun onward name => runs_keep_board onward

-- A multiplexer registers with itself, two with one another, and both again while one of them is calling.
theorem cyclic_registration_ends :
    ∃ (moments : List (Moment Bool Nat RequestNotice)) (s : Switchboard Bool Nat RequestNotice),
      Runs empty moments s ∧ replayed moments = .some s.rosters ∧
      s.board true = [0, 0, 0, 0, 1, 2] ∧ s.board false = [0, 0, 1, 2, 0, 0, 1, 2] ∧
      enrolled s.rosters true [.named true] = .some (s.join true true).rosters := by
  let moves : List (Move Bool Nat RequestNotice) :=
    [.register true (.child 0), .join true true, .join false true,
      .register false (.multiplexer [.child 1, .multiplexer [.child 2]]), .publish true .closing, .own,
      .join true false, .join false false, .finish]
  have shown : ((empty : Switchboard Bool Nat RequestNotice).play moves).map (fun played =>
      (played.2.board true, played.2.board false)) = some ([0, 0, 0, 0, 1, 2], [0, 0, 1, 2, 0, 0, 1, 2]) := by
    decide +kernel
  obtain ⟨⟨moments, s⟩, played, boards⟩ := Option.map_eq_some_iff.mp shown
  obtain ⟨near, far⟩ := Prod.mk.inj boards
  have path := play_runs played
  obtain ⟨replayed, _, joins, _⟩ := registration_flattens path
  exact ⟨moments, s, path, replayed, near, far, joins true true⟩

end Enrolling
end ClusterRouting.Switchboard
