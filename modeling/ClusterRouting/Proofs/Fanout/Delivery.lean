import ClusterRouting.Fanout
import ClusterRouting.Proofs.Runs
import Mathlib.Algebra.GroupWithZero.Nat

namespace ClusterRouting.Switchboard
variable {μ χ ν : Type}

-- Whoever is outside moves when the switchboard does not: the child that was told last, or else the caller. To make a
-- new multiplexer is to register with one that has no children so far.
inductive Move (μ χ ν : Type) where
  | own
  | register (name : μ) (sink : Sink χ)
  | join (name source : μ)
  | publish (name : μ) (notice : ν)
  | finish
  | throw (payload : Payload)

abbrev Moment (μ χ ν : Type) := ClusterRouting.Moment (Switchboard μ χ ν) (Move μ χ ν)

structure Ending (χ ν : Type) where
  child : χ
  notice : ν
  payload : Option Payload

namespace Ending

def delivery (ending : Ending χ ν) : χ × ν := (ending.child, ending.notice)

def record? [Delivered ν] (ending : Ending χ ν) : Option LogRecord :=
  match ending.payload with
  | some (.quiet fault) => some (Delivered.failed ending.notice fault)
  | some (.charged _) | none => none

def escaped? (ending : Ending χ ν) : Option Payload :=
  match ending.payload with
  | some (.charged left) => some left
  | some (.quiet _) | none => none

theorem record?_isSome [Delivered ν] {ending : Ending χ ν} (contained : ending.escaped? = none) :
    ending.record?.isSome = ending.payload.isSome := by
  unfold escaped? at contained
  unfold record?
  split at contained
  · cases contained
  · rename_i caught
    rw [caught]
    rfl
  · rename_i returned
    rw [returned]
    rfl

end Ending

namespace Moment

def delivery? (moment : Moment μ χ ν) : Option (χ × ν) :=
  match moment.move, moment.before.stack with
  | .own, .round notice (child :: _) :: _ => some (child, notice)
  | _, _ => none

def ending? (moment : Moment μ χ ν) : Option (Ending χ ν) :=
  match moment.move, moment.before.stack with
  | .finish, .inside child notice :: _ => some ⟨child, notice, none⟩
  | .throw payload, .inside child notice :: _ => some ⟨child, notice, some payload⟩
  | _, _ => none

def warning? [Delivered ν] (moment : Moment μ χ ν) : Option LogRecord := (ending? moment).bind Ending.record?

-- What is delivered, and which child ends, in the call that has so many frames below it.
def delivered (below : Nat) (moment : Moment μ χ ν) : List (χ × ν) :=
  if moment.before.stack.length = below + 1 then (delivery? moment).toList else []

def ended (below : Nat) (moment : Moment μ χ ν) : List (Ending χ ν) :=
  if moment.before.stack.length = below + 2 then (ending? moment).toList else []

theorem delivered_of_deeper {below : Nat} {moment : Moment μ χ ν} (deeper : below + 1 < moment.before.stack.length) :
    delivered below moment = [] := if_neg (Nat.ne_of_gt deeper)

theorem ended_of_deeper {below : Nat} {moment : Moment μ χ ν} (deeper : below + 2 < moment.before.stack.length) :
    ended below moment = [] := if_neg (Nat.ne_of_gt deeper)

def entered [DecidableEq μ] (name : μ) (moment : Moment μ χ ν) : List χ :=
  match moment.move with
  | .register other sink => if name = other then sink.children else []
  | .join other source => if name = other then moment.before.board source else []
  | _ => []

-- How many moves it adds to those that the frames stand for: itself, and all that a new call takes.
def cost (moment : Moment μ χ ν) : Nat :=
  match moment.move with
  | .publish name _ => 2 * (moment.before.board name).length + 2
  | .register .. | .join .. => 1
  | .own | .finish | .throw _ => 0

end Moment

-- The moves that the frames still take if nobody adds to them.
def pending : List (Frame χ ν Empty) → Nat
  | [] => 0
  | .round _ waiting :: rest => 2 * waiting.length + 1 + pending rest
  | .inside _ _ :: rest => 1 + pending rest
  | .work job :: _ => nomatch job

theorem pending_append_le (upper low : List (Frame χ ν Empty)) : pending low ≤ pending (upper ++ low) := by
  induction upper with
  | nil => exact Nat.le_refl _
  | cons frame upper ih =>
    cases frame with
    | round | inside =>
      simp only [List.cons_append, pending]
      omega
    | work job => cases job

-- Whoever has been told has the fan-out below that told it.
inductive Paired : List (Frame χ ν Empty) → Prop where
  | nil : Paired []
  | round {notice waiting rest} (below : Paired rest) : Paired (.round notice waiting :: rest)
  | inside {child notice other waiting rest} (below : Paired rest) :
      Paired (.inside child notice :: .round other waiting :: rest)

theorem Paired.of_inside {child : χ} {notice : ν} {rest : List (Frame χ ν Empty)}
    (paired : Paired (.inside child notice :: rest)) :
    ∃ other waiting below, rest = .round other waiting :: below ∧ Paired below := by
  cases paired with
  | inside below => exact ⟨_, _, _, rfl, below⟩

theorem Paired.tail {frame : Frame χ ν Empty} {rest : List (Frame χ ν Empty)} (paired : Paired (frame :: rest)) :
    Paired rest := by
  cases paired with
  | round below => exact below
  | inside below => exact .round below

theorem Paired.under {upper rest : List (Frame χ ν Empty)} (paired : Paired upper) (below : Paired rest) :
    Paired (upper ++ rest) := by
  induction paired with
  | nil => exact below
  | round _ ih => exact .round ih
  | inside _ ih => exact .inside ih

abbrev Contained (endings : List (Ending χ ν)) : Prop := ∀ ending ∈ endings, ending.escaped? = none

-- Where a call is: what it has delivered, how the children that are done have ended, and which it has ahead. Only what
-- the last of them leaves behind may have broken it off.
inductive Underway (base : List (Frame χ ν Empty)) (notice : ν) :
    List (χ × ν) → List (Ending χ ν) → List χ → List (Frame χ ν Empty) → Prop where
  | telling {endings ahead} (contained : Contained endings) :
      Underway base notice (endings.map Ending.delivery) endings ahead (.round notice ahead :: base)
  | inside {endings child ahead upper} (contained : Contained endings) (paired : Paired upper) :
      Underway base notice (endings.map Ending.delivery ++ [(child, notice)]) endings ahead
        (upper ++ .inside child notice :: .round notice ahead :: base)
  | finished {endings} (contained : Contained endings) :
      Underway base notice (endings.map Ending.delivery) endings [] base
  | broken {endings last ahead} (contained : Contained endings) (escapes : last.escaped?.isSome) :
      Underway base notice ((endings ++ [last]).map Ending.delivery) (endings ++ [last]) ahead base

section Underway
variable {base : List (Frame χ ν Empty)} {notice : ν} {told : List (χ × ν)} {endings : List (Ending χ ν)} {ahead : List χ}

theorem Underway.above {stack : List (Frame χ ν Empty)} (underway : Underway base notice told endings ahead stack) :
    ∃ upper, Paired upper ∧ stack = upper ++ base ∧
      (upper ≠ [] → Contained endings) ∧
      (upper = [] → endings.map Ending.delivery = told ∧
        (ahead = [] ∧ Contained endings ∨
          ∃ earlier last, endings = earlier ++ [last] ∧ Contained earlier ∧ last.escaped?.isSome)) := by
  cases underway with
  | telling contained => exact ⟨[_], .round .nil, rfl, fun _ => contained, by simp⟩
  | @inside _ child _ upper contained paired =>
    refine ⟨upper ++ [.inside child notice, .round notice ahead], paired.under (.inside .nil), by simp, ?_, by simp⟩
    exact fun _ => contained
  | finished contained => exact ⟨[], .nil, rfl, fun some => absurd rfl some, fun _ => ⟨rfl, .inl ⟨rfl, contained⟩⟩⟩
  | broken contained escapes =>
    refine ⟨[], .nil, rfl, fun some => absurd rfl some, fun _ => ⟨rfl, .inr ?_⟩⟩
    exact ⟨_, _, rfl, contained, escapes⟩

theorem ended_telling (contained : Contained endings) (last : Ending χ ν) (none : last.escaped? = none) :
    Underway base last.notice (endings.map Ending.delivery ++ [last.delivery]) (endings ++ [last]) ahead
      (.round last.notice ahead :: base) := by
  have all : Contained (endings ++ [last]) :=
    List.forall_mem_append.mpr ⟨contained, List.forall_mem_singleton.mpr none⟩
  simpa using Underway.telling all

theorem ended_broken (contained : Contained endings) (last : Ending χ ν)
    (escapes : last.escaped?.isSome) :
    Underway base last.notice (endings.map Ending.delivery ++ [last.delivery]) (endings ++ [last]) ahead base := by
  simpa using Underway.broken contained escapes

end Underway

theorem records_each [Delivered ν] {endings : List (Ending χ ν)} (contained : Contained endings) :
    (endings.filterMap Ending.record?).length = (endings.filterMap Ending.payload).length := by
  rw [List.length_filterMap_eq_countP, List.length_filterMap_eq_countP]
  refine List.countP_congr fun ending member => ?_
  rw [Ending.record?_isSome (contained ending member)]

theorem warnings_within [Delivered ν] (below : Nat) (moments : List (Moment μ χ ν)) :
    ((moments.flatMap (Moment.ended below)).filterMap Ending.record?).Sublist (moments.filterMap Moment.warning?) := by
  induction moments with
  | nil => exact .slnil
  | cons moment moments ih =>
    have single : ((moment.ended below).filterMap Ending.record?).Sublist ([moment].filterMap Moment.warning?) := by
      unfold Moment.ended Moment.warning?
      split
      · cases ended : moment.ending? with
        | none => simp
        | some ending => cases recorded : ending.record? <;> simp [ended, recorded]
      · exact List.nil_sublist _
    rw [List.flatMap_cons, List.filterMap_append, ← List.singleton_append, List.filterMap_append]
    exact single.append ih

section Moving
variable [DecidableEq μ]

@[simp] theorem stack_register (s : Switchboard μ χ ν) (name : μ) (sink : Sink χ) :
    (s.register name sink).stack = s.stack := rfl

@[simp] theorem stack_join (s : Switchboard μ χ ν) (name source : μ) : (s.join name source).stack = s.stack := rfl

variable [Delivered ν]

def proceed? (s : Switchboard μ χ ν) (move : Move μ χ ν) : Option (Switchboard μ χ ν) :=
  match s.step?, move with
  | some next, .own => some next
  | none, .register name sink => some (s.register name sink)
  | none, .join name source => some (s.join name source)
  | none, .publish name notice => some (s.publish name notice)
  | none, .finish => s.return?
  | none, .throw payload => s.throw? payload
  | _, _ => none

abbrev Runs : Switchboard μ χ ν → List (Moment μ χ ν) → Switchboard μ χ ν → Prop :=
  ClusterRouting.Runs fun s move next => s.proceed? move = some next

abbrev play : Switchboard μ χ ν → List (Move μ χ ν) → Option (List (Moment μ χ ν) × Switchboard μ χ ν) :=
  ClusterRouting.play proceed?

inductive Advance (s : Switchboard μ χ ν) : Move μ χ ν → Switchboard μ χ ν → Prop where
  | tells {notice child later rest} (top : s.stack = .round notice (child :: later) :: rest) :
      Advance s .own { s with stack := .inside child notice :: .round notice later :: rest }
  | ends {notice rest} (top : s.stack = .round notice [] :: rest) : Advance s .own { s with stack := rest }
  | registers {name sink} (waits : s.step? = none) : Advance s (.register name sink) (s.register name sink)
  | joins {name source} (waits : s.step? = none) : Advance s (.join name source) (s.join name source)
  | publishes {name notice} (waits : s.step? = none) : Advance s (.publish name notice) (s.publish name notice)
  | returns {child notice rest} (top : s.stack = .inside child notice :: rest) :
      Advance s .finish { s with stack := rest }
  | breaks {fault child notice rest} (top : s.stack = .inside child notice :: rest) :
      Advance s (.throw (.quiet fault)) { s with stack := rest, log := s.log ++ [Delivered.failed notice fault] }
  | escapes {left child notice other waiting rest} (top : s.stack = .inside child notice :: .round other waiting :: rest) :
      Advance s (.throw (.charged left)) { s with stack := rest }

section Steps
variable {s next : Switchboard μ χ ν} {move : Move μ χ ν}

theorem proceed_advance (moved : s.proceed? move = some next) : Advance s move next := by
  unfold proceed? at moved
  split at moved
  · rename_i stepped
    cases moved
    unfold step? at stepped
    split at stepped
    · rename_i notice waiting rest top
      cases stepped
      cases waiting with
      | nil => exact .ends top
      | cons child later => exact .tells top
    · cases stepped
  · rename_i waits
    cases moved
    exact .registers waits
  · rename_i waits
    cases moved
    exact .joins waits
  · rename_i waits
    cases moved
    exact .publishes waits
  · unfold return? at moved
    split at moved
    · rename_i top
      cases moved
      exact .returns top
    · cases moved
  · unfold throw? at moved
    split at moved
    · rename_i top
      cases moved
      exact .breaks top
    · rename_i top
      cases moved
      exact .escapes top
    · cases moved
  · cases moved

theorem proceed_possible {upper low : List (Frame χ ν Empty)} (paired : Paired upper) (above : s.stack = upper ++ low)
    (busy : upper ≠ []) :
    (∃ next, s.proceed? .own = some next) ∨
      (∃ next, s.proceed? .finish = some next) ∧ ∀ payload, ∃ next, s.proceed? (.throw payload) = some next := by
  cases paired with
  | nil => exact absurd rfl busy
  | round => exact .inl (by simp [proceed?, step?, above])
  | inside =>
    refine .inr ⟨by simp [proceed?, step?, return?, above], fun payload => ?_⟩
    cases payload <;> simp [proceed?, step?, throw?, above]

theorem advance_board (advance : Advance s move next) (name : μ) :
    next.board name = s.board name ++ Moment.entered name ⟨s, move⟩ := by
  cases advance with
  | registers =>
    simp only [register, extend, Moment.entered]
    split <;> simp
  | joins =>
    simp only [join, extend, Moment.entered]
    split <;> simp
  | _ => exact (List.append_nil _).symm

theorem advance_log (advance : Advance s move next) :
    next.log = s.log ++ (Moment.warning? ⟨s, move⟩).toList := by
  cases advance with
  | returns top | breaks top | escapes top => simp [Moment.warning?, Moment.ending?, Ending.record?, top]
  | _ => exact (List.append_nil _).symm

theorem advance_pending (advance : Advance s move next) :
    pending next.stack + 1 ≤ pending s.stack + Moment.cost ⟨s, move⟩ := by
  cases advance with
  | tells top =>
    simp only [top, pending, Moment.cost, List.length_cons]
    omega
  | publishes =>
    simp only [publish, pending, Moment.cost]
    omega
  | ends top =>
    simp only [top, pending, Moment.cost, List.length_nil]
    omega
  | returns top | breaks top | escapes top =>
    simp only [top, pending, Moment.cost]
    omega
  | registers | joins => exact Nat.le_refl _

theorem advance_above {frame : Frame χ ν Empty} {upper low : List (Frame χ ν Empty)} (paired : Paired (frame :: upper))
    (above : s.stack = frame :: (upper ++ low)) (advance : Advance s move next) :
    ∃ upper, Paired upper ∧ next.stack = upper ++ low := by
  cases advance with
  | @tells notice child later rest top =>
    obtain ⟨rfl, rfl⟩ := List.cons.inj (above.symm.trans top)
    exact ⟨.inside child notice :: .round notice later :: upper, .inside paired.tail, rfl⟩
  | ends top | returns top | breaks top =>
    obtain ⟨_, rfl⟩ := List.cons.inj (above.symm.trans top)
    exact ⟨upper, paired.tail, rfl⟩
  | @escapes left child notice other waiting rest top =>
    obtain ⟨rfl, same⟩ := List.cons.inj (above.symm.trans top)
    obtain ⟨_, _, below, rfl, whole⟩ := paired.of_inside
    obtain ⟨_, rfl⟩ := List.cons.inj same
    exact ⟨below, whole, rfl⟩
  | @publishes name notice =>
    refine ⟨.round notice (s.board name) :: frame :: upper, .round paired, ?_⟩
    simp [publish, above]
  | registers | joins => exact ⟨frame :: upper, paired, above⟩

end Steps

section Calls
variable {s c next : Switchboard μ χ ν} {move : Move μ χ ν} {moments : List (Moment μ χ ν)}

theorem play_runs {moves : List (Move μ χ ν)} (played : s.play moves = some (moments, c)) : Runs s moments c :=
  ((ClusterRouting.play_exact Iff.rfl).mp played).1

theorem runs_board (path : Runs s moments c) (name : μ) :
    c.board name = s.board name ++ moments.flatMap (Moment.entered name) := by
  induction path with
  | nil => simp
  | step _ moved ih => rw [advance_board (proceed_advance moved), ih]; simp

theorem runs_log (path : Runs s moments c) : c.log = s.log ++ moments.filterMap Moment.warning? := by
  induction path with
  | nil => simp
  | @step moments b move next _ moved ih =>
    have alone : [Moment.mk b move].filterMap Moment.warning? = (Moment.warning? ⟨b, move⟩).toList := by
      cases logged : Moment.warning? ⟨b, move⟩ <;> simp [logged]
    rw [advance_log (proceed_advance moved), ih, List.filterMap_append, alone, List.append_assoc]

theorem runs_pending (path : Runs s moments c) :
    pending c.stack + moments.length ≤ pending s.stack + (moments.map Moment.cost).sum := by
  induction path with
  | nil => simp
  | step _ moved ih =>
    have spent := advance_pending (proceed_advance moved)
    simp only [List.length_append, List.map_append, List.sum_append, List.length_singleton, List.map_cons, List.map_nil,
      List.sum_singleton]
    omega

section Proceeding
variable {base : List (Frame χ ν Empty)} {notice : ν} {told : List (χ × ν)} {endings : List (Ending χ ν)} {child : χ}
  {ahead : List χ}

def Proceeds (base : List (Frame χ ν Empty)) (notice : ν) (told : List (χ × ν)) (endings : List (Ending χ ν))
    (ahead : List χ) (moment : Moment μ χ ν) (next : Switchboard μ χ ν) : Prop :=
  ∃ later, Underway base notice (told ++ Moment.delivered base.length moment)
    (endings ++ Moment.ended base.length moment) later next.stack ∧
    Moment.delivered base.length moment ++ later.map (fun child => (child, notice)) =
      ahead.map fun child => (child, notice)

theorem telling_proceeds (contained : Contained endings) (top : s.stack = .round notice ahead :: base)
    (advance : Advance s move next) :
    Proceeds base notice (endings.map Ending.delivery) endings ahead ⟨s, move⟩ next := by
  have nobody : Moment.ended base.length ⟨s, move⟩ = [] := by simp [Moment.ended, top]
  unfold Proceeds
  rw [nobody, List.append_nil]
  cases advance with
  | @tells _ child later _ next =>
    cases top.symm.trans next
    have delivered : Moment.delivered base.length ⟨s, .own⟩ = [(child, notice)] := by
      simp [Moment.delivered, Moment.delivery?, top]
    rw [delivered]
    exact ⟨later, .inside contained .nil, rfl⟩
  | ends next =>
    cases top.symm.trans next
    have silent : Moment.delivered base.length ⟨s, .own⟩ = [] := by simp [Moment.delivered, Moment.delivery?, top]
    rw [silent, List.append_nil]
    exact ⟨[], .finished contained, rfl⟩
  | registers waits | joins waits | publishes waits => simp [step?, top] at waits
  | returns next | breaks next | escapes next => cases top.symm.trans next

theorem inside_proceeds (contained : Contained endings)
    (top : s.stack = .inside child notice :: .round notice ahead :: base) (advance : Advance s move next) :
    Proceeds base notice (endings.map Ending.delivery ++ [(child, notice)]) endings ahead ⟨s, move⟩ next := by
  have silent : Moment.delivered base.length ⟨s, move⟩ = [] := Moment.delivered_of_deeper (by simp [top])
  have stays : Underway base notice (endings.map Ending.delivery ++ [(child, notice)]) endings ahead s.stack :=
    top ▸ .inside contained .nil
  unfold Proceeds
  rw [silent, List.append_nil]
  refine ⟨ahead, ?_, rfl⟩
  cases advance with
  | tells next | ends next => cases top.symm.trans next
  | registers | joins => simpa [Moment.ended, Moment.ending?, top] using stays
  | @publishes name other =>
    have nested : Underway base notice (endings.map Ending.delivery ++ [(child, notice)]) endings ahead
        (s.publish name other).stack := by
      rw [publish, top]
      exact .inside contained (.round .nil)
    simpa [Moment.ended, Moment.ending?, top] using nested
  | returns next =>
    cases top.symm.trans next
    have ended : Moment.ended base.length ⟨s, .finish⟩ = [⟨child, notice, none⟩] := by
      simp [Moment.ended, Moment.ending?, top]
    rw [ended]
    exact ended_telling contained ⟨child, notice, none⟩ rfl
  | @breaks fault _ _ _ next =>
    cases top.symm.trans next
    have ended : Moment.ended base.length ⟨s, .throw (.quiet fault)⟩ = [⟨child, notice, some (.quiet fault)⟩] := by
      simp [Moment.ended, Moment.ending?, top]
    rw [ended]
    exact ended_telling contained ⟨child, notice, some (.quiet fault)⟩ rfl
  | @escapes left _ _ _ _ _ next =>
    cases top.symm.trans next
    have ended : Moment.ended base.length ⟨s, .throw (.charged left)⟩ = [⟨child, notice, some (.charged left)⟩] := by
      simp [Moment.ended, Moment.ending?, top]
    rw [ended]
    exact ended_broken contained ⟨child, notice, some (.charged left)⟩ rfl

theorem Underway.advance (underway : Underway base notice told endings ahead s.stack)
    (deeper : base.length < s.stack.length) (advance : Advance s move next) :
    Proceeds base notice told endings ahead ⟨s, move⟩ next := by
  generalize stack : s.stack = frames at underway
  cases underway with
  | telling contained => exact telling_proceeds contained stack advance
  | inside contained paired =>
    rename_i upper
    cases upper with
    | nil => exact inside_proceeds contained stack advance
    | cons frame upper =>
      -- another call is under way above
      have longer : base.length + 2 < s.stack.length := by
        simp only [stack, List.length_append, List.length_cons]
        omega
      obtain ⟨above, kept, same⟩ := advance_above paired stack advance
      unfold Proceeds
      rw [Moment.delivered_of_deeper (Nat.lt_of_succ_lt longer), Moment.ended_of_deeper longer, same, List.append_nil,
        List.append_nil]
      exact ⟨ahead, .inside contained kept, rfl⟩
  | finished | broken => simp [stack] at deeper

end Proceeding

theorem runs_underway {name : μ} {notice : ν} (path : Runs (s.publish name notice) moments c)
    (within : ∀ moment ∈ moments, s.stack.length < moment.before.stack.length) :
    ∃ ahead, Underway s.stack notice (moments.flatMap (Moment.delivered s.stack.length))
      (moments.flatMap (Moment.ended s.stack.length)) ahead c.stack ∧
      moments.flatMap (Moment.delivered s.stack.length) ++ ahead.map (fun child => (child, notice)) =
        (s.board name).map fun child => (child, notice) := by
  induction path with
  | nil => exact ⟨s.board name, .telling (List.forall_mem_nil _), rfl⟩
  | @step moments b move next path moved ih =>
    obtain ⟨ahead, underway, whole⟩ := ih fun moment member => within moment (List.mem_append_left _ member)
    have deeper := within ⟨b, move⟩ (List.mem_append_right _ List.mem_cons_self)
    obtain ⟨later, proceeds, same⟩ := underway.advance deeper (proceed_advance moved)
    refine ⟨later, by simpa using proceeds, ?_⟩
    rw [← whole, ← same]
    simp

-- Whatever has happened in a call, it is over once the children that are still to end do so.
theorem calls_end {name : μ} {notice : ν} (path : Runs (s.publish name notice) moments c)
    (within : ∀ moment ∈ moments, s.stack.length < moment.before.stack.length) :
    ∃ later last, Runs (s.publish name notice) (moments ++ later) last ∧
      (∀ moment ∈ later, s.stack.length < moment.before.stack.length) ∧ last.stack = s.stack := by
  induction left : pending c.stack using Nat.strongRecOn generalizing moments c with
  | _ left ih =>
    obtain ⟨ahead, underway, _⟩ := runs_underway path within
    obtain ⟨upper, paired, above, _⟩ := underway.above
    by_cases finished : upper = []
    · exact ⟨[], c, by simpa using path, by simp, by simpa [finished] using above⟩
    · have deeper : s.stack.length < c.stack.length := by
        have some := List.length_pos_iff.mpr finished
        simp only [above, List.length_append]
        omega
      have onward : ∃ move next, c.proceed? move = some next ∧ Moment.cost ⟨c, move⟩ = 0 := by
        rcases proceed_possible paired above finished with ⟨next, own⟩ | ⟨⟨next, ends⟩, _⟩
        · exact ⟨.own, next, own, rfl⟩
        · exact ⟨.finish, next, ends, rfl⟩
      obtain ⟨move, next, moved, free⟩ := onward
      have spent := advance_pending (proceed_advance moved)
      have goes : ∀ moment ∈ moments ++ [⟨c, move⟩], s.stack.length < moment.before.stack.length := by
        simpa [or_imp, forall_and] using ⟨within, deeper⟩
      obtain ⟨later, last, whole, inner, ended⟩ := ih (pending next.stack) (by omega) (path.step moved) goes rfl
      exact ⟨⟨c, move⟩ :: later, last, by simpa using whole, by simpa using ⟨deeper, inner⟩, ended⟩

end Calls

-- A call reaches the children that it finds, whatever these do, and logs each one that breaks off. Only a charge ends
-- it: then the others are not told, there is no warning, and what is left of the charge reaches the caller.
theorem calls_deliver_unless_charged (s : Switchboard μ χ ν) (name : μ) (notice : ν) {moments : List (Moment μ χ ν)}
    {c : Switchboard μ χ ν} (path : Runs (s.publish name notice) moments c)
    (within : ∀ moment ∈ moments, s.stack.length < moment.before.stack.length) :
    let below := s.stack.length
    let whole := (s.board name).map fun child => (child, notice)
    let told := moments.flatMap (Moment.delivered below)
    let endings := moments.flatMap (Moment.ended below)
    -- what it has delivered, and that it goes on
    told <+: whole ∧
    (below < c.stack.length → (∃ upper, c.stack = upper ++ s.stack) ∧ Contained endings ∧
      ((∃ next, c.proceed? .own = some next) ∨
        (∃ next, c.proceed? .finish = some next) ∧ ∀ payload, ∃ next, c.proceed? (.throw payload) = some next)) ∧
    -- its end
    (c.stack.length ≤ below → c.stack = s.stack ∧ endings.map Ending.delivery = told ∧
      (told = whole ∧ Contained endings ∧
          (endings.filterMap Ending.record?).length = (endings.filterMap Ending.payload).length ∨
        ∃ earlier last, endings = earlier ++ [last] ∧ Contained earlier ∧ last.escaped?.isSome)) ∧
    moments.length ≤ 2 * (s.board name).length + 1 + (moments.map Moment.cost).sum ∧
    (∃ later last, Runs (s.publish name notice) (moments ++ later) last ∧
      (∀ moment ∈ later, below < moment.before.stack.length) ∧ last.stack = s.stack) ∧
    -- whoever was registered meanwhile, and what was logged
    (∀ other, c.board other = s.board other ++ moments.flatMap (Moment.entered other)) ∧
    c.log = s.log ++ moments.filterMap Moment.warning? ∧
    (endings.filterMap Ending.record?).Sublist (moments.filterMap Moment.warning?) ∧
    (∀ (news : Notice) fault, (Delivered.failed news fault).level = .warn ∧
      ("error", fault.message?.getD "unknown panic") ∈ (Delivered.failed news fault).fields) ∧
    ∀ (report : RequestNotice) fault, (Delivered.failed report fault).level = .warn ∧
      ("error", fault.message?.getD "unknown panic") ∈ (Delivered.failed report fault).fields := by
  intro below whole told endings
  obtain ⟨ahead, underway, delivered⟩ := runs_underway path within
  obtain ⟨upper, paired, above, contained, finished⟩ := underway.above
  have board := runs_board path
  have log := runs_log path
  refine ⟨⟨_, delivered⟩, ?_, ?_, ?_, calls_end path within, board, log, warnings_within below moments, ?_, ?_⟩
  · intro deeper
    have busy : upper ≠ [] := by
      rintro rfl
      simp [above, below] at deeper
    exact ⟨⟨upper, above⟩, contained busy, proceed_possible paired above busy⟩
  · intro short
    have none : upper = [] := by
      rw [above, List.length_append] at short
      exact List.eq_nil_of_length_eq_zero (by omega)
    obtain ⟨ended, outcome⟩ := finished none
    refine ⟨by simpa [none] using above, ended, ?_⟩
    rcases outcome with ⟨rfl, quiet⟩ | broken
    · exact .inl ⟨by simpa using delivered, quiet, records_each quiet⟩
    · exact .inr broken
  · have spent := runs_pending path
    have rest : pending s.stack ≤ pending c.stack := by
      rw [above]
      exact pending_append_le upper s.stack
    simp only [publish, pending] at spent
    omega
  · intro news fault
    cases fault <;> exact ⟨rfl, by simp [Delivered.failed, LogRecord.fields, Fault.text, Fault.message?]⟩
  · intro report fault
    refine ⟨rfl, ?_⟩
    simp only [Delivered.failed, LogRecord.fields]
    cases fault <;> split <;> simp [Fault.text, Fault.message?]

end Moving

-- The first child registers a fourth one and calls again, where the second one leaves a charge. So the third one is not
-- told of that call, and the first one breaks off with what is left.
theorem charge_ends_inner_call :
    let s : Switchboard Unit Nat RequestNotice := empty.register () (.multiplexer [.child 0, .child 1, .child 2])
    let opening : RequestNotice := .sessionReady "s0"
    ∃ (moments : List (Moment Unit Nat RequestNotice)) (c : Switchboard Unit Nat RequestNotice),
      Runs (s.publish () opening) moments c ∧ (∀ moment ∈ moments, s.stack.length < moment.before.stack.length) ∧
      c.stack = s.stack ∧ c.board () = [0, 1, 2, 3] ∧
      moments.filterMap Moment.delivery? =
        [(0, opening), (0, .closing), (1, .closing), (1, opening), (2, opening)] ∧
      moments.flatMap (Moment.delivered 0) = [(0, opening), (1, opening), (2, opening)] ∧
      (moments.flatMap (Moment.ended 2)).filterMap Ending.escaped? = [.quiet (.message "boom")] ∧
      c.log = [.trackerFailed opening (.message "boom"), .trackerFailed opening .wordless] := by
  intro s opening
  let moves : List (Move Unit Nat RequestNotice) :=
    [.own, .register () (.child 3), .publish () .closing, .own, .finish, .own,
      .throw (.charged (Fault.message "boom")), .throw (Fault.message "boom"), .own, .finish, .own,
      .throw Fault.wordless, .own]
  have shown : ((s.publish () opening).play moves).map (fun played =>
      (played.1.all fun moment => s.stack.length < moment.before.stack.length, played.2.stack.length,
        played.1.filterMap Moment.delivery?, played.1.flatMap (Moment.entered ()))) =
      some (true, 0, [(0, opening), (0, .closing), (1, .closing), (1, opening), (2, opening)], [3]) := by
    decide +kernel
  have caught : ((s.publish () opening).play moves).map (fun played =>
      (played.1.filterMap Moment.warning?, (played.1.flatMap (Moment.ended 0)).filterMap Ending.escaped?,
        (played.1.flatMap (Moment.ended 2)).filterMap Ending.escaped?)) =
      some ([.trackerFailed opening (.message "boom"), .trackerFailed opening .wordless], [],
        [.quiet (.message "boom")]) := by
    decide +kernel
  obtain ⟨⟨moments, c⟩, played, facts⟩ := Option.map_eq_some_iff.mp shown
  simp only [Prod.mk.injEq, List.all_eq_true, decide_eq_true_eq] at facts
  obtain ⟨within, short, deliveries, entered⟩ := facts
  simp only [played, Option.map_some, Option.some.injEq, Prod.mk.injEq] at caught
  obtain ⟨warnings, contained, escaped⟩ := caught
  have path := play_runs played
  obtain ⟨_, _, finished, _, _, board, log, _⟩ := calls_deliver_unless_charged s () opening path within
  obtain ⟨returned, _, outcome⟩ := finished (Nat.le_of_eq short)
  have told : moments.flatMap (Moment.delivered 0) = [(0, opening), (1, opening), (2, opening)] := by
    rcases outcome with ⟨told, _⟩ | ⟨earlier, last, split, _, escapes⟩
    · exact told
    · -- nothing escapes from the outer call
      have last_contained : last.escaped? = none := by
        apply List.filterMap_eq_nil_iff.mp contained
        exact split ▸ List.mem_append_right _ List.mem_cons_self
      simp [last_contained] at escapes
  refine ⟨moments, c, path, within, returned, ?_, deliveries, told, escaped, ?_⟩
  · rw [board, entered]
    rfl
  · rw [log, warnings]
    rfl

-- Of two children the first one leaves a charge: the second one is not told, nothing is logged, and the call is over.
theorem charged_child_ends_call :
    let s : Switchboard Unit Nat Notice := empty.register () (.multiplexer [.child 0, .child 1])
    ∃ (moments : List (Moment Unit Nat Notice)) (c : Switchboard Unit Nat Notice),
      Runs (s.publish () .closing) moments c ∧ (∀ moment ∈ moments, s.stack.length < moment.before.stack.length) ∧
      c.stack = s.stack ∧ s.board () = [0, 1] ∧ moments.filterMap Moment.delivery? = [(0, .closing)] ∧
      (moments.flatMap (Moment.ended 0)).filterMap Ending.escaped? = [.quiet .wordless] ∧ c.log = [] := by
  intro s
  have shown : ((s.publish () .closing).play [.own, .throw (.charged Fault.wordless)]).map (fun played =>
      ((played.1.all fun moment => s.stack.length < moment.before.stack.length, played.2.stack.isEmpty),
        played.1.filterMap Moment.delivery?, (played.1.flatMap (Moment.ended 0)).filterMap Ending.escaped?,
        played.2.log)) = some ((true, true), [(0, .closing)], [.quiet .wordless], []) := by
    decide +kernel
  obtain ⟨⟨moments, c⟩, played, facts⟩ := Option.map_eq_some_iff.mp shown
  simp only [Prod.mk.injEq, List.all_eq_true, decide_eq_true_eq, List.isEmpty_iff] at facts
  obtain ⟨⟨within, returned⟩, deliveries, escaped, log⟩ := facts
  exact ⟨moments, c, play_runs played, within, returned, rfl, deliveries, escaped, log⟩

end ClusterRouting.Switchboard
