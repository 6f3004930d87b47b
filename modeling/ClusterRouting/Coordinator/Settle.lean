import ClusterRouting.Coordinator.Step

namespace ClusterRouting.Coordinator
variable {χ : Type}

def roundWeight (children : Nat) : Nat := 2 * children + 1

def assigningWeight (listeners : Nat) : Nat := roundWeight listeners + 1

-- Recording a descriptor takes at most two fan-outs.
def recordingWeight (listeners : Nat) : Nat := assigningWeight listeners + roundWeight listeners + 1

def frameWeight (listeners : Nat) : Frame (Listener χ) Notice Job → Nat
  | .round _ waiting => roundWeight waiting.length
  | .inside _ _ => 1
  | .work (.populating _ left) => left.length * (recordingWeight listeners + 1) + 2
  | .work .draining => 1
  | .work (.evaluating ..) => recordingWeight listeners
  | .work (.assigning _) => assigningWeight listeners

def stackWeight (listeners : Nat) : List (Frame (Listener χ) Notice Job) → Nat
  | [] => 0
  | frame :: rest => frameWeight listeners frame + stackWeight listeners rest

-- What is left to do if nobody outside adds anything.
def weight (c : Coordinator χ) : Nat :=
  c.queue.length * (recordingWeight c.listeners.length + 1) + stackWeight c.listeners.length c.stack

@[simp] theorem weight_note (c : Coordinator χ) (record : LogRecord) : (c.note record).weight = c.weight :=
  rfl

@[simp] theorem weight_noteAll (c : Coordinator χ) (records : List LogRecord) :
    (c.noteAll records).weight = c.weight := rfl

@[simp] theorem weight_registry (c : Coordinator χ) (registry : Registry) :
    { c with registry }.weight = c.weight := rfl

@[simp] theorem listeners_note (c : Coordinator χ) (record : LogRecord) :
    (c.note record).listeners = c.listeners := rfl

@[simp] theorem listeners_noteAll (c : Coordinator χ) (records : List LogRecord) :
    (c.noteAll records).listeners = c.listeners := rfl

@[simp] theorem listeners_begin (c : Coordinator χ) (job : Job) : (c.begin job).listeners = c.listeners :=
  rfl

theorem weight_begin (c : Coordinator χ) (job : Job) :
    (c.begin job).weight = c.weight + frameWeight (χ := χ) c.listeners.length (.work job) := by
  simp only [weight, begin, stackWeight]
  omega

theorem weight_publish (c : Coordinator χ) (notice : Notice) :
    (c.publish notice).weight = c.weight + roundWeight c.listeners.length := by
  simp only [weight, publish, stackWeight, frameWeight]
  omega

theorem weight_announce (c : Coordinator χ) (outcome : Registry.Upsert) :
    (c.announce outcome).weight < c.weight + recordingWeight c.listeners.length := by
  cases outcome with
  | created peer distance =>
    simp only [announce, weight_publish, weight_begin, weight_note, frameWeight, listeners_begin,
      listeners_note, recordingWeight]
    omega
  | relocated peer previous current =>
    simp only [announce]
    split
    · simp only [recordingWeight]; omega
    · simp only [weight_publish, recordingWeight]; omega
  | updated => simp only [announce, recordingWeight]; omega
  | unchanged => simp only [announce, recordingWeight]; omega

theorem weight_adopt (c : Coordinator χ) (purpose : Purpose) (d : Descriptor)
    (decided : Except Fault Distance) :
    (c.adopt purpose d decided).weight < c.weight + recordingWeight c.listeners.length := by
  unfold adopt
  split
  · rename_i outcome registry _
    exact weight_announce (({ c with registry } : Coordinator χ).noteAll outcome.logged) outcome
  · simp only [weight_note, recordingWeight]; omega

theorem weight_assign (c : Coordinator χ) (peer : Peer) (distance : Distance) :
    (c.assign peer distance).weight < c.weight + recordingWeight c.listeners.length := by
  unfold assign
  split
  · simp only [weight_note, recordingWeight]; omega
  · split
    · simp only [recordingWeight]; omega
    · simp only [weight_publish, weight_note, weight_registry, listeners_note, recordingWeight]; omega

theorem weight_consider (c : Coordinator χ) (datacenter : String) (purpose : Purpose) (d : Descriptor) :
    (c.consider datacenter purpose d).weight ≤ c.weight + recordingWeight c.listeners.length := by
  unfold consider
  split
  · simp only [weight_begin, frameWeight]; omega
  · exact Nat.le_of_lt (weight_adopt ..)

theorem weight_setHealth (c : Coordinator χ) (host : HostId) (health : Health) (forced : Bool) :
    (c.setHealth host health forced).weight ≤ c.weight + recordingWeight c.listeners.length := by
  unfold setHealth
  split
  · simp
  · split
    · simp
    · split
      · simp
      · dsimp only
        split
        · simp
        · simp only [weight_publish, weight_note, weight_registry, listeners_note, recordingWeight]
          omega

theorem weight_applyEvent (c : Coordinator χ) (datacenter : String) (event : Event) :
    (c.applyEvent datacenter event).weight ≤ c.weight + recordingWeight c.listeners.length := by
  cases event with
  | added d => exact weight_consider ..
  | removed host =>
    simp only [applyEvent]
    split
    · simp
    · simp only [weight_publish, weight_noteAll, weight_registry, listeners_noteAll, recordingWeight]
      omega
  | up host => exact weight_setHealth ..
  | down host => exact weight_setHealth ..
  | forceDown host => exact weight_setHealth ..
  | forceUp host =>
    simp only [applyEvent]
    split
    · simp
    · split
      · exact weight_setHealth ..
      · simp
  | reevaluate host =>
    simp only [applyEvent]
    split
    · simp
    · split
      · simp only [weight_begin, frameWeight]; omega
      · exact Nat.le_of_lt (weight_assign ..)

theorem weight_dispatch (c : Coordinator χ) (command : Command) :
    (c.dispatch command).weight ≤ c.weight + recordingWeight c.listeners.length := by
  unfold dispatch
  split
  · split
    · cases command with
      | event event => exact weight_applyEvent ..
      | report host distance =>
        simp only [apply]
        split
        · simp
        · exact Nat.le_of_lt (weight_assign ..)
    · simp
  · simp
  · simp
  · simp

theorem weight_step {c next : Coordinator χ} (moved : c.step? = some next) : next.weight < c.weight := by
  unfold step? at moved
  split at moved
  · cases moved
  · rename_i notice waiting rest top
    cases Option.some.inj moved
    cases waiting with
    | nil => simp [weight, top, Frame.advance, stackWeight, frameWeight, roundWeight]
    | cons child later =>
      simp [weight, top, Frame.advance, stackWeight, frameWeight, roundWeight]
      omega
  · rename_i notice rest top
    cases Option.some.inj moved
    simp [weight, top, stackWeight, frameWeight]
  · cases moved
  · cases moved
  · rename_i datacenter rest top
    cases Option.some.inj moved
    unfold finishStart
    split
    · rw [weight_begin]
      simp [weight, top, stackWeight, frameWeight, note]
      omega
    · simp [weight, top, stackWeight, frameWeight]
  · rename_i datacenter d left rest top
    cases Option.some.inj moved
    have bound := weight_consider ({ c with stack := .work (.populating datacenter left) :: rest })
      datacenter .initial d
    simp only [weight, top, stackWeight, frameWeight, List.length_cons, Nat.add_mul, Nat.one_mul] at bound ⊢
    omega
  · rename_i rest top
    split at moved
    · rename_i empty
      cases Option.some.inj moved
      simp [weight, top, stackWeight, frameWeight]
    · rename_i command queue waiting
      cases Option.some.inj moved
      have bound := weight_dispatch ({ c with queue }) command
      simp only [weight, top, waiting, stackWeight, frameWeight, List.length_cons, Nat.add_mul,
        Nat.one_mul] at bound ⊢
      omega
  · rename_i peer rest top
    dsimp only at moved
    split at moved
    · cases Option.some.inj moved
      rw [weight_publish]
      simp [weight, top, stackWeight, frameWeight, assigningWeight]
      omega
    · cases Option.some.inj moved
      simp [weight, top, stackWeight, frameWeight, assigningWeight]

def settle (c : Coordinator χ) : Coordinator χ :=
  match _moved : c.step? with
  | none => c
  | some next => next.settle
termination_by c.weight
decreasing_by exact weight_step _moved

theorem step?_settle (c : Coordinator χ) : c.settle.step? = none := by
  fun_induction settle c with
  | case1 c still => exact still
  | case2 c next moved ih => exact ih

end ClusterRouting.Coordinator
