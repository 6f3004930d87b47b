import ClusterRouting.Proofs.Coordinator.Current

namespace ClusterRouting

-- The health of each host, and its distance once that was told.
abbrev Mirror := HostId → Option (Health × Option Distance)

namespace Mirror

def alter (m : Mirror) (host : HostId) (change : Option (Health × Option Distance) → Option (Health × Option Distance)) :
    Mirror :=
  fun other => if other = host then change (m other) else m other

def hear (m : Mirror) : Notice → Mirror
  | .added peer => m.alter peer.host fun _ => some (.unknown, none)
  | .removed peer => m.alter peer.host fun _ => none
  | .healthChanged peer _ current => m.alter peer.host (Option.map fun known => (current, known.2))
  | .distanceChanged peer distance => m.alter peer.host (Option.map fun known => (known.1, some distance))
  | .closing => m

-- What may be heard next. A host whose distance is still due is not spoken of otherwise.
def Accepts (m : Mirror) : Notice → Prop
  | .added peer => m peer.host = none
  | .removed peer => ∃ health distance, m peer.host = some (health, some distance)
  | .healthChanged peer previous current =>
    previous ≠ current ∧ ∃ distance, m peer.host = some (previous, some distance)
  | .distanceChanged peer distance => ∃ health before, m peer.host = some (health, before) ∧ before ≠ some distance
  | .closing => True

def hears (m : Mirror) (notices : List Notice) : Mirror := notices.foldl hear m

def empty : Mirror := fun _ => none

section Hearing
variable (m : Mirror) {notice : Notice} {host : HostId}

theorem hear_of_ne (other : notice.peer?.map Peer.host ≠ some host) : m.hear notice host = m host := by
  cases notice <;> simp_all [hear, alter, Notice.peer?, eq_comm]

theorem hear_hear (notice : Notice) : (m.hear notice).hear notice = m.hear notice := by
  funext host
  cases notice with
  | closing => rfl
  | _ =>
    simp only [hear, alter]
    split
    · cases m host <;> rfl
    · rfl

@[simp] theorem hears_nil : m.hears [] = m := rfl

@[simp] theorem hears_singleton (notice : Notice) : m.hears [notice] = m.hear notice := rfl

theorem hears_append (earlier later : List Notice) : m.hears (earlier ++ later) = (m.hears earlier).hears later :=
  List.foldl_append

end Hearing

end Mirror

-- The host whose distance everybody is told after this.
def Notice.due : Notice → Option HostId
  | added peer => some peer.host
  | _ => none

theorem Notice.due_named {notice : Notice} {host : HostId} (due : notice.due = some host) :
    notice.peer?.map Peer.host = some host := by
  cases notice with
  | added peer => exact due
  | _ => cases due

def Notice.Arrives (host : HostId) : Notice → Prop
  | added peer | distanceChanged peer _ => peer.host = host
  | removed _ | healthChanged .. | closing => False

-- The registry as a listener can know it, while the distance of one host may be due.
def Registry.shown (r : Registry) (due : Option HostId) : Mirror := fun host =>
  (r.find? host).map fun known => (known.2.health, if due = some host then none else some known.2.distance)

namespace Stage
variable {χ : Type}

def due : Stage χ → Option HostId
  | telling _ notice _ | told _ notice _ _ => notice.due
  | assigning _ peer => some peer.host
  | idle | serving _ | asking .. => none

def waiting : Stage χ → List (Listener χ)
  | telling _ _ waiting | told _ _ _ waiting => waiting
  | idle | serving _ | asking .. | assigning .. => []

def unheard [DecidableEq χ] (name : χ) : Stage χ → List Notice
  | telling _ notice waiting | told _ notice _ waiting => if .outside name ∈ waiting then [notice] else []
  | idle | serving _ | asking .. | assigning .. => []

end Stage

namespace Coordinator
variable {χ : Type}

section Shown
variable {r next : Registry} {host : HostId}

theorem Outcome.shown (valid : r.Coherent) {notice : Option Notice} (outcome : Outcome r host next notice) :
    (r.shown none).hears notice.toList = next.shown (notice.bind Notice.due) := by
  have named : ∀ said, notice = some said → said.peer?.map Peer.host = some host := by
    rintro said rfl
    exact outcome.named valid
  have shift := outcome.shift valid
  funext other
  by_cases differ : other = host
  · subst differ
    clear outcome
    generalize known : r.find? other = before, found : next.find? other = now at shift
    cases shift with
    | none => simp [Registry.shown, Mirror.hears, known, found]
    | silent health distance => simp [Registry.shown, Mirror.hears, known, found, health, distance]
    | moved health =>
      have same := Option.some.inj (named _ rfl)
      simp [Registry.shown, Mirror.hears, Mirror.hear, Mirror.alter, Notice.due, known, found, same, health]
    | treated distance =>
      have same := Option.some.inj (named _ rfl)
      simp [Registry.shown, Mirror.hears, Mirror.hear, Mirror.alter, Notice.due, known, found, same, distance]
    | entered =>
      have same := Option.some.inj (named _ rfl)
      simp [Registry.shown, Mirror.hears, Mirror.hear, Mirror.alter, Notice.due, found, same, Node.fresh]
    | dropped =>
      have same := Option.some.inj (named _ rfl)
      simp [Registry.shown, Mirror.hears, Mirror.hear, Mirror.alter, found, same]
  · have kept := outcome.others valid differ
    cases notice with
    | none => simp [Registry.shown, Mirror.hears, kept]
    | some said =>
      have apart : said.peer?.map Peer.host ≠ some other := by
        rw [named said rfl]
        simpa using Ne.symm differ
      have due : said.due ≠ some other := fun due => apart (Notice.due_named due)
      change (r.shown none).hear said other = next.shown said.due other
      rw [Mirror.hear_of_ne _ apart]
      simp [Registry.shown, kept, due]

theorem Outcome.accepted (valid : r.Coherent) {notice : Notice} (outcome : Outcome r host next (some notice)) :
    (r.shown none).Accepts notice := by
  have shift := outcome.shift valid
  have named := outcome.named valid
  clear outcome
  have stands : ∀ {peer node}, r.find? host = some (peer, node) → peer.host = host →
      r.shown none peer.host = some (node.health, some node.distance) := by
    intro peer node known same
    simp [Registry.shown, same, known]
  generalize known : r.find? host = before, next.find? host = now, said : some notice = news at shift
  cases shift with
  | none => cases said
  | silent => cases said
  | moved _ other =>
    cases said
    exact ⟨_, _, stands known (Option.some.inj named), by simpa using other⟩
  | treated _ other =>
    cases said
    exact ⟨other, _, stands known (Option.some.inj named)⟩
  | dropped =>
    cases said
    exact ⟨_, _, stands known (Option.some.inj named)⟩
  | entered =>
    cases said
    have same := Option.some.inj named
    simp [Mirror.Accepts, Registry.shown, same, known]

theorem shown_settles {peer : Peer} {node : Node} (found : r.find? peer.host = some (peer, node)) :
    (r.shown (some peer.host)).hear (.distanceChanged peer node.distance) = r.shown none := by
  funext other
  by_cases same : other = peer.host
  · subst same
    simp [Mirror.hear, Mirror.alter, Registry.shown, found]
  · simp [Mirror.hear, Mirror.alter, Registry.shown, same, Ne.symm same]

end Shown

section Hearing
variable [DecidableEq χ] {name : χ} {c next : Coordinator χ} {stage later : Stage χ} {registry : Registry}
variable {delivery : Option (Listener χ × Notice)} {m : Mirror}

def delivered (name : χ) : Option (Listener χ × Notice) → List Notice
  | some (child, notice) => if child = .outside name then [notice] else []
  | none => []

def heard (name : χ) (moments : List (Moment χ)) : List Notice :=
  moments.flatMap fun moment => delivered name moment.told

theorem onward_shown {service : Service} {host : HostId} {notice : Option Notice} (valid : c.registry.Coherent)
    (listed : .outside name ∈ c.listeners) (outcome : Outcome c.registry host registry notice)
    (shown : m = c.registry.shown none) :
    m.hears ((Stage.onward service c.listeners notice).unheard name) =
      registry.shown (Stage.onward service c.listeners notice).due := by
  subst shown
  have follows := outcome.shown valid
  cases notice with
  | none => exact follows
  | some notice => simpa [Stage.onward, Stage.unheard, Stage.due, listed] using follows

-- When the listener has heard what it still will in this round, it knows the registry.
theorem next_shown (valid : c.registry.Coherent) (holds : stage.Holds c.registry)
    (listed : c.datacenter.isSome → .outside name ∈ c.listeners) (located : stage.Active → c.datacenter.isSome)
    (passes : Next c stage delivery registry later)
    (shown : m.hears (stage.unheard name) = c.registry.shown stage.due) :
    (m.hears (delivered name delivery)).hears (later.unheard name) = registry.shown later.due := by
  cases passes with
  | still => exact shown
  | @tells service notice child later =>
    by_cases own : child = .outside name
    · have told : m.hear notice = c.registry.shown notice.due := by
        simpa [Stage.unheard, Stage.due, own] using shown
      rw [delivered, if_pos own, Stage.unheard, Stage.due, ← told]
      split
      · exact m.hear_hear notice
      · rfl
    · simpa [delivered, Stage.unheard, Stage.due, own, Ne.symm own] using shown
  | returns => exact shown
  | @ends service notice => cases notice <;> exact shown
  | @assigns service peer node live =>
    obtain ⟨other, found, _⟩ := holds
    cases live.symm.trans (Registry.find?_eq_some.mp found).2
    have member := listed (located trivial)
    have due : m = c.registry.shown (some peer.host) := shown
    simpa [delivered, Stage.unheard, Stage.due, Notice.due, member, due] using shown_settles found
  | misses gone =>
    obtain ⟨other, found, _⟩ := holds
    cases gone.symm.trans (Registry.find?_eq_some.mp found).2
  | applies started outcome => exact onward_shown valid (listed started) outcome shown
  | answers started outcome => exact onward_shown valid (listed started) outcome shown
  | _ => exact shown

theorem onward_accepts {service : Service} {host : HostId} {notice : Option Notice} (valid : c.registry.Coherent)
    (outcome : Outcome c.registry host registry notice) (shown : m = c.registry.shown none) :
    ∀ said ∈ (Stage.onward service c.listeners notice).unheard name, m.Accepts said := by
  subst shown
  intro said member
  cases notice with
  | none => cases member
  | some notice =>
    have same : said = notice := by simp_all [Stage.onward, Stage.unheard]
    exact same ▸ outcome.accepted valid

theorem next_accepts (valid : c.registry.Coherent) (holds : stage.Holds c.registry)
    (waiting : stage.waiting.Sublist c.listeners) (once : c.listeners.count (.outside name) ≤ 1)
    (passes : Next c stage delivery registry later)
    (shown : m.hears (stage.unheard name) = c.registry.shown stage.due)
    (accepts : ∀ notice ∈ stage.unheard name, m.Accepts notice) :
    ∀ notice ∈ later.unheard name, (m.hears (delivered name delivery)).Accepts notice := by
  cases passes with
  | still => exact accepts
  | @tells service notice child later =>
    by_cases own : child = .outside name
    · have counted : (child :: later).count (.outside name) ≤ 1 := Nat.le_trans (waiting.count_le _) once
      have gone : .outside name ∉ later := by
        rw [own, List.count_cons_self] at counted
        exact List.count_eq_zero.mp (by omega)
      simp [Stage.unheard, gone]
    · simpa [delivered, Stage.unheard, own, Ne.symm own] using accepts
  | returns => exact accepts
  | @ends service notice => cases notice <;> simp [Stage.after, Stage.unheard]
  | @assigns service peer node live =>
    obtain ⟨other, found, _⟩ := holds
    have due : m = c.registry.shown (some peer.host) := shown
    intro notice member
    have same : notice = .distanceChanged peer node.distance := by simp_all [Stage.unheard]
    subst same due
    exact ⟨other.health, none, by simp [delivered, Registry.shown, found], by simp⟩
  | misses => simp [Stage.unheard]
  | applies _ outcome => exact onward_accepts valid outcome shown
  | answers _ outcome => exact onward_accepts valid outcome shown
  | _ => simp [Stage.unheard]

omit [DecidableEq χ] in
theorem next_waiting (passes : Next c stage delivery registry later) (waiting : stage.waiting.Sublist c.listeners) :
    later.waiting.Sublist c.listeners := by
  have onward : ∀ (service : Service) (notice : Option Notice),
      (Stage.onward service c.listeners notice).waiting.Sublist c.listeners := by
    intro service notice
    cases notice with
    | none => exact List.nil_sublist _
    | some notice => exact List.Sublist.refl _
  cases passes with
  | still => exact waiting
  | tells => exact (List.sublist_cons_self _ _).trans waiting
  | returns => exact waiting
  | @ends service notice => cases notice <;> exact List.nil_sublist _
  | assigns => exact List.Sublist.refl _
  | applies => exact onward _ _
  | answers => exact onward _ _
  | _ => exact List.nil_sublist _

theorem hears_news (moment : Moment χ) : m.hears (delivered name moment.told) = m.hears (delivered name moment.news) := by
  unfold Moment.news
  cases moment.told with
  | none => rfl
  | some delivery =>
    obtain ⟨child, notice⟩ := delivery
    rw [Option.filter_some]
    split
    · rfl
    · rename_i plain
      have closing : notice = .closing := by simpa using plain
      subst closing
      by_cases own : child = .outside name
      · simp [delivered, own, Mirror.hear]
      · simp [delivered, own]

end Hearing

def mirror [DecidableEq χ] (name : χ) (moments : List (Moment χ)) : Mirror := Mirror.empty.hears (heard name moments)

structure Mirrored [DecidableEq χ] (name : χ) (moments : List (Moment χ)) (c : Coordinator χ) (stage : Stage χ) :
    Prop where
  holds : stage.Holds c.registry
  listed : c.datacenter.isSome → .outside name ∈ c.listeners
  waiting : stage.waiting.Sublist c.listeners
  shown : (mirror name moments).hears (stage.unheard name) = c.registry.shown stage.due
  accepts : c.listeners.count (.outside name) ≤ 1 → ∀ notice ∈ stage.unheard name, (mirror name moments).Accepts notice

def Registered (name : χ) (moments : List (Moment χ)) : Prop :=
  ∀ moment ∈ moments, moment.move.starts = true → .outside name ∈ moment.before.listeners

section Mirroring
variable [DecidableEq χ] {name : χ} {start c next : Coordinator χ} {stage later : Stage χ}
variable {moments : List (Moment χ)} {move : Move χ}

theorem mirror_snoc (name : χ) (moments : List (Moment χ)) (moment : Moment χ) :
    mirror name (moments ++ [moment]) = (mirror name moments).hears (delivered name moment.news) := by
  rw [← hears_news, mirror, mirror, ← Mirror.hears_append]
  simp [heard]

theorem mirrored_step (valid : c.registry.Coherent) (staged : Staged c stage) (mirrored : Mirrored name moments c stage)
    (advance : Advance c move next) (passes : Next c stage (Moment.news ⟨c, move⟩) next.registry later)
    (registered : move.starts = true → .outside name ∈ c.listeners) :
    Mirrored name (moments ++ [⟨c, move⟩]) next later := by
  have keeps := advance_keeps advance
  refine ⟨next_holds valid mirrored.holds passes, ?_, (next_waiting passes mirrored.waiting).trans keeps.listeners.sublist,
    ?_, ?_⟩
  · intro located
    rcases keeps.datacenter with same | starts
    · exact keeps.listeners.subset (mirrored.listed (same ▸ located))
    · exact keeps.listeners.subset (registered starts)
  · rw [mirror_snoc]
    exact next_shown valid mirrored.holds mirrored.listed staged.located passes mirrored.shown
  · intro once
    have before : c.listeners.count (.outside name) ≤ 1 :=
      Nat.le_trans (keeps.listeners.sublist.count_le _) once
    rw [mirror_snoc]
    exact next_accepts valid mirrored.holds mirrored.waiting before passes mirrored.shown (mirrored.accepts before)

theorem runs_mirrored {rule : DistanceRule} {configured : Option String} {listeners : List (Listener χ)}
    (path : Runs (fresh rule configured listeners) moments c) (mediated : Mediated moments)
    (registered : Registered name moments) : ∃ stage, Staged c stage ∧ Mirrored name moments c stage := by
  have initially : Mirrored name [] (fresh rule configured listeners) .idle :=
    ⟨trivial, by simp [fresh], List.nil_sublist _, rfl, fun _ _ member => nomatch member⟩
  have throughout : ∃ stage, Staged c stage ∧ (Registered name moments → Mirrored name moments c stage) := by
    refine runs_staged (fun moments c stage => Registered name moments → Mirrored name moments c stage)
      (fresh_staged rule configured listeners .empty) (fun _ => initially) ?_ mediated path
    intro moments c move next stage later earlier staged mirrored advance passes registered
    have before : Registered name moments := fun moment member => registered moment (List.mem_append_left _ member)
    exact mirrored_step (runs_coherent Registry.empty_coherent earlier) staged (mirrored before) advance passes
      (registered ⟨c, move⟩ (List.mem_append_right _ List.mem_cons_self))
  obtain ⟨stage, staged, mirrored⟩ := throughout
  exact ⟨stage, staged, mirrored registered⟩

theorem shown_due {r : Registry} {due : Option HostId} {host : HostId} {health : Health}
    (shown : r.shown due host = some (health, none)) : due = some host := by
  obtain ⟨known, _, same⟩ := Option.map_eq_some_iff.mp shown
  by_cases pending : due = some host
  · exact pending
  · simp [pending] at same

theorem Mirrored.arrives {service : Service} {notice : Notice} {waiting : List (Listener χ)}
    (mirrored : Mirrored name moments c (.telling service notice waiting))
    (once : c.listeners.count (.outside name) ≤ 1) {host : HostId} {health : Health}
    (pending : mirror name moments host = some (health, none)) : notice.Arrives host := by
  have shown := mirrored.shown
  have due : notice.due = some host → notice.Arrives host := by
    intro due
    cases notice with
    | added peer => exact Option.some.inj due
    | _ => cases due
  by_cases member : .outside name ∈ waiting
  · have accepts := mirrored.accepts once notice (by simp [Stage.unheard, member])
    have heard : (mirror name moments).hear notice = c.registry.shown notice.due := by
      simpa [Stage.unheard, Stage.due, member] using shown
    by_cases named : notice.peer?.map Peer.host = some host
    · have same : ∀ peer, notice.peer? = some peer → peer.host = host := by
        intro peer subject
        simpa [subject] using named
      cases notice with
      | added peer => exact same peer rfl
      | distanceChanged peer _ => exact same peer rfl
      | removed peer =>
        obtain ⟨_, _, settled⟩ := accepts
        rw [same peer rfl, pending] at settled
        cases settled
      | healthChanged peer =>
        obtain ⟨_, _, settled⟩ := accepts
        rw [same peer rfl, pending] at settled
        cases settled
      | closing => cases named
    · have untouched : c.registry.shown notice.due host = some (health, none) := by
        rw [← heard, Mirror.hear_of_ne _ named, pending]
      exact due (shown_due untouched)
  · have settled : mirror name moments = c.registry.shown notice.due := by
      simpa [Stage.unheard, Stage.due, member] using shown
    exact due (shown_due (settled ▸ pending))

end Mirroring

-- The table is right also for a listener that is registered several times. That each notice fits it is said of a single
-- registration; names mean nothing to the coordinator, so any one can have its own.
theorem listeners_mirror_registry [DecidableEq χ] (rule : DistanceRule) (configured : Option String)
    (listeners : List (Listener χ)) (name : χ) {moments : List (Moment χ)} {c : Coordinator χ}
    (path : Runs (fresh rule configured listeners) moments c) (mediated : Mediated moments)
    (registered : Registered name moments) :
    (c.busy = false → ∀ host, mirror name moments host =
      (c.registry.find? host).map fun known => (known.2.health, c.registry.distance? host)) ∧
    (c.listeners.count (.outside name) ≤ 1 → ∀ earlier moment later child notice,
      moments = earlier ++ moment :: later → moment.told = some (child, notice) → notice ≠ .closing →
        (child = .outside name → (mirror name earlier).Accepts notice) ∧
        ∀ host health, mirror name earlier host = some (health, none) → notice.Arrives host) := by
  constructor
  · intro free host
    obtain ⟨stage, staged, mirrored⟩ := runs_mirrored path mediated registered
    obtain rfl := staged.free free
    have shown : mirror name moments = c.registry.shown none := mirrored.shown
    have valid := runs_coherent Registry.empty_coherent path
    rw [shown, Registry.shown, valid.distance?_eq]
    cases c.registry.find? host <;> rfl
  · rintro once earlier moment later child notice rfl told news
    obtain ⟨middle, before, after⟩ := path.split
    obtain ⟨rfl, _⟩ := after.first
    have fewer : moment.before.listeners.count (.outside name) ≤ 1 :=
      Nat.le_trans ((runs_listeners after).sublist.count_le _) once
    obtain ⟨stage, staged, mirrored⟩ := runs_mirrored before mediated.append.1
      fun other member => registered other (List.mem_append_left _ member)
    obtain ⟨others, rest, top⟩ := Moment.told_top told
    obtain ⟨service, rfl, _⟩ := Stage.of_round (staged.top top (afoot_round news))
    refine ⟨?_, fun host health pending => mirrored.arrives fewer pending⟩
    rintro rfl
    exact mirrored.accepts fewer notice (by simp [Stage.unheard])

-- A start with two nodes. The listener reports the first one up when it arrives, and breaks off when it is told of its
-- distance. Afterwards the second one is dropped.
theorem start_and_removal_mirrored :
    let near : Descriptor := ⟨⟨1⟩, .v4 ⟨10, 0, 0, 1⟩ 9042, some "dc1", none⟩
    let far : Descriptor := ⟨⟨2⟩, .v4 ⟨10, 0, 0, 2⟩ 9042, some "dc2", none⟩
    let idle : Coordinator Unit := fresh ⟨true, false⟩ (some "dc1") [.outside ()]
    ∃ moments c, Runs idle moments c ∧ Mediated moments ∧ Registered () moments ∧ c.busy = false ∧
      c.listeners.count (.outside ()) ≤ 1 ∧
      submitted moments = [.event (.up near.host), .event (.removed far.host)] ∧
      heard () moments = [.added ⟨near.host, 0⟩, .distanceChanged ⟨near.host, 0⟩ .home, .added ⟨far.host, 1⟩,
        .distanceChanged ⟨far.host, 1⟩ .remote, .healthChanged ⟨near.host, 0⟩ .unknown .up, .removed ⟨far.host, 1⟩] ∧
      mirror () moments near.host = some (.up, some .home) ∧ mirror () moments far.host = none ∧
      (∀ host, mirror () moments host =
        (c.registry.find? host).map fun known => (known.2.health, c.registry.distance? host)) ∧
      ∀ earlier moment later notice, moments = earlier ++ moment :: later →
        moment.told = some (.outside (), notice) → notice ≠ .closing → (mirror () earlier).Accepts notice := by
  intro near far idle
  let returns : List (Move Unit) := [.own, .call .finish, .own]
  let moves : List (Move Unit) :=
    [.call (.start [near, far] []), .own, .own, .call (.submit (.event (.up ⟨1⟩))), .call .finish, .own, .own, .own,
      .call (.throw (.message "boom")), .own, .own] ++ returns ++ [.own] ++ returns ++ [.own, .own] ++ returns ++
      [.own, .call (.submit (.event (.removed ⟨2⟩))), .own] ++ returns ++ [.own]
  have shown : (idle.play moves).map (fun played => (heard () played.1, played.2.busy, submitted played.1)) =
      some ([.added ⟨near.host, 0⟩, .distanceChanged ⟨near.host, 0⟩ .home, .added ⟨far.host, 1⟩,
        .distanceChanged ⟨far.host, 1⟩ .remote, .healthChanged ⟨near.host, 0⟩ .unknown .up, .removed ⟨far.host, 1⟩],
        false, [.event (.up near.host), .event (.removed far.host)]) := by
    decide +kernel
  have listed : (idle.play moves).map (fun played => (played.2.listeners,
      (played.1.filter fun moment => moment.move.starts).map fun moment => moment.before.listeners)) =
      some ([.outside ()], [[.outside ()]]) := by
    decide +kernel
  obtain ⟨⟨moments, c⟩, played, facts⟩ := Option.map_eq_some_iff.mp shown
  obtain ⟨path, made⟩ := play_exact.mp played
  simp only [Prod.mk.injEq] at facts
  obtain ⟨told, free, sent⟩ := facts
  simp only [played, Option.map_some, Option.some.injEq, Prod.mk.injEq] at listed
  obtain ⟨listeners, starts⟩ := listed
  have mediated : Mediated moments := by
    rw [Mediated, made]
    decide
  have registered : Registered () moments := by
    intro moment member started
    have kept : moment ∈ moments.filter fun moment => moment.move.starts := List.mem_filter.mpr ⟨member, started⟩
    have listed := List.mem_map_of_mem (f := fun moment => moment.before.listeners) kept
    rw [starts] at listed
    simp [List.mem_singleton.mp listed]
  have once : c.listeners.count (.outside ()) ≤ 1 := by simp [listeners]
  obtain ⟨mirrored, accepted⟩ := listeners_mirror_registry _ _ _ () path mediated registered
  refine ⟨moments, c, path, mediated, registered, free, once, sent, told, ?_, ?_, mirrored free, ?_⟩
  · rw [mirror, told]
    rfl
  · rw [mirror, told]
    rfl
  · intro earlier moment later notice split notified news
    exact (accepted once earlier moment later _ notice split notified news).1 rfl

end Coordinator
end ClusterRouting
