import ClusterRouting.Proofs.Coordinator.Stages

namespace ClusterRouting

-- What a notice says of the registry that its listener looks into.
def Notice.Current (r : Registry) : Notice → Prop
  | added peer => ∃ node, r.find? peer.host = some (peer, node) ∧ node.health = .unknown ∧
      r.distance? peer.host = some node.distance
  | removed peer => r.find? peer.host = none ∧ r.peer? peer.host = none ∧
      ∃ node, r.node? peer = some node ∧ node.removed = true
  | healthChanged peer _ current => ∃ node, r.find? peer.host = some (peer, node) ∧ node.health = current
  | distanceChanged peer distance => ∃ node, r.find? peer.host = some (peer, node) ∧ node.distance = distance ∧
      r.distance? peer.host = some distance ∧ ∀ d, peer ∈ r.topology.group d ↔ d = distance
  | closing => True

-- What a stage relies on until its listeners have heard.
def Stage.Holds {χ : Type} (r : Registry) : Stage χ → Prop
  | telling _ notice _ | told _ notice _ _ => notice.Current r
  | assigning _ peer => (Notice.added peer).Current r
  | idle | serving _ | asking .. => True

section Current
variable {r : Registry} {host : HostId} {peer : Peer} {node : Node}

theorem Registry.Coherent.distance_current (valid : r.Coherent) (found : r.find? host = some (peer, node)) :
    (Notice.distanceChanged peer node.distance).Current r := by
  obtain rfl := Registry.find?_host found
  refine ⟨node, found, rfl, ?_, valid.mem_group_iff found⟩
  simp [valid.distance?_eq, found]

end Current

namespace Coordinator
variable {χ : Type}

theorem Outcome.current {r next : Registry} {host : HostId} {notice : Notice} (valid : r.Coherent)
    (outcome : Outcome r host next (some notice)) : notice.Current next := by
  have after : next.Coherent := Registry.changes_coherent valid outcome.changes
  have shift := outcome.shift valid
  have flagged : ∀ peer, notice = .removed peer → ∃ node, next.node? peer = some node ∧ node.removed = true := by
    rintro peer rfl
    exact outcome.flagged valid
  clear outcome
  generalize known : r.find? host = before, found : next.find? host = now, said : some notice = news at shift
  cases shift with
  | none => cases said
  | silent => cases said
  | @entered peer d distance =>
    cases said
    obtain rfl := Registry.find?_host found
    exact ⟨_, found, rfl, by simp [after.distance?_eq, found]⟩
  | moved =>
    cases said
    exact after.distance_current found
  | @treated peer node next distance other =>
    cases said
    obtain rfl := Registry.find?_host found
    exact ⟨_, found, rfl⟩
  | dropped =>
    cases said
    obtain rfl := Registry.find?_host known
    exact ⟨found, after.find?_eq_none.mp found, flagged _ rfl⟩

section Holding
variable {c next : Coordinator χ} {stage later : Stage χ} {delivery : Option (Listener χ × Notice)}
variable {registry : Registry}

theorem onward_holds {service : Service} {listeners : List (Listener χ)} {host : HostId} {notice : Option Notice}
    (valid : c.registry.Coherent) (outcome : Outcome c.registry host registry notice) :
    (Stage.onward service listeners notice).Holds registry := by
  cases notice with
  | none => trivial
  | some notice => exact outcome.current valid

theorem next_holds (valid : c.registry.Coherent) (holds : stage.Holds c.registry)
    (passes : Next c stage delivery registry later) : later.Holds registry := by
  cases passes with
  | still => exact holds
  | tells => exact holds
  | returns => exact holds
  | @ends service notice =>
    cases notice with
    | added peer => exact holds
    | _ => trivial
  | assigns live =>
    obtain ⟨node, found, _⟩ := holds
    have same := (Registry.find?_eq_some.mp found).2
    cases live.symm.trans same
    exact valid.distance_current found
  | applies _ outcome => exact onward_holds valid outcome
  | answers _ outcome => exact onward_holds valid outcome
  | _ => trivial

theorem Staged.current {child : Listener χ} {notice : Notice} (staged : Staged c stage)
    (holds : stage.Holds c.registry) (inside : .inside child notice ∈ c.stack) : notice.Current c.registry := by
  by_cases plain : notice = .closing
  · subst plain
    trivial
  · have counts : Frame.inside child notice ∈ stage.frames := by
      rw [← staged.afoot]
      refine List.mem_filter.mpr ⟨inside, ?_⟩
      cases notice <;> simp_all [Frame.role]
    cases stage with
    | told service other told waiting =>
      have same : notice = other := by
        cases other <;> simp_all [Stage.frames, Notice.sequel]
      exact same ▸ holds
    | telling _ other => cases other <;> simp [Stage.frames, Notice.sequel] at counts
    | _ => simp [Stage.frames] at counts

end Holding

-- At every moment of every callback, whoever else was told before and whatever they did.
theorem callbacks_find_current (rule : DistanceRule) (configured : Option String) (listeners : List (Listener χ))
    (writes : List Registry.Write) {moments : List (Moment χ)} {c : Coordinator χ}
    (path : Runs { fresh rule configured listeners with registry := Registry.empty.run writes } moments c)
    (mediated : Mediated moments) :
    ∀ child notice, .inside child notice ∈ c.stack → notice.Current c.registry := by
  have valid : (Registry.empty.run writes).Coherent := Registry.run_coherent Registry.empty_coherent writes
  obtain ⟨stage, staged, holds⟩ := runs_staged (fun _ c stage => stage.Holds c.registry)
    (fresh_staged rule configured listeners _) trivial
    (fun earlier _ holds _ passes => next_holds (runs_coherent valid earlier) holds passes) mediated path
  intro child notice inside
  exact staged.current holds inside

-- The first of two listeners is told of a node and at once reports another distance for it.
theorem told_of_arrival_finds_current :
    let idle : Coordinator Bool := fresh ⟨true, false⟩ (some "dc1") [.outside false, .outside true]
    ∃ moments c, Runs { idle with registry := Registry.empty.run [] } moments c ∧ Mediated moments ∧
      submitted moments = [.report ⟨1⟩ .remote] ∧ .inside (.outside true) (.added ⟨⟨1⟩, 0⟩) ∈ c.stack ∧
      (Notice.added ⟨⟨1⟩, 0⟩).Current c.registry := by
  intro idle
  let node : Descriptor := ⟨⟨1⟩, .v4 ⟨10, 0, 0, 1⟩ 9042, some "dc1", none⟩
  let moves : List (Move Bool) :=
    [.call (.start [node] []), .own, .own, .call (.submit (.report ⟨1⟩ .remote)), .call .finish, .own]
  have shown : (idle.play moves).map (fun played => (submitted played.1, played.2.stack.head?)) =
      some ([.report ⟨1⟩ .remote], some (.inside (.outside true) (.added ⟨⟨1⟩, 0⟩))) := rfl
  obtain ⟨⟨moments, c⟩, played, same⟩ := Option.map_eq_some_iff.mp shown
  obtain ⟨path, made⟩ := play_exact.mp played
  obtain ⟨sent, top⟩ := Prod.mk.inj same
  have mediated : Mediated moments := by
    rw [Mediated, made]
    decide
  have inside := List.mem_of_mem_head? top
  exact ⟨moments, c, path, mediated, sent, inside, callbacks_find_current _ _ _ [] path mediated _ _ inside⟩

end Coordinator
end ClusterRouting
