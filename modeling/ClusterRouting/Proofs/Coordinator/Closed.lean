import ClusterRouting.Proofs.Coordinator.Order
import ClusterRouting.Proofs.Coordinator.Stages

namespace ClusterRouting

def Job.unwritten : Job → List HostId
  | populating _ left => left.map Descriptor.host
  | evaluating _ purpose d => [purpose.subject d]
  | draining | assigning _ => []

namespace Frame
variable {χ : Type}

def unwritten : Frame (Listener χ) Notice Job → List HostId
  | work job => job.unwritten
  | round .. | inside .. => []

-- The hosts that somebody is still to hear of.
def untold : Frame (Listener χ) Notice Job → List HostId
  | round notice (_ :: _) => (notice.peer?.map Peer.host).toList
  | work (.assigning peer) => [peer.host]
  | work job => job.unwritten
  | round _ [] | inside .. => []

end Frame

namespace Coordinator
variable {χ : Type}

def unwritten (c : Coordinator χ) : List HostId := c.stack.flatMap Frame.unwritten

def untold (c : Coordinator χ) : List HostId := c.stack.flatMap Frame.untold

def Touches (c : Coordinator χ) (host : HostId) (next : Coordinator χ) : Prop :=
  ∃ registry log notice,
    next = { c with registry := registry, log := log, stack := told c.listeners notice ++ c.stack } ∧
      (∀ other, other ≠ host → registry.find? other = c.registry.find? other) ∧
      ∀ said, notice = some said → said.peer?.map Peer.host = some host

section Touching
variable {c next : Coordinator χ} {host : HostId}

theorem Results.touches (valid : c.registry.Coherent) (results : Results c host next) : Touches c host next := by
  obtain ⟨registry, log, notice, rfl, outcome⟩ := results
  refine ⟨registry, log, notice, rfl, fun other differ => outcome.others valid differ, ?_⟩
  rintro said rfl
  exact outcome.named valid

theorem assign_touches (valid : c.registry.Coherent) (peer : Peer) (distance : Distance) :
    Touches c peer.host (c.assign peer distance) := by
  unfold assign Registry.setDistance
  cases found : c.registry.topology.entry? peer.host with
  | none => exact (note_results c _ _).touches valid
  | some known =>
    by_cases same : known.distance = distance
    · simpa [same] using (kept_results c peer.host).touches valid
    · simp only [same, if_false]
      obtain ⟨node, shown⟩ := valid.find?_of_peer? (Registry.peer?_of_entered found)
      refine ⟨c.registry.place known.peer distance, _, some (.distanceChanged peer distance), rfl, ?_, ?_⟩
      · intro other differ
        rw [Registry.find?_place valid shown, if_neg differ]
      · rintro _ ⟨⟩
        rfl

theorem Answered.touches {purpose : Purpose} {d : Descriptor} (answered : Answered c purpose d next)
    (valid : c.registry.Coherent) : Touches c (purpose.subject d) next := by
  cases answered with
  | @assigned peer _ distance => exact assign_touches valid peer distance
  | failed record => exact (note_results c _ record).touches valid
  | adopted decided subject =>
    rw [subject]
    exact (adopt_results c purpose d decided).touches valid

theorem flatMap_told_unwritten (listeners : List (Listener χ)) (notice : Option Notice) :
    (told listeners notice).flatMap Frame.unwritten = [] := by
  cases notice with
  | none => rfl
  | some notice => cases notice <;> rfl

theorem flatMap_told_untold {listeners : List (Listener χ)} {notice : Option Notice}
    (named : ∀ said, notice = some said → said.peer?.map Peer.host = some host) :
    (told listeners notice).flatMap Frame.untold ⊆ [host] := by
  cases notice with
  | none => simp [told]
  | some notice =>
    have subject := named notice rfl
    have round : (Frame.round notice listeners : Frame (Listener χ) Notice Job).untold ⊆ [host] := by
      cases listeners <;> simp [Frame.untold, subject]
    have sequel : (notice.sequel : List (Frame (Listener χ) Notice Job)).flatMap Frame.untold ⊆ [host] := by
      cases notice <;> simp_all [Notice.sequel, Frame.untold, Notice.peer?]
    exact List.append_subset.mpr ⟨round, sequel⟩

end Touching

inductive Winds (c next : Coordinator χ) : Prop where
  | still (left : next.unwritten = c.unwritten) (same : next.registry = c.registry)
  | writes {host} (left : c.unwritten = host :: next.unwritten)
      (others : ∀ other, other ≠ host → next.registry.find? other = c.registry.find? other)

section Winding
variable {c next inner : Coordinator χ} {host : HostId} {move : Move χ}

theorem Touches.winds (touches : Touches inner host next) (same : inner.registry = c.registry)
    (left : c.unwritten = host :: inner.unwritten) : Winds c next := by
  obtain ⟨registry, log, notice, rfl, others, _⟩ := touches
  refine .writes (left.trans ?_) (same ▸ others)
  simp only [unwritten, List.flatMap_append, flatMap_told_unwritten, List.nil_append]

theorem Touches.untold_subset (touches : Touches inner host next) : next.untold ⊆ host :: inner.untold := by
  obtain ⟨registry, log, notice, rfl, _, named⟩ := touches
  have news : (told inner.listeners notice).flatMap Frame.untold ⊆ [host] := flatMap_told_untold named
  simp only [untold, List.flatMap_append]
  refine List.append_subset.mpr ⟨?_, List.subset_cons_self _ _⟩
  exact List.Subset.trans news (by simp)

theorem Applied.winds (valid : inner.registry.Coherent) (applied : Applied inner host next)
    (same : inner.registry = c.registry) (left : c.unwritten = host :: inner.unwritten) : Winds c next := by
  cases applied with
  | done results => exact (results.touches valid).winds same left
  | asked subject =>
    refine .still ?_ same
    rw [left, ← subject]
    rfl

theorem Applied.untold_subset (valid : inner.registry.Coherent) (applied : Applied inner host next) :
    next.untold ⊆ host :: inner.untold := by
  cases applied with
  | done results => exact (results.touches valid).untold_subset
  | asked subject =>
    rw [← subject]
    exact List.Subset.refl _

theorem advance_winds (valid : c.registry.Coherent) (closed : c.lifecycle = .closed) (advance : Advance c move next)
    (mediated : move.direct = false) : Winds c next := by
  cases advance with
  | tells top => exact .still (by simp [unwritten, top, Frame.unwritten]) rfl
  | finishes top => exact .still (by simp [unwritten, top, Frame.unwritten]) rfl
  | observes top => exact .still (by simp [unwritten, top, Frame.unwritten]) rfl
  | returns _ top => exact .still (by simp [unwritten, top, Frame.unwritten]) rfl
  | assigns top => exact .still (by simp [unwritten, top, Frame.unwritten, Job.unwritten]) rfl
  | misses top => exact .still (by simp [unwritten, top, Frame.unwritten, Job.unwritten]) rfl
  | @records datacenter d left rest top =>
    let opened : Coordinator χ := { c with stack := .work (.populating datacenter left) :: rest }
    have before : c.unwritten = d.host :: opened.unwritten := by
      simp [unwritten, top, opened, Frame.unwritten, Job.unwritten]
    have known : opened.registry.Coherent := valid
    exact (initial_applied opened datacenter d).winds known rfl before
  | readies _ starting => simp [closed] at starting
  | abandons top => exact .still (by simp [unwritten, top, Frame.unwritten, Job.unwritten]) rfl
  | applies _ _ ready => simp [closed] at ready
  | drops => exact .still rfl rfl
  | drains top => exact .still (by simp [unwritten, top, Frame.unwritten, Job.unwritten]) rfl
  | answers _ top answered =>
    have touches := (evaluated_answered answered top).touches valid
    exact touches.winds rfl (by simp [unwritten, top, Frame.unwritten, Job.unwritten])
  | queues => exact .still rfl rfl
  | takes => exact .still rfl rfl
  | registers => exact .still rfl rfl
  | closes opened => exact absurd closed opened
  | stays => exact .still rfl rfl
  | refuses => exact .still rfl rfl
  | fails _ _ created => simp [closed] at created
  | starts _ created => simp [closed] at created
  | writes direct => cases direct.symm.trans mediated

-- Nobody is told of a further host, also when others write past the coordinator.
theorem advance_untold (valid : c.registry.Coherent) (closed : c.lifecycle = .closed) (advance : Advance c move next) :
    next.untold ⊆ c.untold := by
  cases advance with
  | @tells notice child later rest top => cases later <;> simp [untold, top, Frame.untold]
  | finishes top => simp [untold, top, Frame.untold]
  | observes top => simp [untold, top, Frame.untold]
  | returns _ top => simp [untold, top, Frame.untold]
  | assigns top =>
    simp only [untold, top, List.flatMap_cons]
    refine List.append_subset.mpr ⟨?_, List.subset_append_right _ _⟩
    cases c.listeners <;> simp [Frame.untold, Notice.peer?]
  | misses top => simp [untold, top]
  | @records datacenter d left rest top =>
    let opened : Coordinator χ := { c with stack := .work (.populating datacenter left) :: rest }
    have before : c.untold = d.host :: opened.untold := by
      simp [untold, top, opened, Frame.untold, Job.unwritten]
    rw [before]
    exact (initial_applied opened datacenter d).untold_subset valid
  | readies _ starting => simp [closed] at starting
  | abandons top => simp [untold, top]
  | applies _ _ ready => simp [closed] at ready
  | drains top => simp [untold, top]
  | @answers _ verdict datacenter purpose d rest _ _ top answered =>
    have before : c.untold = purpose.subject d :: untold { c with stack := rest } := by
      simp [untold, top, Frame.untold, Job.unwritten]
    rw [before]
    exact ((evaluated_answered answered top).touches valid).untold_subset
  | closes opened => exact absurd closed opened
  | fails _ _ created => simp [closed] at created
  | starts _ created => simp [closed] at created
  | takes => simp [untold, Frame.untold, Job.unwritten]
  | _ => exact List.Subset.refl _

end Winding

section Runs
variable {c next : Coordinator χ} {later : List (Moment χ)} {moment : Moment χ}

theorem runs_closed (closed : c.lifecycle = .closed) (path : Runs c later next) : next.lifecycle = .closed := by
  induction path with
  | nil => exact closed
  | step _ step ih => exact (advance_keeps (step_advance step)).closed ih

theorem runs_untold (valid : c.registry.Coherent) (closed : c.lifecycle = .closed) (path : Runs c later next) :
    next.untold ⊆ c.untold := by
  induction path with
  | nil => exact List.Subset.refl _
  | step path step ih =>
    have onward := advance_untold (runs_coherent valid path) (runs_closed closed path) (step_advance step)
    exact List.Subset.trans onward ih

theorem runs_wind (valid : c.registry.Coherent) (closed : c.lifecycle = .closed) (path : Runs c later next)
    (mediated : Mediated later) :
    ∃ written, c.unwritten = written ++ next.unwritten ∧
      (∀ host ∉ written, next.registry.find? host = c.registry.find? host) ∧
      (written = [] → next.registry = c.registry) := by
  induction path with
  | nil => exact ⟨[], rfl, fun _ _ => rfl, fun _ => rfl⟩
  | @step moments middle move next path step ih =>
    obtain ⟨earlier, last⟩ := mediated.append
    obtain ⟨written, left, others, none⟩ := ih earlier
    cases advance_winds (runs_coherent valid path) (runs_closed closed path) (step_advance step)
      (last _ List.mem_cons_self) with
    | still onward same =>
      rw [← same] at others none
      exact ⟨written, onward ▸ left, others, none⟩
    | @writes host onward apart =>
      refine ⟨written ++ [host], by simp [left, onward], ?_, by simp⟩
      intro other absent
      simp only [List.mem_append, List.mem_singleton, not_or] at absent
      exact (apart other absent.2).trans (others other absent.1)

theorem Moment.news_untold {child : Listener χ} {notice : Notice} (news : moment.news = some (child, notice)) :
    ∃ host ∈ moment.before.untold, notice.peer?.map Peer.host = some host := by
  obtain ⟨told, plain⟩ := Option.filter_eq_some_iff.mp news
  obtain ⟨others, rest, top⟩ := Moment.told_top told
  cases named : notice.peer? with
  | none => cases notice <;> simp [Notice.peer?] at named plain
  | some peer => exact ⟨peer.host, by simp [untold, top, Frame.untold, named], rfl⟩

theorem Moment.leaves_closed {command : Command} (leaves : moment.traffic = .leaves command)
    (closed : moment.before.lifecycle = .closed) :
    moment.before.step? = some (note { moment.before with queue := moment.before.queue.tail }
      (.commandAfterClose command.kind command.host)) := by
  obtain ⟨rest, others, top, waiting⟩ := Moment.leaves leaves
  simp [step?, top, waiting, dispatch, closed]

end Runs

theorem unwritten_subset_untold (c : Coordinator χ) : c.unwritten ⊆ c.untold := by
  intro host member
  obtain ⟨frame, held, written⟩ := List.mem_flatMap.mp member
  refine List.mem_flatMap.mpr ⟨frame, held, ?_⟩
  cases frame with
  | work job => cases job <;> simp_all [Frame.unwritten, Frame.untold, Job.unwritten]
  | _ => cases written

-- Closed is not quiet: a listener that closes while the initial nodes are recorded is told of the others.
theorem closing_listener_hears_more :
    ¬ ∀ (listeners : List (Listener Unit)) (earlier later : List (Moment Unit)) (c next : Coordinator Unit),
      Runs (fresh ⟨true, false⟩ (some "dc1") listeners) earlier c → c.lifecycle = .closed → Runs c later next →
        Mediated (earlier ++ later) → next.registry = c.registry ∧ ∀ moment ∈ later, moment.news = none := by
  intro quiet
  let nodes : List Descriptor :=
    [⟨⟨1⟩, .v4 ⟨10, 0, 0, 1⟩ 9042, some "dc1", none⟩, ⟨⟨2⟩, .v4 ⟨10, 0, 0, 2⟩ 9042, some "dc1", none⟩]
  let idle : Coordinator Unit := fresh ⟨true, false⟩ (some "dc1") [.outside ()]
  -- up to the close in the callback, and from there to the arrival of the second node
  let opening : List (Move Unit) := [.call (.start nodes []), .own, .own, .call .close]
  let rest : List (Move Unit) :=
    [.own, .call .finish, .own, .call .finish, .own, .own, .own, .call .finish, .own, .own]
  have shown : ((idle.play opening).bind fun first => (first.2.play rest).map fun second =>
      (first.2.lifecycle, first.2.registry.size, second.2.registry.size)) = some (.closed, 1, 2) := rfl
  obtain ⟨⟨earlier, c⟩, opened, continued⟩ := Option.bind_eq_some_iff.mp shown
  obtain ⟨⟨later, next⟩, closed, sizes⟩ := Option.map_eq_some_iff.mp continued
  obtain ⟨before, calls⟩ := play_exact.mp opened
  obtain ⟨after, others⟩ := play_exact.mp closed
  simp only [Prod.mk.injEq] at sizes
  obtain ⟨ended, one, two⟩ := sizes
  have mediated : Mediated (earlier ++ later) := by
    rw [Mediated, List.map_append, calls, others]
    decide
  have same := (quiet _ earlier later c next before ended after mediated).1
  rw [same, one] at two
  cases two

-- The coordinator may be closed at any moment, and others may have written past it before.
theorem closed_finishes_only (rule : DistanceRule) (configured : Option String) (listeners : List (Listener χ))
    (writes : List Registry.Write) {earlier later : List (Moment χ)} {c next : Coordinator χ}
    (reached : Runs { fresh rule configured listeners with registry := Registry.empty.run writes } earlier c)
    (closed : c.lifecycle = .closed) (path : Runs c later next) :
    next.lifecycle = .closed ∧
      (Mediated later → ∃ written, c.unwritten = written ++ next.unwritten ∧
        (∀ host ∉ written, next.registry.find? host = c.registry.find? host) ∧
        (written = [] → next.registry = c.registry)) ∧
      (∀ moment ∈ later, ∀ child notice, moment.news = some (child, notice) →
        ∃ host ∈ c.untold, notice.peer?.map Peer.host = some host) ∧
      (∀ moment ∈ later, ∀ command, moment.traffic = .leaves command →
        moment.before.step? = some (note { moment.before with queue := moment.before.queue.tail }
          (.commandAfterClose command.kind command.host))) ∧
      (c.untold = [] → (Mediated later → next.registry = c.registry) ∧ ∀ moment ∈ later, moment.news = none) := by
  have valid : c.registry.Coherent :=
    runs_coherent (Registry.run_coherent Registry.empty_coherent writes) reached
  have about : ∀ moment ∈ later, ∀ child notice, moment.news = some (child, notice) →
      ∃ host ∈ c.untold, notice.peer?.map Peer.host = some host := by
    intro moment member child notice news
    obtain ⟨_, _, before, _⟩ := path.visits member
    obtain ⟨host, untold, named⟩ := Moment.news_untold news
    exact ⟨host, runs_untold valid closed before untold, named⟩
  refine ⟨runs_closed closed path, runs_wind valid closed path, about, ?_, ?_⟩
  · intro moment member command leaves
    obtain ⟨_, _, before, _⟩ := path.visits member
    exact Moment.leaves_closed leaves (runs_closed closed before)
  · intro rest
    constructor
    · intro mediated
      obtain ⟨written, left, _, same⟩ := runs_wind valid closed path mediated
      have nothing : c.unwritten = [] := List.eq_nil_of_subset_nil (rest ▸ unwritten_subset_untold c)
      rw [nothing] at left
      exact same (List.append_eq_nil_iff.mp left.symm).1
    · intro moment member
      cases news : moment.news with
      | none => rfl
      | some delivery =>
        obtain ⟨host, untold, _⟩ := about moment member _ _ news
        rw [rest] at untold
        cases untold

-- The evaluator closes while it is asked about the only node; a command that comes then is dropped.
theorem close_of_evaluator_finishes_only :
    let idle : Coordinator Unit := fresh ⟨true, true⟩ (some "dc1") [.outside ()]
    ∃ earlier c later next, Runs { idle with registry := Registry.empty.run [] } earlier c ∧ c.lifecycle = .closed ∧
      Runs c later next ∧ Mediated later ∧ c.unwritten = [⟨1⟩] ∧ next.unwritten = [] ∧
      next.registry.distance? ⟨1⟩ = some .remote ∧
      ∀ host ∉ [(⟨1⟩ : HostId)], next.registry.find? host = c.registry.find? host := by
  intro idle
  let node : Descriptor := ⟨⟨1⟩, .v4 ⟨10, 0, 0, 1⟩ 9042, some "dc1", none⟩
  let opening : List (Move Unit) := [.call (.start [node] []), .own, .call .close]
  let rest : List (Move Unit) :=
    [.own, .call (.submit (.event (.up ⟨1⟩))), .call .finish, .own, .call (.answer (.ok (some .remote)))]
  have shown : ((idle.play opening).bind fun first => (first.2.play rest).map fun second =>
      (first.2.lifecycle, first.2.unwritten, second.2.unwritten, second.2.registry.distance? ⟨1⟩)) =
        some (.closed, [⟨1⟩], [], some .remote) := rfl
  obtain ⟨⟨earlier, c⟩, opened, continued⟩ := Option.bind_eq_some_iff.mp shown
  obtain ⟨⟨later, next⟩, closed, facts⟩ := Option.map_eq_some_iff.mp continued
  obtain ⟨before, _⟩ := play_exact.mp opened
  obtain ⟨after, others⟩ := play_exact.mp closed
  simp only [Prod.mk.injEq] at facts
  obtain ⟨ended, one, none, placed⟩ := facts
  have mediated : Mediated later := by
    rw [Mediated, others]
    decide
  obtain ⟨written, left, untouched, _⟩ :=
    (closed_finishes_only ⟨true, true⟩ (some "dc1") _ [] before ended after).2.1 mediated
  have all : written = [⟨1⟩] := by simpa [one, none] using left.symm
  exact ⟨earlier, c, later, next, before, ended, after, mediated, one, none, placed, all ▸ untouched⟩

end Coordinator
end ClusterRouting
