import ClusterRouting.Proofs.Plan.Rotation
import ClusterRouting.Proofs.Registry.Coherence

namespace ClusterRouting.Walk

inductive Turn where
  | pull
  | write (write : Registry.Write)

structure Pull where
  registry : Registry
  examined : List Peer
  answer : Option Peer

section Examined

def homePending (walk : Walk) : List Peer := (rotated walk.home walk.offset).drop walk.homeCursor

def remotePending (walk : Walk) : List Peer := (rotated walk.remote walk.offset).drop walk.remoteCursor

-- The members between the cursors of a walk and those of a later one, home members first.
def between (before after : Walk) : List Peer :=
  before.homePending.take (after.homeCursor - before.homeCursor) ++
    before.remotePending.take (after.remoteCursor - before.remoteCursor)

def pull (walk : Walk) (r : Registry) : Pull × Walk :=
  let (answer, after) := walk.next r
  (⟨r, walk.between after, answer⟩, after)

def consume (walk : Walk) (r : Registry) : List Turn → List Pull
  | [] => []
  | .pull :: later => (walk.pull r).1 :: (walk.pull r).2.consume r later
  | .write write :: later => walk.consume (write.apply r) later

end Examined

structure Sound (walk : Walk) : Prop where
  home : walk.homeCursor ≤ walk.home.length
  remote : walk.remoteCursor ≤ walk.remote.length

theorem ofTopology_sound (t : Topology) (offset : UInt64) (budget : Nat) : (ofTopology t offset budget).Sound :=
  ⟨Nat.zero_le _, Nat.zero_le _⟩

theorem Serves.take {passes : Peer → Bool} {order skipped : List Peer} {answer : Option Peer} {start stop : Nat}
    (serves : Serves passes (order.drop start) skipped answer (order.drop stop))
    (forward : start ≤ stop) (inside : stop ≤ order.length) :
    (order.drop start).take (stop - start) = skipped ++ answer.toList := by
  have sizes := congrArg List.length serves.order
  rw [serves.order]
  apply List.take_left'
  simp only [List.length_append, List.length_drop] at sizes ⊢
  omega

-- What one pull can do. The first two never look at the remote group.
inductive Advance (walk : Walk) (r : Registry) : List Peer → Option Peer → Walk → Prop where
  | home {skipped peer after}
      (serves : Serves r.isEligible walk.homePending skipped (some peer) after.homePending)
      (still : after.remotePending = walk.remotePending) (budget : after.budget = walk.budget) :
      Advance walk r (skipped ++ [peer]) (some peer) after
  | spent {skipped after}
      (serves : Serves r.isEligible walk.homePending skipped none after.homePending)
      (still : after.remotePending = walk.remotePending) (budget : after.budget = walk.budget)
      (empty : walk.budget = 0) : Advance walk r skipped none after
  | remote {passed skipped peer after}
      (through : Serves r.isEligible walk.homePending passed none after.homePending)
      (serves : Serves r.isEligible walk.remotePending skipped (some peer) after.remotePending)
      (budget : after.budget + 1 = walk.budget) :
      Advance walk r (passed ++ (skipped ++ [peer])) (some peer) after
  | through {passed skipped after}
      (through : Serves r.isEligible walk.homePending passed none after.homePending)
      (serves : Serves r.isEligible walk.remotePending skipped none after.remotePending)
      (budget : after.budget = walk.budget) (funded : 0 < walk.budget) :
      Advance walk r (passed ++ skipped) none after

theorem next_advance {walk after : Walk} {r : Registry} {answer : Option Peer} (sound : walk.Sound)
    (done : walk.next r = (answer, after)) : after.Sound ∧ Advance walk r (walk.between after) answer after := by
  unfold next at done
  split at done
  · rename_i peer stop first
    obtain ⟨forward, inside, skipped, serves⟩ := scan_serves sound.home first
    cases done
    refine ⟨⟨inside, sound.remote⟩, ?_⟩
    have examined := serves.take forward (by simpa using inside)
    have shape : walk.between { walk with homeCursor := stop } = skipped ++ [peer] := by
      simpa [between, homePending] using examined
    rw [shape]
    exact .home serves rfl rfl
  · rename_i stop first
    obtain ⟨forward, inside, passed, serves⟩ := scan_serves sound.home first
    have walked := serves.take forward (by simpa using inside)
    dsimp only at done
    split at done
    · rename_i empty
      cases done
      refine ⟨⟨inside, sound.remote⟩, ?_⟩
      have shape : walk.between { walk with homeCursor := stop } = passed := by
        simpa [between, homePending] using walked
      rw [shape]
      exact .spent serves rfl rfl empty
    · rename_i funded
      split at done
      · rename_i peer remoteStop second
        obtain ⟨onward, within, skipped, yields⟩ := scan_serves sound.remote second
        have examined := yields.take onward (by simpa using within)
        cases done
        refine ⟨⟨inside, within⟩, ?_⟩
        have shape : walk.between { walk with
            homeCursor := stop, remoteCursor := remoteStop, budget := walk.budget - 1 } =
            passed ++ (skipped ++ [peer]) := by
          simp only [between, homePending, remotePending, walked, examined]
          simp
        rw [shape]
        exact .remote serves yields (Nat.succ_pred_eq_of_ne_zero funded)
      · rename_i remoteStop second
        obtain ⟨onward, within, skipped, yields⟩ := scan_serves sound.remote second
        have examined := yields.take onward (by simpa using within)
        cases done
        refine ⟨⟨inside, within⟩, ?_⟩
        have shape : walk.between { walk with homeCursor := stop, remoteCursor := remoteStop } =
            passed ++ skipped := by
          simp only [between, homePending, remotePending, walked, examined]
          simp
        rw [shape]
        exact .through serves yields rfl (Nat.pos_of_ne_zero funded)

theorem pull_advance {walk : Walk} (sound : walk.Sound) (r : Registry) :
    (walk.pull r).2.Sound ∧
      Advance walk r (walk.pull r).1.examined (walk.pull r).1.answer (walk.pull r).2 :=
  next_advance sound rfl

-- Examined are skipped members, none of them eligible, and the answer behind them, which is.
def Pull.Fair (pull : Pull) : Prop :=
  ∃ skipped, pull.examined = skipped ++ pull.answer.toList ∧
    (∀ peer ∈ skipped, pull.registry.isEligible peer = false) ∧
    ∀ peer ∈ pull.answer, pull.registry.isEligible peer = true

theorem Serves.refused_both {passes : Peer → Bool} {home remote passed skipped rest left : List Peer}
    {one two : Option Peer} (first : Serves passes home passed one rest)
    (second : Serves passes remote skipped two left) :
    ∀ peer ∈ passed ++ skipped, passes peer = false := by
  intro peer member
  rcases List.mem_append.mp member with early | late
  · exact first.refused peer early
  · exact second.refused peer late

theorem Advance.fair {walk after : Walk} {r : Registry} {examined : List Peer} {answer : Option Peer}
    (advance : Advance walk r examined answer after) : Pull.Fair ⟨r, examined, answer⟩ := by
  cases advance with
  | home serves => exact ⟨_, rfl, serves.refused, serves.passed⟩
  | spent serves => exact ⟨_, (List.append_nil _).symm, serves.refused, serves.passed⟩
  | @remote passed skipped peer _ through serves =>
    exact ⟨passed ++ skipped, (List.append_assoc ..).symm, through.refused_both serves, serves.passed⟩
  | @through passed skipped _ through serves =>
    exact ⟨passed ++ skipped, (List.append_nil _).symm, through.refused_both serves, serves.passed⟩

def agenda (walk : Walk) : List Peer :=
  walk.homePending ++ if 0 < walk.budget then walk.remotePending else []

theorem Advance.agenda {walk after : Walk} {r : Registry} {examined : List Peer} {answer : Option Peer}
    (advance : Advance walk r examined answer after) : examined ++ after.agenda <+: walk.agenda := by
  cases advance with
  | home serves still budget => simp [Walk.agenda, serves.order, still, budget]
  | spent serves still budget empty =>
    simp [Walk.agenda, serves.order, serves.through rfl, budget, empty]
  | remote through serves budget =>
    have funded : 0 < walk.budget := by omega
    simp only [Walk.agenda, through.order, through.through rfl, serves.order, funded, if_true]
    split <;> simp
  | through through serves budget funded =>
    simp [Walk.agenda, through.order, through.through rfl, serves.order, serves.through rfl, funded]

def answers (pulls : List Pull) : List Peer := pulls.filterMap Pull.answer

theorem answers_cons (first : Pull) (rest : List Pull) :
    answers (first :: rest) = first.answer.toList ++ answers rest := by
  simp only [answers, List.filterMap_cons]
  cases first.answer <;> rfl

theorem consume_fair {walk : Walk} (sound : walk.Sound) (r : Registry) (turns : List Turn) :
    ∀ pull ∈ walk.consume r turns, pull.Fair := by
  induction turns generalizing walk r with
  | nil => simp [consume]
  | cons turn later ih =>
    cases turn with
    | write write => exact ih sound _
    | pull =>
      obtain ⟨after, advance⟩ := pull_advance sound r
      intro pull member
      rcases List.mem_cons.mp member with rfl | other
      · exact advance.fair
      · exact ih after _ pull other

theorem consume_agenda {walk : Walk} (sound : walk.Sound) (r : Registry) (turns : List Turn) :
    (walk.consume r turns).flatMap Pull.examined <+: walk.agenda := by
  induction turns generalizing walk r with
  | nil => exact List.nil_prefix
  | cons turn later ih =>
    cases turn with
    | write write => exact ih sound _
    | pull =>
      obtain ⟨after, advance⟩ := pull_advance sound r
      have rest := ih after r
      exact ((List.prefix_append_right_inj _).mpr rest).trans advance.agenda

theorem consume_answers {walk : Walk} (sound : walk.Sound) (r : Registry) (turns : List Turn) :
    ∃ fromHome fromRemote, answers (walk.consume r turns) = fromHome ++ fromRemote ∧
      fromHome.Sublist walk.homePending ∧ fromRemote.Sublist walk.remotePending ∧
      fromRemote.length ≤ walk.budget := by
  induction turns generalizing walk r with
  | nil => exact ⟨[], [], rfl, List.nil_sublist _, List.nil_sublist _, Nat.zero_le _⟩
  | cons turn later ih =>
    cases turn with
    | write write => exact ih sound _
    | pull =>
      obtain ⟨after, advance⟩ := pull_advance sound r
      obtain ⟨fromHome, fromRemote, all, home, remote, bounded⟩ := ih after r
      rw [consume, answers_cons, all]
      generalize (walk.pull r).1.answer = answer, (walk.pull r).1.examined = examined,
        (walk.pull r).2 = following at advance home remote bounded
      cases advance with
      | @home skipped peer _ serves still budget =>
        refine ⟨peer :: fromHome, fromRemote, rfl, ?_, still ▸ remote, budget ▸ bounded⟩
        rw [serves.order, List.append_assoc]
        exact (List.Sublist.cons_cons peer home).trans (List.sublist_append_right _ _)
      | spent serves still budget =>
        refine ⟨fromHome, fromRemote, rfl, ?_, still ▸ remote, budget ▸ bounded⟩
        rw [serves.order]
        exact home.trans (List.sublist_append_right _ _)
      | @remote passed skipped peer _ through serves budget =>
        rw [through.through rfl, List.sublist_nil] at home
        subst home
        refine ⟨[], peer :: fromRemote, rfl, List.nil_sublist _, ?_, by simp only [List.length_cons]; omega⟩
        rw [serves.order, List.append_assoc]
        exact (List.Sublist.cons_cons peer remote).trans (List.sublist_append_right _ _)
      | through through serves budget =>
        refine ⟨fromHome, fromRemote, rfl, ?_, ?_, budget ▸ bounded⟩
        · rw [through.order]
          exact home.trans (List.sublist_append_right _ _)
        · rw [serves.order]
          exact remote.trans (List.sublist_append_right _ _)

-- The member was yielded, or it was not eligible when its turn came.
def Settled (pulls : List Pull) (peer : Peer) : Prop :=
  peer ∈ answers pulls ∨ ∃ pull ∈ pulls, peer ∈ pull.examined ∧ pull.registry.isEligible peer = false

theorem Settled.later {first : Pull} {rest : List Pull} {peer : Peer} (settled : Settled rest peer) :
    Settled (first :: rest) peer := by
  rcases settled with answered | ⟨pull, member, refused⟩
  · refine .inl ?_
    simp only [answers, List.filterMap_cons]
    split
    · exact answered
    · exact List.mem_cons_of_mem _ answered
  · exact .inr ⟨pull, List.mem_cons_of_mem _ member, refused⟩

theorem Settled.answered {first : Pull} {rest : List Pull} {peer : Peer} (answer : first.answer = some peer) :
    Settled (first :: rest) peer :=
  .inl (by simp [answers, answer])

theorem Settled.refused {first : Pull} {rest : List Pull} {peer : Peer} (examined : peer ∈ first.examined)
    (failed : first.registry.isEligible peer = false) : Settled (first :: rest) peer :=
  .inr ⟨first, List.mem_cons_self, examined, failed⟩

theorem Serves.covers {passes : Peer → Bool} {pending skipped rest : List Peer} {answer : Option Peer}
    (serves : Serves passes pending skipped answer rest) {peer : Peer} (member : peer ∈ pending) :
    (peer ∈ skipped ∧ passes peer = false) ∨ answer = some peer ∨ peer ∈ rest := by
  rw [serves.order, List.mem_append, List.mem_append, Option.mem_toList] at member
  rcases member with (behind | answered) | ahead
  · exact .inl ⟨behind, serves.refused peer behind⟩
  · exact .inr (.inl answered)
  · exact .inr (.inr ahead)

section Advanced
variable {walk after : Walk} {r : Registry} {examined : List Peer} {answer : Option Peer}

theorem Advance.covers_home (advance : Advance walk r examined answer after) {peer : Peer}
    (member : peer ∈ walk.homePending) :
    (peer ∈ examined ∧ r.isEligible peer = false) ∨ answer = some peer ∨ peer ∈ after.homePending := by
  cases advance with
  | home serves => exact (serves.covers member).imp_left fun ⟨h, f⟩ => ⟨List.mem_append_left _ h, f⟩
  | spent serves => exact serves.covers member
  | remote through =>
    rcases through.covers member with ⟨behind, refused⟩ | impossible | ahead
    · exact .inl ⟨List.mem_append_left _ behind, refused⟩
    · cases impossible
    · exact .inr (.inr ahead)
  | through through => exact (through.covers member).imp_left fun ⟨h, f⟩ => ⟨List.mem_append_left _ h, f⟩

theorem Advance.covers_remote (advance : Advance walk r examined answer after) {peer : Peer}
    (member : peer ∈ walk.remotePending) :
    (peer ∈ examined ∧ r.isEligible peer = false) ∨ answer = some peer ∨ peer ∈ after.remotePending := by
  cases advance with
  | home serves still => exact .inr (.inr (still ▸ member))
  | spent serves still => exact .inr (.inr (still ▸ member))
  | remote through serves =>
    rcases serves.covers member with ⟨behind, refused⟩ | ahead
    · exact .inl ⟨List.mem_append_right _ (List.mem_append_left _ behind), refused⟩
    · exact .inr ahead
  | through through serves =>
    exact (serves.covers member).imp_left fun ⟨h, f⟩ => ⟨List.mem_append_right _ h, f⟩

-- Nothing is answered for one of two reasons: nothing is ahead, or there is no budget for it.
theorem Advance.ends (advance : Advance walk r examined none after) :
    after.homePending = [] ∧ (walk.budget = 0 ∨ after.remotePending = []) := by
  cases advance with
  | spent serves still budget empty => exact ⟨serves.through rfl, .inl empty⟩
  | through through serves => exact ⟨through.through rfl, .inr (serves.through rfl)⟩

theorem Advance.remote_subset (advance : Advance walk r examined answer after) :
    after.remotePending ⊆ walk.remotePending := by
  cases advance with
  | home serves still => exact still ▸ List.Subset.refl _
  | spent serves still => exact still ▸ List.Subset.refl _
  | remote through serves => exact serves.order ▸ List.subset_append_right _ _
  | through through serves => exact serves.order ▸ List.subset_append_right _ _

theorem Advance.pays (advance : Advance walk r examined answer after) :
    walk.budget ≤ answer.toList.countP (· ∈ walk.remotePending) + after.budget := by
  cases advance with
  | home serves still budget => omega
  | spent serves still budget => omega
  | @remote passed skipped peer _ through serves budget =>
    have member : peer ∈ walk.remotePending := by simp [serves.order]
    simp only [Option.toList_some, List.countP_singleton, member, decide_true, if_true]
    omega
  | through through serves budget => omega

end Advanced

theorem consume_settled {walk : Walk} (sound : walk.Sound) (r : Registry) (turns : List Turn)
    (ended : ∃ pull ∈ walk.consume r turns, pull.answer = none) :
    (∀ peer ∈ walk.homePending, Settled (walk.consume r turns) peer) ∧
      (walk.budget ≤ (answers (walk.consume r turns)).countP (· ∈ walk.remotePending) ∨
        ∀ peer ∈ walk.remotePending, Settled (walk.consume r turns) peer) := by
  induction turns generalizing walk r with
  | nil => simp [consume] at ended
  | cons turn later ih =>
    cases turn with
    | write write => exact ih sound _ ended
    | pull =>
      obtain ⟨after, advance⟩ := pull_advance sound r
      simp only [consume] at ended ⊢
      have read : (walk.pull r).1.registry = r := rfl
      have rest := ih after r
      generalize (walk.pull r).1 = first at advance ended read ⊢
      generalize (walk.pull r).2 = following at advance ended rest ⊢
      -- what this pull leaves ahead is settled by the later ones
      have settle : ∀ {peer : Peer} (ahead : List Peer),
          (peer ∈ ahead → Settled (following.consume r later) peer) →
          ((peer ∈ first.examined ∧ r.isEligible peer = false) ∨ first.answer = some peer ∨ peer ∈ ahead) →
          Settled (first :: following.consume r later) peer := by
        rintro peer ahead onward (⟨behind, refused⟩ | answered | pending)
        · exact .refused behind (read ▸ refused)
        · exact .answered answered
        · exact (onward pending).later
      have home : (∀ peer ∈ following.homePending, Settled (following.consume r later) peer) →
          ∀ peer ∈ walk.homePending, Settled (first :: following.consume r later) peer :=
        fun rest peer member => settle _ (rest peer) (advance.covers_home member)
      have remote : (∀ peer ∈ following.remotePending, Settled (following.consume r later) peer) →
          ∀ peer ∈ walk.remotePending, Settled (first :: following.consume r later) peer :=
        fun rest peer member => settle _ (rest peer) (advance.covers_remote member)
      cases result : first.answer with
      | none =>
        obtain ⟨homeEmpty, reason⟩ := (result ▸ advance).ends
        refine ⟨home (by simp [homeEmpty]), ?_⟩
        rcases reason with spent | remoteEmpty
        · exact .inl (spent ▸ Nat.zero_le _)
        · exact .inr (remote (by simp [remoteEmpty]))
      | some yielded =>
        have onward : ∃ pull ∈ following.consume r later, pull.answer = none := by
          obtain ⟨pull, member, none⟩ := ended
          rcases List.mem_cons.mp member with rfl | other
          · rw [result] at none; cases none
          · exact ⟨pull, other, none⟩
        obtain ⟨homeSettled, reason⟩ := rest onward
        refine ⟨home homeSettled, ?_⟩
        rcases reason with enough | remoteSettled
        · refine .inl ?_
          have paid := advance.pays
          have counted : (answers (following.consume r later)).countP (· ∈ following.remotePending) ≤
              (answers (following.consume r later)).countP (· ∈ walk.remotePending) := by
            apply List.countP_mono_left
            intro peer _ member
            simpa using advance.remote_subset (by simpa using member)
          rw [answers_cons, List.countP_append]
          omega
        · exact .inr (remote remoteSettled)

end ClusterRouting.Walk
