import ClusterRouting.Proofs.Plan.Consumption

namespace ClusterRouting.Walk

section Pulls
variable {pulls : List Pull} {peer : Peer}

theorem Settled.yielded (settled : Settled pulls peer)
    (eligible : ∀ pull ∈ pulls, pull.registry.isEligible peer = true) : peer ∈ answers pulls := by
  rcases settled with answered | ⟨pull, member, _, refused⟩
  · exact answered
  · rw [eligible pull member] at refused
    cases refused

end Pulls

section Once
variable {t : Topology} {offset : UInt64} {budget : Nat}

theorem hosts_inj (valid : t.Partitioned) {first second : Peer} (one : first ∈ t.home ++ t.remote)
    (two : second ∈ t.home ++ t.remote) (same : first.host = second.host) : first = second :=
  List.inj_on_of_nodup_map valid.walked_nodup one two same

theorem answers_hosts_nodup (valid : t.Partitioned) (home : Whole t.home.length offset)
    (remote : budget ≤ 1 ∨ Whole t.remote.length offset) (r : Registry) (turns : List Turn) :
    ((answers ((ofTopology t offset budget).consume r turns)).map Peer.host).Nodup := by
  obtain ⟨fromHome, fromRemote, all, early, late, bounded⟩ :=
    consume_answers (ofTopology_sound t offset budget) r turns
  change fromHome.Sublist (rotated t.home offset) at early
  change fromRemote.Sublist (rotated t.remote offset) at late
  have single := List.nodup_append'.mp (List.Nodup.of_map Peer.host valid.walked_nodup)
  have homeSubset : fromHome ⊆ t.home := List.Subset.trans early.subset (rotated_subset _ _)
  have remoteSubset : fromRemote ⊆ t.remote := List.Subset.trans late.subset (rotated_subset _ _)
  have homeOnce : fromHome.Nodup := ((rotated_nodup_iff single.1 offset).mpr home).sublist early
  have remoteOnce : fromRemote.Nodup := by
    rcases remote with small | whole
    · match fromRemote, bounded with
      | [], _ => exact List.nodup_nil
      | [peer], _ => exact List.nodup_singleton peer
      | _ :: _ :: _, long => simp only [List.length_cons, ofTopology] at long; omega
    · exact ((rotated_nodup_iff single.2.1 offset).mpr whole).sublist late
  rw [all]
  apply List.Nodup.map_on
  · intro first one second two same
    have inside : fromHome ++ fromRemote ⊆ t.home ++ t.remote :=
      List.append_subset.mpr ⟨List.subset_append_of_subset_left _ homeSubset,
        List.subset_append_of_subset_right _ remoteSubset⟩
    exact hosts_inj valid (inside one) (inside two) same
  · apply homeOnce.append remoteOnce
    intro peer one two
    exact single.2.2 (homeSubset one) (remoteSubset two)

end Once

section Course
variable {t : Topology} {offset : UInt64} {budget : Nat}

def course (t : Topology) (offset : UInt64) (budget : Nat) : List Peer :=
  t.home.rotate offset.toNat ++ if 0 < budget then t.remote.rotate offset.toNat else []

-- Neither group is so long that offset and cursor overflow in it.
def Fits (t : Topology) (offset : UInt64) : Prop :=
  offset.toNat + max t.home.length t.remote.length ≤ 2 ^ 64

instance (t : Topology) (offset : UInt64) : Decidable (Fits t offset) := by
  unfold Fits; infer_instance

theorem homePending_ofTopology (fits : Fits t offset) :
    (ofTopology t offset budget).homePending = t.home.rotate offset.toNat := by
  have whole : Whole t.home.length offset := .inl (by unfold Fits at fits; omega)
  simp [homePending, ofTopology, rotated_eq_rotate whole]

theorem remotePending_ofTopology (fits : Fits t offset) :
    (ofTopology t offset budget).remotePending = t.remote.rotate offset.toNat := by
  have whole : Whole t.remote.length offset := .inl (by unfold Fits at fits; omega)
  simp [remotePending, ofTopology, rotated_eq_rotate whole]

theorem agenda_ofTopology (fits : Fits t offset) :
    (ofTopology t offset budget).agenda = course t offset budget := by
  rw [agenda, homePending_ofTopology fits, remotePending_ofTopology fits]
  rfl

theorem rotations_nodup (valid : t.Partitioned) (turns : Nat) :
    (t.home.rotate turns ++ t.remote.rotate turns).Nodup := by
  have reordered : (t.home.rotate turns ++ t.remote.rotate turns).Perm (t.home ++ t.remote) :=
    (List.rotate_perm _ _).append (List.rotate_perm _ _)
  exact reordered.nodup_iff.mpr (.of_map _ valid.walked_nodup)

theorem course_nodup (valid : t.Partitioned) : (course t offset budget).Nodup := by
  refine (rotations_nodup valid offset.toNat).sublist ((List.Sublist.refl _).append ?_)
  split
  · exact List.Sublist.refl _
  · exact List.nil_sublist _

end Course

section Consumed
variable {t : Topology} {offset : UInt64} (valid : t.Partitioned) (fits : Fits t offset)
variable (r : Registry) (budget : Nat) (turns : List Turn)
include valid fits

theorem answers_split :
    ∃ fromHome fromRemote, answers ((ofTopology t offset budget).consume r turns) = fromHome ++ fromRemote ∧
      fromHome.Sublist (t.home.rotate offset.toNat) ∧ fromRemote.Sublist (t.remote.rotate offset.toNat) ∧
      (answers ((ofTopology t offset budget).consume r turns)).countP (· ∈ t.remote) = fromRemote.length ∧
      fromRemote.length ≤ budget := by
  obtain ⟨fromHome, fromRemote, all, home, remote, bounded⟩ :=
    consume_answers (ofTopology_sound t offset budget) r turns
  rw [homePending_ofTopology fits] at home
  rw [remotePending_ofTopology fits] at remote
  refine ⟨fromHome, fromRemote, all, home, remote, ?_, bounded⟩
  rw [all]
  apply valid.countP_remote
  · exact fun peer member => List.mem_rotate.mp (home.subset member)
  · exact fun peer member => List.mem_rotate.mp (remote.subset member)

theorem answers_nodup : (answers ((ofTopology t offset budget).consume r turns)).Nodup := by
  unfold Fits at fits
  have home : Whole t.home.length offset := .inl (by omega)
  have remote : Whole t.remote.length offset := .inl (by omega)
  exact .of_map Peer.host (answers_hosts_nodup valid home (.inr remote) r turns)

theorem all_settled
    (ended : ∃ pull ∈ (ofTopology t offset budget).consume r turns, pull.answer = none) :
    (∀ peer ∈ t.home, Settled ((ofTopology t offset budget).consume r turns) peer) ∧
      ((answers ((ofTopology t offset budget).consume r turns)).countP (· ∈ t.remote) = budget ∨
        ∀ peer ∈ t.remote, Settled ((ofTopology t offset budget).consume r turns) peer) := by
  obtain ⟨home, remote⟩ := consume_settled (ofTopology_sound t offset budget) r turns ended
  rw [homePending_ofTopology fits] at home
  rw [remotePending_ofTopology fits] at remote
  refine ⟨fun peer member => home peer (List.mem_rotate.mpr member), ?_⟩
  rcases remote with enough | settled
  · obtain ⟨_, _, _, _, _, counted, bounded⟩ := answers_split valid fits r budget turns
    simp only [List.mem_rotate] at enough
    refine .inl (Nat.le_antisymm ?_ enough)
    omega
  · exact .inr fun peer member => settled peer (List.mem_rotate.mpr member)

end Consumed

-- What the writes of the turns do in between is left to them entirely.
theorem consumption_follows_course (writes : List Registry.Write) (offset : UInt64) (budget : Nat)
    (turns : List Turn) (fits : Fits (Registry.empty.run writes).topology offset) :
    let r := Registry.empty.run writes
    let t := r.topology
    let pulls := (ofTopology t offset budget).consume r turns
    (course t offset budget).Nodup ∧ pulls.flatMap Pull.examined <+: course t offset budget ∧
      (∀ pull ∈ pulls, pull.Fair) ∧
      ((∃ pull ∈ pulls, pull.answer = none) →
        (∀ peer ∈ t.home, Settled pulls peer) ∧
        ((answers pulls).countP (· ∈ t.remote) = budget ∨ ∀ peer ∈ t.remote, Settled pulls peer) ∧
        (∀ peer ∈ t.home, (∀ pull ∈ pulls, pull.registry.isEligible peer = true) →
          (answers pulls).count peer = 1) ∧
        (t.remote.length ≤ budget →
          ∀ peer ∈ t.remote, (∀ pull ∈ pulls, pull.registry.isEligible peer = true) →
            (answers pulls).count peer = 1)) := by
  intro r t pulls
  have valid : t.Partitioned := (Registry.run_coherent Registry.empty_coherent writes).partitioned
  have sound := ofTopology_sound t offset budget
  have once : (answers pulls).Nodup := answers_nodup valid fits r budget turns
  refine ⟨course_nodup valid, ?_, consume_fair sound r turns, ?_⟩
  · rw [← agenda_ofTopology fits]
    exact consume_agenda sound r turns
  · intro ended
    obtain ⟨home, remote⟩ := all_settled valid fits r budget turns ended
    refine ⟨home, remote, ?_, ?_⟩
    · intro peer member eligible
      exact List.count_eq_one_of_mem once ((home peer member).yielded eligible)
    · intro funded peer member eligible
      apply List.count_eq_one_of_mem once
      rcases remote with spent | settled
      -- as many answers from the remote group as it has members
      · obtain ⟨fromHome, fromRemote, all, _, sublist, counted, _⟩ := answers_split valid fits r budget turns
        have whole : fromRemote = t.remote.rotate offset.toNat := by
          apply sublist.eq_of_length_le
          rw [List.length_rotate]
          omega
        have answered : answers pulls = fromHome ++ fromRemote := all
        rw [answered, whole]
        exact List.mem_append_right _ (List.mem_rotate.mpr member)
      · exact (settled peer member).yielded eligible

-- Three hosts of which nothing but the distances matters.
def trio (first second third : Distance) : Registry :=
  let arrival (host : BitVec 128) (distance : Distance) : Registry.Write :=
    .upsert ⟨⟨host⟩, .v4 ⟨10, 0, 0, 1⟩ 9042, none, none⟩ ⟨[], .ok distance⟩
  Registry.empty.run [arrival 0 first, arrival 1 second, arrival 2 third]

theorem trio_consumed_from_seven :
    Fits (trio .home .remote .home).topology 7 ∧
      ((ofTopology (trio .home .remote .home).topology 7 1).consume (trio .home .remote .home)
        [.pull, .write (.remove ⟨0⟩), .pull, .pull]).flatMap Pull.examined <+:
          [⟨⟨2⟩, 2⟩, ⟨⟨0⟩, 0⟩, ⟨⟨1⟩, 1⟩] := by
  have fits : Fits (trio .home .remote .home).topology 7 := by decide
  have order : course (trio .home .remote .home).topology 7 1 = [⟨⟨2⟩, 2⟩, ⟨⟨0⟩, 0⟩, ⟨⟨1⟩, 1⟩] := by decide
  refine ⟨fits, ?_⟩
  rw [← order]
  exact (consumption_follows_course _ 7 1 _ fits).2.1

end ClusterRouting.Walk
