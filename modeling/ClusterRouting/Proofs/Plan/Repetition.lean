import ClusterRouting.Proofs.Plan.Course

namespace ClusterRouting.Walk

section Still
variable {walk : Walk} {r : Registry}

theorem Serves.filter {passes : Peer → Bool} {pending skipped rest : List Peer} {answer : Option Peer}
    (serves : Serves passes pending skipped answer rest) :
    pending.filter passes = answer.toList ++ rest.filter passes := by
  have gone : skipped.filter passes = [] := by
    apply List.filter_eq_nil_iff.mpr
    intro peer member
    simp [serves.refused peer member]
  have kept : answer.toList.filter passes = answer.toList := by
    apply List.filter_eq_self.mpr
    intro peer member
    exact serves.passed peer (Option.mem_toList.mp member)
  rw [serves.order, List.filter_append, List.filter_append, gone, kept, List.nil_append]

-- While nothing is written, the eligible members come one after another.
def stillAnswers (walk : Walk) (r : Registry) : List Peer :=
  walk.homePending.filter r.isEligible ++ (walk.remotePending.filter r.isEligible).take walk.budget

theorem Advance.still {after : Walk} {examined : List Peer} {answer : Option Peer}
    (advance : Advance walk r examined answer after) :
    walk.stillAnswers r = answer.toList ++ after.stillAnswers r := by
  cases advance with
  | home serves still budget => simp [stillAnswers, serves.filter, still, budget]
  | spent serves still budget empty => simp [stillAnswers, serves.filter, budget, empty]
  | remote through serves budget =>
    simp [stillAnswers, through.filter, through.through rfl, serves.filter, ← budget]
  | through through serves budget =>
    simp [stillAnswers, through.filter, through.through rfl, serves.filter, serves.through rfl]

theorem Advance.still_ended {after : Walk} {examined : List Peer}
    (advance : Advance walk r examined none after) : after.stillAnswers r = [] := by
  cases advance with
  | spent serves still budget empty => simp [stillAnswers, serves.through rfl, budget, empty]
  | through through serves => simp [stillAnswers, through.through rfl, serves.through rfl]

theorem consume_still (sound : walk.Sound) (r : Registry) (count : Nat) :
    answers (walk.consume r (List.replicate count .pull)) = (walk.stillAnswers r).take count := by
  induction count generalizing walk with
  | zero => rfl
  | succ count ih =>
    obtain ⟨after, advance⟩ := pull_advance sound r
    rw [List.replicate_succ, consume, answers_cons, ih after, advance.still]
    cases result : (walk.pull r).1.answer with
    | none =>
      rw [result] at advance
      simp [advance.still_ended]
    | some peer => rfl

end Still

theorem consume_writes (walk : Walk) (r : Registry) (writes : List Registry.Write) (later : List Turn) :
    walk.consume r (writes.map .write ++ later) = walk.consume (r.run writes) later := by
  induction writes generalizing r with
  | nil => rfl
  | cons write rest ih => exact ih (write.apply r)

section Favour
variable {r : Registry} {peer : Peer}

def favour (peer : Peer) (host : HostId) : Health := if host = peer.host then .up else .down

def favours (r : Registry) (peer : Peer) : List Registry.Write :=
  r.topology.hosts.map fun host => .setHealth host (favour peer host)

theorem isEligible_favours (valid : r.Coherent) (member : peer ∈ r.topology.home ++ r.topology.remote)
    {other : Peer} (walked : other ∈ r.topology.home ++ r.topology.remote) :
    (r.run (favours r peer)).isEligible other = decide (other = peer) := by
  obtain ⟨distance, tried, entered⟩ : ∃ d, d ≠ .ignored ∧ (⟨other, d⟩ : Entry) ∈ r.topology.entries := by
    rcases List.mem_append.mp walked with home | remote
    · exact ⟨.home, by decide, (valid.partitioned.mem_group .home other).mp home⟩
    · exact ⟨.remote, by decide, (valid.partitioned.mem_group .remote other).mp remote⟩
  obtain ⟨node, live, shown, health⟩ := (Registry.run_healths valid (favour peer) r.topology.hosts).2
    _ entered (List.mem_map_of_mem entered)
  have same : other.host = peer.host ↔ other = peer :=
    ⟨hosts_inj valid.partitioned walked member, fun equal => congrArg Peer.host equal⟩
  have near : (node.distance != .ignored) = true := by
    rw [shown.distance]
    simpa using tried
  have read : (r.run (favours r peer)).isEligible other = node.isEligible := by
    rw [Registry.isEligible, favours, live]
    rfl
  rw [read, Node.isEligible, shown.present, near, health]
  by_cases equal : other = peer
  · simp [favour, equal, Health.isEligible]
  · simp [favour, same, equal, Health.isEligible]

theorem stillAnswers_favours (valid : r.Coherent) (offset : UInt64) (budget : Nat)
    (member : peer ∈ r.topology.home ++ r.topology.remote) :
    (ofTopology r.topology offset budget).stillAnswers (r.run (favours r peer)) =
      List.replicate ((rotated r.topology.home offset).count peer +
        min budget ((rotated r.topology.remote offset).count peer)) peer := by
  have only : ∀ group ⊆ r.topology.home ++ r.topology.remote,
      (rotated group offset).filter (r.run (favours r peer)).isEligible =
        List.replicate ((rotated group offset).count peer) peer := by
    intro group inside
    rw [← List.filter_eq]
    apply List.filter_congr
    intro other present
    exact isEligible_favours valid member (inside (rotated_subset group offset present))
  change (rotated r.topology.home offset).filter _ ++ ((rotated r.topology.remote offset).filter _).take budget = _
  rw [only _ (List.subset_append_left _ _), only _ (List.subset_append_right _ _), List.take_replicate,
    List.replicate_append_replicate]

end Favour

-- The walk is taken as soon as the history has come to an end; what is written later is among the turns.
theorem answers_once_iff (writes : List Registry.Write) (offset : UInt64) (budget : Nat) :
    let r := Registry.empty.run writes
    (∀ turns, ((answers ((ofTopology r.topology offset budget).consume r turns)).map Peer.host).Nodup) ↔
      Whole r.topology.home.length offset ∧ (budget ≤ 1 ∨ Whole r.topology.remote.length offset) := by
  intro r
  have valid : r.Coherent := Registry.run_coherent Registry.empty_coherent writes
  have single := List.nodup_append'.mp (List.Nodup.of_map Peer.host valid.partitioned.walked_nodup)
  constructor
  · intro always
    have rare : ∀ peer ∈ r.topology.home ++ r.topology.remote,
        (rotated r.topology.home offset).count peer + min budget ((rotated r.topology.remote offset).count peer) ≤ 1 := by
      intro peer member
      have once := always ((favours r peer).map .write ++ List.replicate 2 .pull)
      rw [consume_writes, consume_still (ofTopology_sound r.topology offset budget),
        stillAnswers_favours valid offset budget member, List.take_replicate, List.map_replicate,
        List.nodup_replicate] at once
      omega
    have whole : ∀ {group : List Peer}, group.Nodup →
        (∀ peer ∈ group, (rotated group offset).count peer ≤ 1) → Whole group.length offset := by
      intro group nodup bounded
      refine (rotated_nodup_iff nodup offset).mp (List.nodup_iff_count_le_one.mpr ?_)
      intro peer
      by_cases member : peer ∈ group
      · exact bounded peer member
      · rw [List.count_eq_zero.mpr fun present => member (rotated_subset group offset present)]
        exact Nat.zero_le 1
    refine ⟨whole single.1 ?_, ?_⟩
    · intro peer member
      have := rare peer (List.mem_append_left _ member)
      omega
    · by_cases small : budget ≤ 1
      · exact .inl small
      · refine .inr (whole single.2.1 ?_)
        intro peer member
        have := rare peer (List.mem_append_right _ member)
        omega
  · rintro ⟨home, remote⟩ turns
    exact answers_hosts_nodup valid.partitioned home remote r turns

-- The second pull comes to the host of the first again, with two others waiting.
theorem trio_repeats_at_last_offset :
    ¬ ((answers ((ofTopology (trio .home .home .home).topology (.ofNat (2 ^ 64 - 1)) 0).consume
      (trio .home .home .home) [.pull, .pull])).map Peer.host).Nodup := by
  decide +kernel

end ClusterRouting.Walk
