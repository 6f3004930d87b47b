import ClusterRouting.Proofs.Registry.History
import ClusterRouting.Proofs.Registry.Partition
import Mathlib.Data.List.Induction

namespace ClusterRouting

-- What a live record has to show while its entry stands.
structure Entry.Shown (e : Entry) (node : Node) : Prop where
  host : node.descriptor.host = e.peer.host
  distance : node.distance = e.distance
  present : node.removed = false

namespace Registry

structure Coherent (r : Registry) : Prop where
  partitioned : r.topology.Partitioned
  shown : ∀ e ∈ r.topology.entries, ∃ node, r.node? e.peer = some node ∧ e.Shown node

theorem empty_coherent : Coherent .empty :=
  ⟨Topology.empty_partitioned, by simp [empty, Topology.empty]⟩

theorem node?_amend (r : Registry) (peer other : Peer) (change : Node → Node) :
    (r.amend peer change).node? other =
      if peer.serial = other.serial then (r.node? other).map change else r.node? other := by
  simp [node?, amend, Array.getElem?_modify]

section Known
variable {r : Registry} {host : HostId} {peer : Peer}

theorem entry?_of_peer? (found : r.peer? host = some peer) :
    ∃ known, r.topology.entry? host = some known ∧ known.peer = peer :=
  Option.map_eq_some_iff.mp found

theorem Coherent.entry?_of_unknown (valid : r.Coherent) (unknown : r.find? host = none) :
    r.topology.entry? host = none := by
  cases found : r.topology.entry? host with
  | none => rfl
  | some known =>
    obtain ⟨node, live, _⟩ := valid.shown known (Topology.mem_of_found found)
    simp [find?, peer?_of_entered found, live] at unknown

-- Two entries never share a record: the descriptor in it names only one host.
theorem Coherent.serial_unique (valid : r.Coherent) {first second : Entry}
    (one : first ∈ r.topology.entries) (two : second ∈ r.topology.entries)
    (same : first.peer.serial = second.peer.serial) : first = second := by
  obtain ⟨node, live, shown⟩ := valid.shown first one
  obtain ⟨other, alive, seen⟩ := valid.shown second two
  have equal : node = other := by
    simp only [node?, same] at live alive
    exact Option.some.inj (live.symm.trans alive)
  subst equal
  exact valid.partitioned.entry_unique one two (shown.host.symm.trans seen.host)

end Known

-- A record may change as long as it goes on to show what its entry says.
theorem amend_coherent {r : Registry} (valid : r.Coherent) {known : Entry}
    (member : known ∈ r.topology.entries) {change : Node → Node}
    (keeps : ∀ node, known.Shown node → known.Shown (change node)) :
    (r.amend known.peer change).Coherent := by
  refine ⟨valid.partitioned, ?_⟩
  intro e present
  obtain ⟨node, live, shown⟩ := valid.shown e present
  rw [node?_amend]
  by_cases same : known.peer.serial = e.peer.serial
  · have equal := valid.serial_unique member present same
    subst equal
    exact ⟨change node, by simp [live], keeps node shown⟩
  · exact ⟨node, by simp [same, live], shown⟩

theorem enter_coherent {r : Registry} (valid : r.Coherent) {d : Descriptor} {distance : Distance}
    (unknown : r.find? d.host = none) : (r.enter d distance).2.Coherent := by
  have absent := valid.entry?_of_unknown unknown
  refine ⟨Topology.insert_partitioned valid.partitioned absent, ?_⟩
  intro e member
  rw [enter, Topology.entries_insert, List.mem_append, List.mem_singleton] at member
  rcases member with old | rfl
  · obtain ⟨node, live, shown⟩ := valid.shown e old
    refine ⟨node, ?_, shown⟩
    have bound : e.peer.serial < r.nodes.size := (Array.getElem?_eq_some_iff.mp live).1
    simpa [enter, node?, Array.getElem?_push, Nat.ne_of_lt bound] using live
  · exact ⟨.fresh d distance, by simp [enter, node?], rfl, rfl, rfl⟩

theorem place_coherent {r : Registry} (valid : r.Coherent) {known : Entry}
    (member : known ∈ r.topology.entries) (distance : Distance) :
    (r.place known.peer distance).Coherent := by
  refine ⟨Topology.relocate_partitioned valid.partitioned, ?_⟩
  intro e present
  rw [place, Topology.entries_relocate valid.partitioned] at present
  obtain ⟨before, entered, rfl⟩ := List.mem_map.mp present
  obtain ⟨node, live, shown⟩ := valid.shown before entered
  have read : (r.place known.peer distance).node? (Topology.moved known.peer.host distance before).peer =
      if known.peer.serial = before.peer.serial then some { node with distance } else some node := by
    rw [Topology.peer_moved]
    refine (node?_amend r known.peer before.peer _).trans ?_
    simp [live]
  by_cases hit : before.peer.host = known.peer.host
  · have equal := valid.partitioned.entry_unique entered member hit
    subst equal
    refine ⟨_, by rw [read, if_pos rfl], ?_⟩
    simp only [Topology.moved, if_true]
    exact ⟨shown.host, rfl, shown.present⟩
  · have apart : known.peer.serial ≠ before.peer.serial := by
      intro same
      exact hit (congrArg (·.peer.host) (valid.serial_unique member entered same)).symm
    refine ⟨node, by rw [read, if_neg apart], ?_⟩
    simpa only [Topology.moved, hit, if_false] using shown

theorem drop_coherent {r : Registry} (valid : r.Coherent) {known : Entry}
    (member : known ∈ r.topology.entries) (change : Node → Node) :
    Coherent { r.amend known.peer change with topology := r.topology.erase known.peer.host } := by
  refine ⟨Topology.erase_partitioned valid.partitioned, ?_⟩
  intro e present
  obtain ⟨entered, other⟩ := Topology.mem_entries_erase.mp present
  obtain ⟨node, live, shown⟩ := valid.shown e entered
  have apart : known.peer.serial ≠ e.peer.serial := by
    intro same
    exact other (congrArg (·.peer.host) (valid.serial_unique member entered same)).symm
  refine ⟨node, ?_, shown⟩
  refine (node?_amend r known.peer e.peer change).trans ?_
  rw [if_neg apart, live]

theorem topology_treat (r : Registry) (treatment : HostId × Health) :
    (r.treat treatment).topology = r.topology := by
  unfold treat setHealth
  cases found : r.find? treatment.1 <;> rfl

theorem node?_treat {r : Registry} (valid : r.Coherent) {e : Entry} (member : e ∈ r.topology.entries)
    (host : HostId) (health : Health) :
    ∃ node, r.node? e.peer = some node ∧ e.Shown node ∧
      (r.treat (host, health)).node? e.peer =
        some (if e.peer.host = host then { node with health } else node) := by
  obtain ⟨node, live, shown⟩ := valid.shown e member
  refine ⟨node, live, shown, ?_⟩
  cases found : r.find? host with
  | none =>
    have other : e.peer.host ≠ host :=
      Topology.entry?_eq_none.mp (valid.entry?_of_unknown found) e member
    simpa [treat, after, setHealth, found, other] using live
  | some known =>
    obtain ⟨peer, before⟩ := known
    obtain ⟨entry, entered, rfl⟩ := entry?_of_peer? (peer?_of_find? found)
    have amended : (r.treat (host, health)).node? e.peer =
        (r.amend entry.peer fun node => { node with health }).node? e.peer := by
      simp [treat, after, setHealth, found]
    rw [amended, node?_amend, live]
    by_cases hit : e.peer.host = host
    · have equal := valid.partitioned.entry_unique member (Topology.mem_of_found entered)
        (hit.trans (Topology.host_of_found entered).symm)
      subst equal
      simp [hit]
    · have apart : entry.peer.serial ≠ e.peer.serial := by
        intro same
        have equal := valid.serial_unique (Topology.mem_of_found entered) member same
        exact hit (equal ▸ Topology.host_of_found entered)
      simp [hit, apart]

theorem change_coherent {r next : Registry} (valid : r.Coherent) (change : Change r next) : next.Coherent := by
  cases change with
  | entered unknown => exact enter_coherent valid unknown
  | @described d peer node known =>
    obtain ⟨entry, found, rfl⟩ := entry?_of_peer? (peer?_of_find? known)
    apply amend_coherent valid (Topology.mem_of_found found)
    intro before shown
    exact ⟨(Topology.host_of_found found).symm, shown.distance, shown.present⟩
  | placed known =>
    obtain ⟨entry, found, rfl⟩ := entry?_of_peer? known
    exact place_coherent valid (Topology.mem_of_found found) _
  | dropped known =>
    obtain ⟨entry, found, rfl⟩ := entry?_of_peer? known
    rw [← Topology.host_of_found found]
    exact drop_coherent valid (Topology.mem_of_found found) _
  | treated known =>
    obtain ⟨entry, found, rfl⟩ := entry?_of_peer? (peer?_of_find? known)
    apply amend_coherent valid (Topology.mem_of_found found)
    intro before shown
    exact ⟨shown.host, shown.distance, shown.present⟩

theorem run_healths {r : Registry} (valid : r.Coherent) (health : HostId → Health) (hosts : List HostId) :
    (r.run (hosts.map fun host => .setHealth host (health host))).topology = r.topology ∧
      ∀ e ∈ r.topology.entries, e.peer.host ∈ hosts →
        ∃ node, (r.run (hosts.map fun host => .setHealth host (health host))).node? e.peer = some node ∧
          e.Shown node ∧ node.health = health e.peer.host := by
  induction hosts using List.reverseRecOn with
  | nil => simp
  | append_singleton earlier last ih =>
    obtain ⟨same, done⟩ := ih
    rw [List.map_append, run_append]
    have coherent : (r.run (earlier.map fun host => .setHealth host (health host))).Coherent :=
      run_keeps change_coherent valid _
    generalize r.run (earlier.map fun host => .setHealth host (health host)) = middle at same done coherent ⊢
    have last_run : middle.run ([last].map fun host => .setHealth host (health host)) =
        middle.treat (last, health last) := rfl
    rw [last_run]
    refine ⟨(topology_treat _ _).trans same, ?_⟩
    intro e member listed
    obtain ⟨node, live, shown, result⟩ := node?_treat coherent (same ▸ member) last (health last)
    refine ⟨_, result, ?_⟩
    by_cases hit : e.peer.host = last
    · rw [if_pos hit, hit]
      exact ⟨⟨shown.host, shown.distance, shown.present⟩, rfl⟩
    · rw [if_neg hit]
      have before : e.peer.host ∈ earlier := by simpa [hit] using listed
      obtain ⟨other, alive, seen, healthy⟩ := done e member before
      rw [live] at alive
      cases alive
      exact ⟨shown, healthy⟩

theorem run_coherent {r : Registry} (valid : r.Coherent) (writes : List Write) : (r.run writes).Coherent :=
  run_keeps change_coherent valid writes

-- An entry names one place among all groups and one live record, and no group holds anything else.
-- The writes may break off at their evaluation, or be refused.
theorem every_history_agrees (writes : List Write) :
    let r := empty.run writes
    r.topology.hosts.Nodup ∧
      (∀ host known, r.topology.entry? host = some known →
        known.peer.host = host ∧
          r.topology.members.filter (·.host = host) = [known.peer] ∧
          known.peer ∈ r.topology.group known.distance ∧
          ∃ node, r.node? known.peer = some node ∧ node.descriptor.host = host ∧
            node.distance = known.distance ∧ node.removed = false) ∧
      ∀ peer ∈ r.topology.members, ∃ known, r.topology.entry? peer.host = some known ∧ known.peer = peer := by
  intro r
  have valid : r.Coherent := run_coherent empty_coherent writes
  have partitioned := valid.partitioned
  refine ⟨partitioned.hosts_nodup, ?_, ?_⟩
  · intro host known found
    have named := Topology.host_of_found found
    have entered := Topology.mem_of_found found
    have grouped : known.peer ∈ r.topology.group known.distance :=
      (partitioned.mem_group known.distance known.peer).mpr entered
    have placed : r.topology.members.filter (·.host = known.peer.host) = [known.peer] :=
      Topology.filter_of_map_nodup partitioned.members_nodup (Topology.mem_members.mpr ⟨_, grouped⟩)
    obtain ⟨node, live, shown⟩ := valid.shown known entered
    subst named
    exact ⟨rfl, placed, grouped, node, live, shown.host, shown.distance, shown.present⟩
  · intro peer member
    obtain ⟨distance, grouped⟩ := Topology.mem_members.mp member
    have entered := (partitioned.mem_group distance peer).mp grouped
    exact ⟨_, partitioned.entry?_of_mem entered, rfl⟩

end Registry
end ClusterRouting
