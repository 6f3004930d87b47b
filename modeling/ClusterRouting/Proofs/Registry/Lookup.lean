import ClusterRouting.Proofs.Registry.Coherence

namespace ClusterRouting

namespace Topology

theorem peer?_insert (t : Topology) (peer : Peer) (d : Distance) (host : HostId) :
    (t.insert peer d).peer? host = (t.peer? host).or (if peer.host = host then some peer else none) := by
  simp only [peer?, entry?, entries_insert, List.find?_append, List.find?_singleton, Option.map_or]
  split <;> simp_all

theorem peer?_relocate {t : Topology} (valid : t.Partitioned) (host : HostId) (d : Distance) (other : HostId) :
    (t.relocate host d).peer? other = t.peer? other := by
  simp only [peer?, entry?, entries_relocate valid, List.find?_map, Option.map_map, Function.comp_def, peer_moved]

theorem entries_erase (t : Topology) (host : HostId) :
    (t.erase host).entries = t.entries.filter (·.peer.host ≠ host) := by
  cases found : t.entry? host with
  | none =>
    rw [erase_of_absent found]
    refine (List.filter_eq_self.mpr fun e member => ?_).symm
    simpa using entry?_eq_none.mp found e member
  | some known => simp [erase, distance?, found]

theorem peer?_erase (t : Topology) (host other : HostId) :
    (t.erase host).peer? other = if other = host then none else t.peer? other := by
  simp only [peer?, entry?, entries_erase, List.find?_filter]
  split
  · rename_i same
    simp [same]
  · rename_i differ
    congr 2
    funext e
    by_cases hit : e.peer.host = other
    · simp [hit, differ]
    · simp [hit]

end Topology

namespace Registry

section Known
variable {r : Registry} {host : HostId} {peer : Peer} {node : Node}

theorem find?_eq_some : r.find? host = some (peer, node) ↔ r.peer? host = some peer ∧ r.node? peer = some node := by
  simp only [find?, Option.bind_eq_some_iff, Option.map_eq_some_iff]
  constructor
  · rintro ⟨_, known, _, live, same⟩
    cases same
    exact ⟨known, live⟩
  · rintro ⟨known, live⟩
    exact ⟨peer, known, node, live, rfl⟩

theorem host_of_peer? (known : r.peer? host = some peer) : peer.host = host := by
  obtain ⟨entry, found, rfl⟩ := entry?_of_peer? known
  exact Topology.host_of_found found

theorem find?_host (found : r.find? host = some (peer, node)) : peer.host = host :=
  host_of_peer? (find?_eq_some.mp found).1

theorem Coherent.find?_of_peer? (valid : r.Coherent) (known : r.peer? host = some peer) :
    ∃ node, r.find? host = some (peer, node) := by
  obtain ⟨entry, found, rfl⟩ := entry?_of_peer? known
  obtain ⟨node, live, _⟩ := valid.shown entry (Topology.mem_of_found found)
  exact ⟨node, find?_eq_some.mpr ⟨known, live⟩⟩

theorem Coherent.find?_eq_none (valid : r.Coherent) : r.find? host = none ↔ r.peer? host = none := by
  constructor
  · intro unknown
    rw [peer?, Topology.peer?, valid.entry?_of_unknown unknown]
    rfl
  · intro unknown
    rw [find?, unknown]
    rfl

theorem Coherent.entered (valid : r.Coherent) (found : r.find? host = some (peer, node)) :
    r.topology.entry? host = some ⟨peer, node.distance⟩ ∧ Entry.Shown ⟨peer, node.distance⟩ node := by
  obtain ⟨known, live⟩ := find?_eq_some.mp found
  obtain ⟨entry, entered, rfl⟩ := entry?_of_peer? known
  obtain ⟨other, alive, shown⟩ := valid.shown entry (Topology.mem_of_found entered)
  cases live.symm.trans alive
  have whole : entry = ⟨entry.peer, node.distance⟩ := by rw [shown.distance]
  rw [← whole]
  exact ⟨entered, shown⟩

theorem Coherent.distance?_eq (valid : r.Coherent) (host : HostId) :
    r.distance? host = (r.find? host).map fun known => known.2.distance := by
  cases found : r.find? host with
  | none => simp [distance?, Topology.distance?, valid.entry?_of_unknown found]
  | some known => simp [distance?, Topology.distance?, (valid.entered found).1]

theorem Coherent.mem_group_iff (valid : r.Coherent) (found : r.find? host = some (peer, node)) (d : Distance) :
    peer ∈ r.topology.group d ↔ d = node.distance := by
  obtain ⟨entered, _⟩ := valid.entered found
  rw [valid.partitioned.mem_group]
  constructor
  · intro member
    have same : peer.host = host := host_of_peer? (find?_eq_some.mp found).1
    have equal := valid.partitioned.entry_unique member (Topology.mem_of_found entered) rfl
    exact congrArg Entry.distance equal
  · rintro rfl
    exact Topology.mem_of_found entered

theorem Coherent.serial_ne (valid : r.Coherent) {other : HostId} {another : Peer}
    (known : r.peer? host = some peer) (found : r.peer? other = some another) (differ : other ≠ host) :
    peer.serial ≠ another.serial := by
  intro same
  obtain ⟨one, first, rfl⟩ := entry?_of_peer? known
  obtain ⟨two, second, rfl⟩ := entry?_of_peer? found
  have equal := valid.serial_unique (Topology.mem_of_found first) (Topology.mem_of_found second) same
  exact differ ((Topology.host_of_found second).symm.trans (equal ▸ Topology.host_of_found first))

end Known

theorem changes_coherent {r next : Registry} (valid : r.Coherent) (changes : Changes r next) : next.Coherent := by
  induction changes with
  | refl => exact valid
  | tail _ change ih => exact change_coherent ih change

section Changes
variable {r : Registry} {host : HostId} {peer : Peer} {node : Node}

theorem find?_amend (valid : r.Coherent) (found : r.find? host = some (peer, node)) (change : Node → Node)
    (other : HostId) :
    (r.amend peer change).find? other = if other = host then some (peer, change node) else r.find? other := by
  obtain ⟨known, live⟩ := find?_eq_some.mp found
  split
  · rename_i same
    subst same
    refine find?_eq_some.mpr ⟨known, ?_⟩
    simp [node?_amend, live]
  · rename_i differ
    cases entered : r.peer? other with
    | none =>
      have still : (r.amend peer change).peer? other = none := entered
      simp [find?, entered, still]
    | some another =>
      have still : (r.amend peer change).peer? other = some another := entered
      have apart := valid.serial_ne known entered differ
      simp [find?, entered, still, node?_amend, apart]

theorem find?_enter (valid : r.Coherent) {d : Descriptor} {distance : Distance} (unknown : r.find? d.host = none)
    (other : HostId) :
    (r.enter d distance).2.find? other =
      if other = d.host then some ((r.enter d distance).1, .fresh d distance) else r.find? other := by
  have absent := valid.find?_eq_none.mp unknown
  have answer : (r.enter d distance).2.peer? other =
      (r.peer? other).or (if d.host = other then some (r.enter d distance).1 else none) :=
    Topology.peer?_insert ..
  split
  · rename_i same
    subst same
    refine find?_eq_some.mpr ⟨by simp [answer, absent], ?_⟩
    simp [enter, node?]
  · rename_i differ
    cases entered : r.peer? other with
    | none => simp [find?, answer, entered, Ne.symm differ]
    | some another =>
      obtain ⟨node, found⟩ := valid.find?_of_peer? entered
      have live := (find?_eq_some.mp found).2
      rw [found]
      refine find?_eq_some.mpr ⟨by simp [answer, entered], ?_⟩
      have bound : another.serial < r.nodes.size := (Array.getElem?_eq_some_iff.mp live).1
      simpa [enter, node?, Array.getElem?_push, Nat.ne_of_lt bound] using live

theorem find?_place (valid : r.Coherent) (found : r.find? host = some (peer, node)) (d : Distance)
    (other : HostId) :
    (r.place peer d).find? other =
      if other = host then some (peer, { node with distance := d }) else r.find? other := by
  rw [← find?_amend valid found (fun node => { node with distance := d })]
  have same : (r.place peer d).peer? other = r.peer? other := Topology.peer?_relocate valid.partitioned ..
  unfold find?
  rw [same]
  rfl

-- The host is gone, and its record keeps what it showed last.
theorem find?_drop (valid : r.Coherent) (known : r.peer? host = some peer) (change : Node → Node) (other : HostId) :
    find? { r.amend peer change with topology := r.topology.erase host } other =
      if other = host then none else r.find? other := by
  obtain ⟨node, found⟩ := valid.find?_of_peer? known
  have answer : peer? { r.amend peer change with topology := r.topology.erase host } other =
      if other = host then none else r.peer? other := Topology.peer?_erase ..
  split
  · rename_i same
    rw [if_pos same] at answer
    rw [find?, answer]
    rfl
  · rename_i differ
    have kept := find?_amend valid found change other
    rw [if_neg differ] at answer kept
    rw [← kept]
    unfold find?
    rw [answer]
    rfl

end Changes

end Registry
end ClusterRouting
