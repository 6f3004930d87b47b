import ClusterRouting.Proofs.Registry.Lookup

namespace ClusterRouting.Registry

-- The membership is over, and its record shows what it showed last.
def Retired (r : Registry) (peer : Peer) : Prop := ∃ node, r.node? peer = some node ∧ node.removed = true

-- Whoever is not retired is known to the registry as what its record says.
def Accounted (r : Registry) : Prop :=
  ∀ peer node, r.node? peer = some node → node.removed = false →
    r.find? node.descriptor.host = some (⟨node.descriptor.host, peer.serial⟩, node)

section Records
variable {r next : Registry} {host : HostId} {peer other : Peer} {node : Node}

theorem node?_lt (live : r.node? peer = some node) : peer.serial < r.nodes.size :=
  (Array.getElem?_eq_some_iff.mp live).1

theorem node?_enter (r : Registry) (d : Descriptor) (distance : Distance) (peer : Peer) :
    (r.enter d distance).2.node? peer =
      if peer.serial = r.nodes.size then some (.fresh d distance) else r.node? peer := by
  simp only [enter, node?, Array.getElem?_push]

theorem Coherent.present (valid : r.Coherent) (found : r.find? host = some (peer, node)) : node.removed = false :=
  (valid.entered found).2.present

theorem Coherent.named (valid : r.Coherent) (found : r.find? host = some (peer, node)) :
    node.descriptor.host = host :=
  (valid.entered found).2.host.trans (find?_host found)

theorem Coherent.serial_ne_retired (valid : r.Coherent) (known : r.peer? host = some peer)
    (retired : r.Retired other) : peer.serial ≠ other.serial := by
  intro same
  obtain ⟨gone, shown, flagged⟩ := retired
  obtain ⟨node, found⟩ := valid.find?_of_peer? known
  have live : r.nodes[peer.serial]? = some node := (find?_eq_some.mp found).2
  rw [same] at live
  cases live.symm.trans shown
  rw [valid.present found] at flagged
  cases flagged

theorem change_nodes_size (change : Change r next) : r.nodes.size ≤ next.nodes.size := by
  cases change with
  | entered => simp [enter]
  | _ => simp [replaceDescriptor, place, amend]

theorem change_keeps_retired (valid : r.Coherent) (change : Change r next) (live : r.node? peer = some node)
    (flagged : node.removed = true) : next.node? peer = some node := by
  have apart : ∀ {host known}, r.peer? host = some known → ∀ change, (r.amend known change).node? peer = some node := by
    intro host known stands change
    rw [node?_amend, if_neg (valid.serial_ne_retired stands ⟨node, live, flagged⟩), live]
  cases change with
  | entered =>
    have old := node?_lt live
    rw [node?_enter, if_neg (Nat.ne_of_lt old), live]
  | described known => exact apart (peer?_of_find? known) _
  | placed known => exact apart known _
  | dropped known => exact apart known _
  | treated known => exact apart (peer?_of_find? known) _

theorem change_follows (valid : r.Coherent) (change : Change r next) (known : r.peer? host = some peer) :
    next.peer? host = some peer ∨ next.Retired peer := by
  cases change with
  | @entered d distance =>
    left
    have answer : (r.enter d distance).2.peer? host = _ := Topology.peer?_insert _ _ _ host
    rw [answer, show r.topology.peer? host = some peer from known]
    rfl
  | described => exact .inl known
  | placed =>
    left
    exact (Topology.peer?_relocate valid.partitioned _ _ host).trans known
  | @dropped gone leaving standing =>
    by_cases same : host = gone
    · right
      subst same
      cases known.symm.trans standing
      obtain ⟨node, found⟩ := valid.find?_of_peer? known
      have live : r.node? peer = some node := (find?_eq_some.mp found).2
      refine ⟨{ node with removed := true }, (node?_amend r peer peer _).trans ?_, rfl⟩
      simp [live]
    · left
      have answer := Topology.peer?_erase r.topology gone host
      rw [if_neg same] at answer
      exact answer.trans known
  | treated => exact .inl known

theorem change_origin (valid : r.Coherent) (change : Change r next) (known : next.peer? host = some peer) :
    r.peer? host = some peer ∨ r.node? peer = none := by
  cases change with
  | @entered d distance =>
    have answer : (r.enter d distance).2.peer? host = _ := Topology.peer?_insert _ _ _ host
    rw [answer] at known
    rcases Option.or_eq_some_iff.mp known with stands | ⟨_, begins⟩
    · exact .inl stands
    · right
      split at begins
      · cases begins
        simp [node?]
      · cases begins
  | described => exact .inl known
  | placed =>
    left
    exact (Topology.peer?_relocate valid.partitioned _ _ host).symm.trans known
  | @dropped gone =>
    left
    have answer : (r.topology.erase gone).peer? host = some peer := known
    rw [Topology.peer?_erase] at answer
    split at answer
    · cases answer
    · exact answer
  | treated => exact .inl known

-- A record that is changed in place stays the one of its host.
theorem amend_accounted (valid : r.Coherent) (accounted : r.Accounted) (found : r.find? host = some (peer, node))
    (change : Node → Node) (same : (change node).descriptor.host = host) : (r.amend peer change).Accounted := by
  intro other shown live present
  have stands := find?_amend valid found change
  rw [node?_amend] at live
  split at live
  · rename_i serial
    have here : r.node? other = some node := by simpa only [node?, ← serial] using (find?_eq_some.mp found).2
    rw [here] at live
    cases live
    have named : (⟨host, other.serial⟩ : Peer) = peer := by rw [← serial, ← find?_host found]
    rw [same, stands, if_pos rfl, named]
  · rename_i apart
    have before := accounted other shown live present
    rw [stands, if_neg, before]
    intro hit
    rw [hit, found] at before
    cases before
    exact apart rfl

theorem change_accounted (valid : r.Coherent) (accounted : r.Accounted) (change : Change r next) :
    next.Accounted := by
  cases change with
  | @entered d distance unknown =>
    intro other shown live present
    rw [node?_enter] at live
    rw [find?_enter valid unknown]
    split at live
    · rename_i last
      cases live
      rw [if_pos (show (Node.fresh d distance).descriptor.host = d.host from rfl), last]
      rfl
    · have before := accounted other shown live present
      rw [if_neg, before]
      intro hit
      rw [hit, unknown] at before
      cases before
  | described known => exact amend_accounted valid accounted known _ rfl
  | @placed host peer distance known =>
    obtain ⟨node, found⟩ := valid.find?_of_peer? known
    have named := valid.named found
    have amended := amend_accounted valid accounted found (fun node => { node with distance }) named
    intro other shown live present
    have before := amended other shown live present
    rw [find?_amend valid found] at before
    rwa [find?_place valid found]
  | @dropped host peer known =>
    obtain ⟨node, found⟩ := valid.find?_of_peer? known
    intro other shown live present
    have still : (r.amend peer fun node => { node with removed := true }).node? other = some shown := live
    rw [node?_amend] at still
    split at still
    · obtain ⟨before, _, rfl⟩ := Option.map_eq_some_iff.mp still
      cases present
    · rename_i apart
      have before := accounted other shown still present
      rw [find?_drop valid known, if_neg, before]
      intro hit
      rw [hit, found] at before
      cases before
      exact apart rfl
  | treated known =>
    have named := valid.named known
    exact amend_accounted valid accounted known _ named

end Records

section Histories
variable {r next : Registry} {host : HostId} {peer : Peer} {node : Node}

theorem empty_accounted : Accounted .empty := by
  intro peer node live
  simp [node?, empty] at live

theorem changes_accounted (valid : r.Coherent) (accounted : r.Accounted) (changes : Changes r next) : next.Accounted := by
  induction changes with
  | refl => exact accounted
  | tail earlier change ih => exact change_accounted (changes_coherent valid earlier) ih change

theorem run_changes (r : Registry) (writes : List Write) : Changes r (r.run writes) := by
  induction writes generalizing r with
  | nil => exact .refl
  | cons write later ih => exact (apply_changes r write).trans (ih _)

theorem changes_keep_retired (valid : r.Coherent) (changes : Changes r next) (live : r.node? peer = some node)
    (flagged : node.removed = true) : next.node? peer = some node := by
  induction changes with
  | refl => exact live
  | tail earlier change ih => exact change_keeps_retired (changes_coherent valid earlier) change ih flagged

theorem changes_follow (valid : r.Coherent) (changes : Changes r next) (known : r.peer? host = some peer) :
    next.peer? host = some peer ∨ next.Retired peer := by
  induction changes with
  | refl => exact .inl known
  | tail earlier change ih =>
    have coherent := changes_coherent valid earlier
    rcases ih with stands | ⟨node, live, flagged⟩
    · exact change_follows coherent change stands
    · exact .inr ⟨node, change_keeps_retired coherent change live flagged, flagged⟩

theorem changes_nodes_size (changes : Changes r next) : r.nodes.size ≤ next.nodes.size := by
  induction changes with
  | refl => exact Nat.le_refl _
  | tail _ change ih => exact Nat.le_trans ih (change_nodes_size change)

theorem changes_keep_record (changes : Changes r next) (live : r.node? peer = some node) :
    ∃ after, next.node? peer = some after := by
  have bound := Nat.lt_of_lt_of_le (node?_lt live) (changes_nodes_size changes)
  exact ⟨_, Array.getElem?_eq_getElem bound⟩

theorem changes_origin (valid : r.Coherent) (changes : Changes r next) (known : next.peer? host = some peer) :
    r.peer? host = some peer ∨ r.node? peer = none := by
  induction changes with
  | refl => exact .inl known
  | @tail middle after earlier change ih =>
    rcases change_origin (changes_coherent valid earlier) change known with stands | none
    · exact ih stands
    · right
      have beyond : middle.nodes.size ≤ peer.serial := by simpa [node?] using none
      simpa [node?] using Nat.le_trans (changes_nodes_size earlier) beyond

end Histories

end ClusterRouting.Registry
