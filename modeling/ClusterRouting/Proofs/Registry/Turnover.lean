import ClusterRouting.Proofs.Registry.Records

namespace ClusterRouting

namespace Topology

-- How many have come into a group, newcomers and those from another group alike.
def entering (d : Distance) (before after : Topology) : Nat := (after.group d).countP (· ∉ before.group d)

section Entering
variable {t after : Topology} {host : HostId} {peer : Peer} {known : Entry} {d e : Distance}

theorem entering_of_subset (still : after.group d ⊆ t.group d) : entering d t after = 0 := by
  rw [entering, List.countP_eq_zero]
  intro peer member
  simpa using still member

theorem entering_of_append (appended : after.group d = t.group d ++ [peer]) (outside : peer ∉ t.group d) :
    entering d t after = 1 := by
  have kept : (t.group d).countP (· ∉ t.group d) = 0 := entering_of_subset (List.Subset.refl _)
  rw [entering, appended, List.countP_append, kept]
  simp [outside]

theorem entering_insert (valid : t.Partitioned) (absent : t.entry? peer.host = none) (d e : Distance) :
    entering d t (t.insert peer e) = if d = e then 1 else 0 := by
  have group : (t.insert peer e).group d = if d = e then t.group d ++ [peer] else t.group d := group_insert d
  split
  · rename_i same
    rw [if_pos same] at group
    refine entering_of_append group fun member => ?_
    exact entry?_eq_none.mp absent _ ((valid.mem_group d peer).mp member) rfl
  · rename_i other
    rw [if_neg other] at group
    exact entering_of_subset (group ▸ List.Subset.refl _)

theorem entering_relocate (valid : t.Partitioned) (found : t.entry? host = some known) (d e : Distance) :
    entering d t (t.relocate host e) = if known.distance ≠ e ∧ d = e then 1 else 0 := by
  by_cases same : known.distance = e
  · rw [relocate_of_same found same, if_neg fun moves => moves.1 same]
    exact entering_of_subset (List.Subset.refl _)
  · have group := group_relocate found same d
    by_cases target : d = e
    · rw [if_pos target] at group
      rw [if_pos ⟨same, target⟩]
      refine entering_of_append group fun member => ?_
      exact same ((valid.mem_group_entry? found member (host_of_found found)).1.symm.trans target)
    · rw [if_neg target] at group
      rw [if_neg fun moves => target moves.2]
      refine entering_of_subset ?_
      rw [group]
      split
      · exact List.filter_subset_self _
      · exact List.Subset.refl _

theorem entering_erase (valid : t.Partitioned) (host : HostId) (d : Distance) : entering d t (t.erase host) = 0 := by
  refine entering_of_subset ?_
  rw [group_erase valid]
  exact List.filter_subset_self _

end Entering

theorem Partitioned.length_members {t : Topology} (valid : t.Partitioned) : t.members.length = t.size := by
  have entries : (t.entries.map Entry.peer).Nodup := by
    refine List.Nodup.of_map Peer.host ?_
    rw [List.map_map]
    exact valid.hosts_nodup
  have same : t.members.Perm (t.entries.map Entry.peer) := by
    refine (List.perm_ext_iff_of_nodup (.of_map _ valid.members_nodup) entries).mpr fun peer => ?_
    rw [mem_members, List.mem_map]
    constructor
    · rintro ⟨d, member⟩
      exact ⟨_, (valid.mem_group d peer).mp member, rfl⟩
    · rintro ⟨known, member, rfl⟩
      exact ⟨known.distance, (valid.mem_group _ _).mpr member⟩
  rw [same.length_eq, List.length_map, size]

end Topology

namespace Registry

def turning (health : Health) (before after : Registry) : Nat :=
  (List.range before.nodes.size).countP fun serial =>
    before.nodes[serial]?.any (·.health ≠ health) && after.nodes[serial]?.any (·.health = health)

-- The old records stay, with the health that they have.
def Unturned (before after : Registry) : Prop := ∀ peer node, before.node? peer = some node →
  ∃ later, after.node? peer = some later ∧ later.health = node.health

section Turning
variable {r middle next : Registry} {peer : Peer} {node : Node}

theorem Unturned.refl (r : Registry) : r.Unturned r := fun _ node live => ⟨node, live, rfl⟩

theorem Unturned.trans (first : r.Unturned middle) (second : middle.Unturned next) : r.Unturned next := by
  intro peer node live
  obtain ⟨between, shown, kept⟩ := first peer node live
  obtain ⟨later, seen, still⟩ := second peer between shown
  exact ⟨later, seen, still.trans kept⟩

theorem amend_unturned (r : Registry) (peer : Peer) (change : Node → Node)
    (keeps : ∀ node, (change node).health = node.health) : r.Unturned (r.amend peer change) := by
  intro other node live
  rw [node?_amend, live]
  split
  · exact ⟨change node, rfl, keeps node⟩
  · exact ⟨node, rfl, rfl⟩

theorem replaceDescriptor_unturned (r : Registry) (peer : Peer) (d : Descriptor) :
    r.Unturned (r.replaceDescriptor peer d) := amend_unturned r peer _ fun _ => rfl

theorem place_unturned (r : Registry) (peer : Peer) (distance : Distance) : r.Unturned (r.place peer distance) :=
  amend_unturned r peer (fun node => { node with distance }) fun _ => rfl

theorem enter_unturned (r : Registry) (d : Descriptor) (distance : Distance) : r.Unturned (r.enter d distance).2 := by
  intro peer node live
  rw [node?_enter, if_neg (Nat.ne_of_lt (node?_lt live))]
  exact ⟨node, live, rfl⟩

theorem Unturned.turning (unturned : r.Unturned next) (health : Health) : turning health r next = 0 := by
  rw [Registry.turning, List.countP_eq_zero]
  intro serial inside
  obtain ⟨node, live⟩ : ∃ node, r.nodes[serial]? = some node :=
    ⟨_, Array.getElem?_eq_getElem (List.mem_range.mp inside)⟩
  obtain ⟨later, shown, same⟩ := unturned ⟨⟨0⟩, serial⟩ node live
  have read : next.nodes[serial]? = some later := shown
  simp [live, read, same]

theorem turning_amend (live : r.node? peer = some node) (change : Node → Node) (health : Health) :
    turning health r (r.amend peer change) = if node.health ≠ health ∧ (change node).health = health then 1 else 0 := by
  have read : r.nodes[peer.serial]? = some node := live
  -- no other record changes
  have alone : ∀ serial, (r.nodes[serial]?.any (·.health ≠ health) &&
      (r.amend peer change).nodes[serial]?.any (·.health = health)) =
      decide (serial = peer.serial ∧ node.health ≠ health ∧ (change node).health = health) := by
    intro serial
    by_cases here : serial = peer.serial
    · subst here
      simp [amend, Array.getElem?_modify, read]
    · have kept : (r.amend peer change).nodes[serial]? = r.nodes[serial]? := by
        simp [amend, Array.getElem?_modify, Ne.symm here]
      rw [kept]
      cases r.nodes[serial]? <;> simp [here]
  rw [turning, List.countP_congr fun serial _ => Bool.eq_iff_iff.mp (alone serial)]
  split
  · rename_i turns
    have once : (List.range r.nodes.size).countP (· = peer.serial) = 1 :=
      List.count_eq_one_of_mem List.nodup_range (List.mem_range.mpr (node?_lt live))
    simpa [turns] using once
  · rename_i stays
    simp [stays]

end Turning

end Registry
end ClusterRouting
