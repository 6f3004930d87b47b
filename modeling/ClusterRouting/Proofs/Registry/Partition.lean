import ClusterRouting.Topology
import Mathlib.Data.List.Nodup

namespace ClusterRouting.Topology

def members (t : Topology) : List Peer := t.home ++ t.remote ++ t.ignored

-- In which order a group holds its members is no part of this.
structure Partitioned (t : Topology) : Prop where
  hosts_nodup : t.hosts.Nodup
  group_nodup : ∀ d, ((t.group d).map Peer.host).Nodup
  mem_group : ∀ d peer, peer ∈ t.group d ↔ ⟨peer, d⟩ ∈ t.entries

theorem mem_members {t : Topology} {peer : Peer} : peer ∈ t.members ↔ ∃ d, peer ∈ t.group d := by
  constructor
  · intro member
    rcases List.mem_append.mp member with early | ignored
    · rcases List.mem_append.mp early with home | remote
      · exact ⟨.home, home⟩
      · exact ⟨.remote, remote⟩
    · exact ⟨.ignored, ignored⟩
  · rintro ⟨d, member⟩
    cases d with
    | home => exact List.mem_append_left _ (List.mem_append_left _ member)
    | remote => exact List.mem_append_left _ (List.mem_append_right _ member)
    | ignored => exact List.mem_append_right _ member

theorem empty_partitioned : Partitioned .empty := by
  refine ⟨List.nodup_nil, ?_, ?_⟩
  · intro d; cases d <;> exact List.nodup_nil
  · intro d peer; cases d <;> simp [empty, group]

section Lookup
variable {t : Topology} {host : HostId} {known : Entry}

theorem mem_of_found (found : t.entry? host = some known) : known ∈ t.entries :=
  List.mem_of_find?_eq_some found

theorem host_of_found (found : t.entry? host = some known) : known.peer.host = host := by
  simpa using List.find?_some found

theorem entry?_eq_none : t.entry? host = none ↔ ∀ e ∈ t.entries, e.peer.host ≠ host := by
  simp [ entry?]

theorem Partitioned.entry_unique (valid : t.Partitioned) {first second : Entry}
    (one : first ∈ t.entries) (two : second ∈ t.entries)
    (same : first.peer.host = second.peer.host) : first = second :=
  List.inj_on_of_nodup_map valid.hosts_nodup one two same

theorem Partitioned.entry?_of_mem (valid : t.Partitioned) (member : known ∈ t.entries) :
    t.entry? known.peer.host = some known := by
  cases found : t.entry? known.peer.host with
  | none => exact absurd rfl (entry?_eq_none.mp found known member)
  | some other =>
    rw [valid.entry_unique (mem_of_found found) member (host_of_found found)]

theorem Partitioned.mem_group_entry? (valid : t.Partitioned) (found : t.entry? host = some known)
    {d : Distance} {peer : Peer} (member : peer ∈ t.group d) (same : peer.host = host) :
    d = known.distance ∧ peer = known.peer := by
  have entered := (valid.mem_group d peer).mp member
  have whole := valid.entry_unique entered (mem_of_found found) (same.trans (host_of_found found).symm)
  exact ⟨congrArg Entry.distance whole, congrArg Entry.peer whole⟩

theorem Partitioned.members_nodup (valid : t.Partitioned) : (t.members.map Peer.host).Nodup := by
  have apart : ∀ {c d : Distance}, c ≠ d →
      ((t.group c).map Peer.host).Disjoint ((t.group d).map Peer.host) := by
    intro c d different host inOne inTwo
    obtain ⟨one, first, rfl⟩ := List.mem_map.mp inOne
    obtain ⟨two, second, same⟩ := List.mem_map.mp inTwo
    have equal := valid.entry_unique ((valid.mem_group c one).mp first) ((valid.mem_group d two).mp second)
      same.symm
    exact different (congrArg Entry.distance equal)
  simp only [members, List.map_append]
  refine List.Nodup.append (List.Nodup.append ?_ ?_ ?_) ?_ ?_
  · exact valid.group_nodup .home
  · exact valid.group_nodup .remote
  · exact apart (c := .home) (d := .remote) (by decide)
  · exact valid.group_nodup .ignored
  · rw [List.disjoint_append_left]
    exact ⟨apart (c := .home) (d := .ignored) (by decide), apart (c := .remote) (d := .ignored) (by decide)⟩

theorem Partitioned.walked_nodup (valid : t.Partitioned) : ((t.home ++ t.remote).map Peer.host).Nodup :=
  valid.members_nodup.sublist ((List.sublist_append_left _ _).map _)

theorem Partitioned.apart (valid : t.Partitioned) : t.home.Disjoint t.remote :=
  (List.nodup_append'.mp (.of_map Peer.host valid.walked_nodup)).2.2

theorem Partitioned.countP_remote (valid : t.Partitioned) {fromHome fromRemote : List Peer} (home : fromHome ⊆ t.home)
    (remote : fromRemote ⊆ t.remote) :
    (fromHome ++ fromRemote).countP (· ∈ t.remote) = fromRemote.length := by
  have early : fromHome.countP (· ∈ t.remote) = 0 := by
    apply List.countP_eq_zero.mpr
    intro peer member shared
    exact valid.apart (home member) (by simpa using shared)
  have late : fromRemote.countP (· ∈ t.remote) = fromRemote.length := by
    apply List.countP_eq_length.mpr
    intro peer member
    simpa using remote member
  rw [List.countP_append, early, late, Nat.zero_add]

end Lookup

theorem filter_of_map_nodup {peers : List Peer} (once : (peers.map Peer.host).Nodup) {peer : Peer}
    (member : peer ∈ peers) : peers.filter (·.host = peer.host) = [peer] := by
  induction peers with
  | nil => cases member
  | cons first rest ih =>
    obtain ⟨fresh, once⟩ := List.nodup_cons.mp (List.map_cons ▸ once)
    rcases List.mem_cons.mp member with rfl | later
    · have others : rest.filter (·.host = peer.host) = [] := by
        apply List.filter_eq_nil_iff.mpr
        intro other present same
        exact fresh (List.mem_map.mpr ⟨other, present, by simpa using same⟩)
      simp [others]
    · have differs : first.host ≠ peer.host := by
        intro same
        exact fresh (List.mem_map.mpr ⟨peer, later, same.symm⟩)
      simpa [differs] using ih once later

theorem group_regroup (t : Topology) (d e : Distance) (change : List Peer → List Peer) :
    (t.regroup d change).group e = if e = d then change (t.group e) else t.group e := by
  by_cases same : e = d
  · subst same; simp
  · simp [same, group_regroup_of_ne t same]

@[simp] theorem group_with_entries (t : Topology) (entries : List Entry) (d : Distance) :
    group { t with entries } d = t.group d := by
  cases d <;> rfl

theorem mem_without {host : HostId} {peers : List Peer} {peer : Peer} :
    peer ∈ without host peers ↔ peer ∈ peers ∧ peer.host ≠ host := by
  simp [without]

theorem without_of_absent {host : HostId} {peers : List Peer} (absent : ∀ peer ∈ peers, peer.host ≠ host) :
    without host peers = peers := by
  apply List.filter_eq_self.mpr
  intro peer member
  simpa using absent peer member

section Insert
variable {t : Topology} {peer : Peer} {d : Distance}

theorem entries_insert : (t.insert peer d).entries = t.entries ++ [⟨peer, d⟩] := by
  simp [insert]

theorem group_insert (e : Distance) :
    (t.insert peer d).group e = if e = d then t.group e ++ [peer] else t.group e := by
  simp [insert, group_regroup]

theorem insert_partitioned (valid : t.Partitioned) (absent : t.entry? peer.host = none) :
    (t.insert peer d).Partitioned := by
  have fresh := entry?_eq_none.mp absent
  have outside : ∀ e, ∀ other ∈ t.group e, other.host ≠ peer.host := by
    intro e other member
    exact fresh _ ((valid.mem_group e other).mp member)
  refine ⟨?_, ?_, ?_⟩
  · simp only [hosts, entries_insert, List.map_append]
    apply List.Nodup.append valid.hosts_nodup (List.nodup_singleton _)
    simpa [hosts, List.disjoint_singleton] using fresh
  · intro e
    rw [group_insert]
    split
    · rw [List.map_append]
      apply List.Nodup.append (valid.group_nodup e) (List.nodup_singleton _)
      simpa [List.disjoint_singleton] using outside e
    · exact valid.group_nodup e
  · intro e other
    rw [group_insert, entries_insert]
    by_cases same : e = d
    · subst same
      simp [valid.mem_group]
    · simp [same, valid.mem_group]

end Insert

section Erase
variable {t : Topology} {host : HostId}

theorem erase_of_absent (absent : t.entry? host = none) : t.erase host = t := by
  simp [erase, distance?, absent]

theorem mem_entries_erase {e : Entry} :
    e ∈ (t.erase host).entries ↔ e ∈ t.entries ∧ e.peer.host ≠ host := by
  cases found : t.entry? host with
  | none =>
    rw [erase_of_absent found]
    exact ⟨fun member => ⟨member, entry?_eq_none.mp found e member⟩, And.left⟩
  | some known => simp [erase, distance?, found]

theorem hosts_erase_sublist : (t.erase host).hosts.Sublist t.hosts := by
  cases found : t.entry? host with
  | none => rw [erase_of_absent found]
  | some known =>
    simp only [erase, distance?, found, hosts, Option.map_some, entries_regroup]
    exact List.filter_sublist.map _

-- A group other than that of the host has nothing to lose, so all groups change alike.
theorem group_erase (valid : t.Partitioned) (e : Distance) :
    (t.erase host).group e = without host (t.group e) := by
  cases found : t.entry? host with
  | none =>
    rw [erase_of_absent found, without_of_absent]
    intro peer member
    exact entry?_eq_none.mp found _ ((valid.mem_group e peer).mp member)
  | some known =>
    simp only [erase, distance?, found, Option.map_some, group_with_entries, group_regroup]
    split
    · rfl
    · rename_i other
      refine (without_of_absent ?_).symm
      intro peer member same
      exact other (valid.mem_group_entry? found member same).1

theorem erase_partitioned (valid : t.Partitioned) : (t.erase host).Partitioned := by
  refine ⟨valid.hosts_nodup.sublist hosts_erase_sublist, ?_, ?_⟩
  · intro d
    rw [group_erase valid]
    exact (valid.group_nodup d).sublist (List.filter_sublist.map _)
  · intro d peer
    rw [group_erase valid, mem_without, mem_entries_erase, valid.mem_group]

end Erase

section Relocate
variable {t : Topology} {host : HostId} {known : Entry} {d : Distance}

def moved (host : HostId) (d : Distance) (e : Entry) : Entry :=
  if e.peer.host = host then { e with distance := d } else e

@[simp] theorem peer_moved (e : Entry) : (moved host d e).peer = e.peer := by
  unfold moved; split <;> rfl

theorem mem_map_moved {entries : List Entry} {peer : Peer} {e : Distance} :
    ⟨peer, e⟩ ∈ entries.map (moved host d) ↔
      (⟨peer, e⟩ ∈ entries ∧ peer.host ≠ host) ∨ (e = d ∧ peer.host = host ∧ ∃ c, ⟨peer, c⟩ ∈ entries) := by
  constructor
  · intro member
    obtain ⟨⟨before, c⟩, present, result⟩ := List.mem_map.mp member
    unfold moved at result
    split at result
    · rename_i hit
      cases result
      exact .inr ⟨rfl, hit, c, present⟩
    · rename_i miss
      cases result
      exact .inl ⟨present, miss⟩
  · rintro (⟨present, miss⟩ | ⟨rfl, hit, c, present⟩)
    · exact List.mem_map.mpr ⟨_, present, by simp [moved, miss]⟩
    · exact List.mem_map.mpr ⟨_, present, by simp [moved, hit]⟩

theorem relocate_of_absent (absent : t.entry? host = none) : t.relocate host d = t := by
  simp [relocate, absent]

theorem relocate_of_same (found : t.entry? host = some known) (same : known.distance = d) :
    t.relocate host d = t := by
  simp [relocate, found, same]

theorem entries_relocate (valid : t.Partitioned) :
    (t.relocate host d).entries = t.entries.map (moved host d) := by
  have still : (∀ e ∈ t.entries, moved host d e = e) → t.entries = t.entries.map (moved host d) := by
    intro fixed
    exact ((List.map_congr_left fixed).trans (List.map_id' _)).symm
  cases found : t.entry? host with
  | none =>
    rw [relocate_of_absent found]
    refine still fun e member => ?_
    simp [moved, entry?_eq_none.mp found e member]
  | some known =>
    by_cases same : known.distance = d
    · rw [relocate_of_same found same]
      refine still fun e member => ?_
      unfold moved
      split
      · rename_i hit
        have equal := valid.entry_unique member (mem_of_found found) (hit.trans (host_of_found found).symm)
        subst equal; subst same; rfl
      · rfl
    · simp only [relocate, found, same, if_false, entries_regroup]
      rfl

theorem group_relocate (found : t.entry? host = some known) (other : known.distance ≠ d) (e : Distance) :
    (t.relocate host d).group e =
      if e = d then t.group e ++ [known.peer]
      else if e = known.distance then without host (t.group e)
      else t.group e := by
  simp only [relocate, found, other, if_false, group_with_entries, group_regroup]
  by_cases target : e = d
  · subst target
    simp [Ne.symm other]
  · simp [target]

theorem relocate_partitioned (valid : t.Partitioned) : (t.relocate host d).Partitioned := by
  cases found : t.entry? host with
  | none => rwa [relocate_of_absent found]
  | some known =>
    by_cases same : known.distance = d
    · rwa [relocate_of_same found same]
    · have away : ∀ peer ∈ t.group d, peer.host ≠ host := by
        intro peer member hit
        exact same (valid.mem_group_entry? found member hit).1.symm
      refine ⟨?_, ?_, ?_⟩
      · simpa [hosts, entries_relocate valid, Function.comp_def] using valid.hosts_nodup
      · intro e
        rw [group_relocate found same]
        split
        · rename_i target
          subst target
          rw [List.map_append]
          apply List.Nodup.append (valid.group_nodup e) (List.nodup_singleton _)
          simpa [List.disjoint_singleton, host_of_found found] using away
        · split
          · exact (valid.group_nodup e).sublist (List.filter_sublist.map _)
          · exact valid.group_nodup e
      · intro e peer
        have whole : (peer.host = host ∧ ∃ c, ⟨peer, c⟩ ∈ t.entries) ↔ peer = known.peer := by
          constructor
          · rintro ⟨hit, c, present⟩
            exact (valid.mem_group_entry? found ((valid.mem_group c peer).mpr present) hit).2
          · rintro rfl
            exact ⟨host_of_found found, known.distance, mem_of_found found⟩
        rw [entries_relocate valid, mem_map_moved, whole, ← valid.mem_group, group_relocate found same]
        split
        · rename_i target
          subst target
          simp only [List.mem_append, List.mem_singleton, true_and]
          exact or_congr_left ⟨fun member => ⟨member, away peer member⟩, And.left⟩
        · rename_i target
          simp only [target, false_and, or_false]
          split
          · exact mem_without
          · rename_i elsewhere
            refine ⟨fun member => ⟨member, fun hit => ?_⟩, And.left⟩
            exact elsewhere (valid.mem_group_entry? found member hit).1

end Relocate

end ClusterRouting.Topology
