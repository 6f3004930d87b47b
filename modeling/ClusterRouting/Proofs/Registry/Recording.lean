import ClusterRouting.Proofs.Registry.Records

namespace ClusterRouting

namespace Topology

section Others
variable {t : Topology} {host : HostId} {known : Entry} {d : Distance}

theorem without_append (host : HostId) (first second : List Peer) :
    without host (first ++ second) = without host first ++ without host second := List.filter_append ..

theorem without_without (host : HostId) (peers : List Peer) :
    without host (without host peers) = without host peers := by
  simp [without]

theorem without_self (peer : Peer) : without peer.host [peer] = [] := by simp [without]

theorem group_moved (valid : t.Partitioned) (found : t.entry? host = some known) (other : known.distance ≠ d)
    (e : Distance) :
    (t.relocate host d).group e = without host (t.group e) ++ if e = d then [known.peer] else [] := by
  have away : e ≠ known.distance → without host (t.group e) = t.group e := by
    intro elsewhere
    refine without_of_absent fun peer member same => elsewhere ?_
    exact (valid.mem_group_entry? found member same).1
  rw [group_relocate found other]
  split
  · rename_i target
    rw [away (target.trans_ne (Ne.symm other))]
  · split
    · rw [List.append_nil]
    · rename_i elsewhere
      rw [away elsewhere, List.append_nil]

theorem without_group_insert (t : Topology) (peer : Peer) (d e : Distance) :
    without peer.host ((t.insert peer d).group e) = without peer.host (t.group e) := by
  rw [group_insert]
  split
  · rw [without_append, without_self, List.append_nil]
  · rfl

theorem without_group_relocate (valid : t.Partitioned) (e : Distance) :
    without host ((t.relocate host d).group e) = without host (t.group e) := by
  cases found : t.entry? host with
  | none => rw [relocate_of_absent found]
  | some known =>
    by_cases same : known.distance = d
    · rw [relocate_of_same found same]
    · have named := host_of_found found
      rw [group_moved valid found same, without_append, without_without]
      split
      · rw [← named, without_self, List.append_nil]
      · exact List.append_nil _

end Others

end Topology

namespace Registry

-- Recording with an evaluator that may do more than decide.
def upsertIn {m : Type → Type} [Monad m] (r : Registry) (d : Descriptor) (evaluate : Descriptor → m Distance) :
    m (Upsert × Registry) :=
  match r.novelty d with
  | .same peer => pure (.unchanged peer, r)
  | .refreshed peer => pure (.updated peer, r.replaceDescriptor peer d)
  | .newcomer => do
    let current ← evaluate d
    let (peer, next) := r.enter d current
    return (.created peer current, next)
  | .moved peer => do
    let current ← evaluate d
    let previous := (r.distance? d.host).getD current
    return (.relocated peer previous current, (r.replaceDescriptor peer d).place peer current)

theorem upsertIn_except (r : Registry) (d : Descriptor) (evaluate : Descriptor → Except Fault Distance) :
    r.upsertIn d evaluate = r.upsert d evaluate := by
  unfold upsertIn upsert
  cases r.novelty d with
  | same | refreshed => rfl
  | newcomer | moved => cases evaluate d <;> rfl

def Upsert.asked : Upsert → Bool
  | created .. | relocated .. => true
  | updated _ | unchanged _ => false

-- The evaluator is asked once, about this descriptor, or not at all.
theorem upsertIn_run {σ : Type} (r : Registry) (d : Descriptor) (evaluate : Descriptor → StateM σ Distance) (own : σ) :
    ∃ outcome next,
      (r.upsertIn d evaluate).run own = ((outcome, next), if outcome.asked then ((evaluate d).run own).2 else own) ∧
      r.upsert d (fun _ => .ok ((evaluate d).run own).1) = .ok (outcome, next) := by
  unfold upsertIn upsert
  cases r.novelty d with
  | same peer => exact ⟨_, _, rfl, rfl⟩
  | refreshed peer => exact ⟨_, _, rfl, rfl⟩
  | newcomer => exact ⟨_, _, rfl, rfl⟩
  | moved peer => exact ⟨_, _, rfl, rfl⟩

-- What a change for one host leaves as it was: what is known of the others, the order in which they stand in their
-- groups, and every other record, also of nodes that are known no more.
structure Spares (r next : Registry) (host : HostId) (peer : Peer) : Prop where
  found : ∀ other, other ≠ host → next.find? other = r.find? other
  order : ∀ d, Topology.without host (next.topology.group d) = Topology.without host (r.topology.group d)
  records : ∀ other, other.serial < r.nodes.size → other.serial ≠ peer.serial → next.node? other = r.node? other

section Spares
variable {r middle next : Registry} {host : HostId} {peer : Peer} {node : Node}

theorem Spares.refl (r : Registry) (host : HostId) (peer : Peer) : r.Spares r host peer :=
  ⟨fun _ _ => rfl, fun _ => rfl, fun _ _ _ => rfl⟩

theorem Spares.trans (first : r.Spares middle host peer) (second : middle.Spares next host peer)
    (larger : r.nodes.size ≤ middle.nodes.size) : r.Spares next host peer := by
  refine ⟨?_, ?_, ?_⟩
  · intro other differ
    exact (second.found other differ).trans (first.found other differ)
  · intro d
    exact (second.order d).trans (first.order d)
  · intro other old apart
    exact (second.records other (Nat.lt_of_lt_of_le old larger) apart).trans (first.records other old apart)

theorem amend_spares (valid : r.Coherent) (found : r.find? host = some (peer, node)) (change : Node → Node) :
    r.Spares (r.amend peer change) host peer := by
  refine ⟨?_, fun _ => rfl, ?_⟩
  · intro other differ
    rw [find?_amend valid found, if_neg differ]
  · intro other _ apart
    rw [node?_amend, if_neg (Ne.symm apart)]

theorem place_spares (valid : r.Coherent) (found : r.find? host = some (peer, node)) (d : Distance) :
    r.Spares (r.place peer d) host peer := by
  have named : peer.host = host := find?_host found
  have amended := amend_spares valid found fun node => { node with distance := d }
  refine ⟨?_, ?_, amended.records⟩
  · intro other differ
    rw [find?_place valid found, if_neg differ]
  · intro e
    rw [← named]
    exact Topology.without_group_relocate valid.partitioned e

theorem enter_spares (valid : r.Coherent) {d : Descriptor} {distance : Distance} (unknown : r.find? d.host = none) :
    r.Spares (r.enter d distance).2 d.host (r.enter d distance).1 := by
  let peer : Peer := ⟨d.host, r.nodes.size⟩
  have order : ∀ e, Topology.without d.host ((r.topology.insert peer distance).group e) =
      Topology.without d.host (r.topology.group e) := Topology.without_group_insert r.topology peer distance
  refine ⟨?_, order, ?_⟩
  · intro other differ
    rw [find?_enter valid unknown, if_neg differ]
  · intro other old _
    rw [node?_enter, if_neg (Nat.ne_of_lt old)]

end Spares

-- What the answer says of the registry before the call. Absent and empty labels differ.
structure Upsert.Reports (outcome : Upsert) (r : Registry) (d : Descriptor) (decided : Distance) : Prop where
  created : (∃ peer distance, outcome = .created peer distance) ↔ r.find? d.host = none
  unchanged : (∃ peer, outcome = .unchanged peer) ↔
    ∃ peer node, r.find? d.host = some (peer, node) ∧ node.descriptor = d
  updated : (∃ peer, outcome = .updated peer) ↔
    ∃ peer node, r.find? d.host = some (peer, node) ∧ node.descriptor ≠ d ∧ node.descriptor.datacenter = d.datacenter
  relocated : (∃ peer previous current, outcome = .relocated peer previous current) ↔
    ∃ peer node, r.find? d.host = some (peer, node) ∧ node.descriptor.datacenter ≠ d.datacenter
  -- the distance before the call is never made up
  distances : ∀ peer previous current, outcome = .relocated peer previous current →
    r.distance? d.host = some previous ∧ current = decided
  entered : ∀ peer distance, outcome = .created peer distance → distance = decided
  known : ∀ peer node, r.find? d.host = some (peer, node) → outcome.peer = peer

def Node.recorded (known : Option Node) (d : Descriptor) (decided : Distance) : Node :=
  match known with
  | none => .fresh d decided
  | some node =>
    { node with
      descriptor := d
      distance := if node.descriptor.datacenter = d.datacenter then node.distance else decided }

structure Recorded (r : Registry) (d : Descriptor) (decided : Distance) (outcome : Upsert) (next : Registry) : Prop where
  reports : outcome.Reports r d decided
  found : next.find? d.host = some (outcome.peer, Node.recorded ((r.find? d.host).map Prod.snd) d decided)
  placed : next.distance? d.host = some (Node.recorded ((r.find? d.host).map Prod.snd) d decided).distance
  -- a node that stays at its distance keeps its place among the others
  stays : r.distance? d.host = next.distance? d.host → next.topology = r.topology
  spares : r.Spares next d.host outcome.peer

section Recording
variable {r next : Registry} {d : Descriptor} {decided : Distance} {outcome : Upsert} {peer : Peer} {node : Node}

theorem same_recorded (valid : r.Coherent) (found : r.find? d.host = some (peer, node)) (same : node.descriptor = d) :
    r.Recorded d decided (.unchanged peer) r := by
  subst same
  refine ⟨⟨?_, ?_, ?_, ?_, ?_, ?_, ?_⟩, ?_, ?_, fun _ => rfl, .refl r _ _⟩
  · simp [found]
  · simp [found]
  · simp [found]
  · simp [found]
  · simp
  · simp
  · intro other _ known
    cases found.symm.trans known
    rfl
  · simp [found, Node.recorded, Upsert.peer]
  · simp [valid.distance?_eq, found, Node.recorded]

theorem replaceDescriptor_recorded (valid : r.Coherent) (found : r.find? d.host = some (peer, node))
    (differs : node.descriptor ≠ d) (near : node.descriptor.datacenter = d.datacenter) :
    r.Recorded d decided (.updated peer) (r.replaceDescriptor peer d) := by
  refine ⟨⟨?_, ?_, ?_, ?_, ?_, ?_, ?_⟩, ?_, ?_, fun _ => rfl, amend_spares valid found _⟩
  · simp [found]
  · simp [found, differs]
  · simp [found, differs, near]
  · simp [found, near]
  · simp
  · simp
  · intro other _ known
    cases found.symm.trans known
    rfl
  · rw [replaceDescriptor, find?_amend valid found, if_pos rfl]
    simp [found, near, Node.recorded, Upsert.peer]
  · have kept : (r.replaceDescriptor peer d).distance? d.host = r.distance? d.host := rfl
    simp [kept, valid.distance?_eq, found, near, Node.recorded]

theorem enter_recorded (valid : r.Coherent) (unknown : r.find? d.host = none) :
    r.Recorded d decided (.created (r.enter d decided).1 decided) (r.enter d decided).2 := by
  have shown : (r.enter d decided).2.find? d.host = some ((r.enter d decided).1, .fresh d decided) := by
    rw [find?_enter valid unknown, if_pos rfl]
  have placed : (r.enter d decided).2.distance? d.host = some decided := by
    rw [(enter_coherent valid unknown).distance?_eq, shown]
    rfl
  refine ⟨⟨?_, ?_, ?_, ?_, ?_, ?_, ?_⟩, ?_, ?_, fun same => ?_, enter_spares valid unknown⟩
  · simp [unknown]
  · simp [unknown]
  · simp [unknown]
  · simp [unknown]
  · simp
  · intro peer distance same
    cases same
    rfl
  · simp [unknown]
  · simp [shown, unknown, Node.recorded, Upsert.peer]
  · simp [placed, unknown, Node.recorded, Node.fresh]
  · -- a newcomer had no distance before
    rw [placed, valid.distance?_eq, unknown] at same
    cases same

theorem move_recorded (valid : r.Coherent) (found : r.find? d.host = some (peer, node))
    (far : node.descriptor.datacenter ≠ d.datacenter) :
    r.Recorded d decided (.relocated peer ((r.distance? d.host).getD decided) decided)
      ((r.replaceDescriptor peer d).place peer decided) := by
  have before : r.distance? d.host = some node.distance := by rw [valid.distance?_eq, found]; rfl
  have middle : (r.replaceDescriptor peer d).Coherent := change_coherent valid (.described found)
  have described : (r.replaceDescriptor peer d).find? d.host = some (peer, { node with descriptor := d }) := by
    rw [replaceDescriptor, find?_amend valid found, if_pos rfl]
  have shown := find?_place middle described decided d.host
  rw [if_pos rfl] at shown
  have moved : Change (r.replaceDescriptor peer d) ((r.replaceDescriptor peer d).place peer decided) :=
    .placed (find?_eq_some.mp described).1
  have placed : ((r.replaceDescriptor peer d).place peer decided).distance? d.host = some decided := by
    rw [(change_coherent middle moved).distance?_eq, shown]
    rfl
  have larger : r.nodes.size ≤ (r.replaceDescriptor peer d).nodes.size := change_nodes_size (.described found)
  refine ⟨⟨?_, ?_, ?_, ?_, ?_, ?_, ?_⟩, ?_, ?_, fun same => ?_,
    (amend_spares valid found _).trans (place_spares middle described decided) larger⟩
  · simp [found]
  · have differs : node.descriptor ≠ d := fun same => far (congrArg _ same)
    simp [found, differs]
  · simp [found, far]
  · simp [found, far]
  · intro _ previous current same
    cases same
    exact ⟨by simp [before], rfl⟩
  · simp
  · intro other _ known
    cases found.symm.trans known
    rfl
  · simp [shown, found, far, Node.recorded, Upsert.peer]
  · simp [placed, found, far, Node.recorded]
  · rw [before, placed] at same
    cases same
    obtain ⟨entered, _⟩ := valid.entered found
    have named : peer.host = d.host := find?_host found
    exact Topology.relocate_of_same (named ▸ entered) rfl

theorem upsert_recorded (valid : r.Coherent) (done : r.upsert d (fun _ => .ok decided) = .ok (outcome, next)) :
    r.Recorded d decided outcome next := by
  have exact := novelty_exact r d
  unfold upsert at done
  cases novel : r.novelty d with
  | same peer =>
    simp only [novel] at exact done
    obtain ⟨node, found, same⟩ := exact
    cases done
    exact same_recorded valid found same
  | refreshed peer =>
    simp only [novel] at exact done
    obtain ⟨node, found, differs, near⟩ := exact
    cases done
    exact replaceDescriptor_recorded valid found differs near
  | newcomer =>
    simp only [novel] at exact done
    cases done
    exact enter_recorded valid exact
  | moved peer =>
    simp only [novel] at exact done
    obtain ⟨node, found, far⟩ := exact
    cases done
    exact move_recorded valid found far

end Recording

-- The evaluator may keep something of its own and answer by it. What it keeps at the end shows how often it was asked.
theorem upsert_does_as_it_says {σ : Type} (writes : List Write) (d : Descriptor)
    (evaluate : Descriptor → StateM σ Distance) (own : σ) :
    let r := empty.run writes
    let decided := ((evaluate d).run own).1
    (∀ ask : Descriptor → Except Fault Distance, r.upsertIn d ask = r.upsert d ask) ∧
      ∃ outcome next,
        (r.upsertIn d evaluate).run own = ((outcome, next), if outcome.asked then ((evaluate d).run own).2 else own) ∧
        r.upsert d (fun _ => .ok decided) = .ok (outcome, next) ∧ r.Recorded d decided outcome next ∧
        ∀ other, other ≠ d.host → next.distance? other = r.distance? other := by
  intro r decided
  have valid : r.Coherent := run_coherent empty_coherent writes
  obtain ⟨outcome, next, run, done⟩ := upsertIn_run r d evaluate own
  have recorded := upsert_recorded valid done
  refine ⟨upsertIn_except r d, outcome, next, run, done, recorded, ?_⟩
  intro other differ
  rw [(changes_coherent valid (upsert_changes done)).distance?_eq, valid.distance?_eq, recorded.spares.found other differ]

end Registry
end ClusterRouting
