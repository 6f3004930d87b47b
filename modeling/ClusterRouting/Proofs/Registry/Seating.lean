import ClusterRouting.Proofs.Registry.Recording

namespace ClusterRouting

structure Seat where
  host : HostId
  -- a known node that reports another one is evaluated again
  datacenter : Option String
  distance : Distance
deriving DecidableEq

namespace Seat

def find? (seats : List Seat) (host : HostId) : Option Seat := List.find? (·.host = host) seats

def without (host : HostId) (seats : List Seat) : List Seat := seats.filter (·.host ≠ host)

-- Whoever gets another distance goes to the end. The same one moves nobody.
def place (seats : List Seat) (host : HostId) (d : Distance) : List Seat :=
  match find? seats host with
  | none => seats
  | some seat => if seat.distance = d then seats else without host seats ++ [{ seat with distance := d }]

def relabel (seats : List Seat) (host : HostId) (datacenter : Option String) : List Seat :=
  seats.map fun seat => if seat.host = host then { seat with datacenter } else seat

def follow (seats : List Seat) : Registry.Write → List Seat
  | .upsert d evaluation =>
    match find? seats d.host, evaluation.verdict with
    | none, .ok decided => seats ++ [⟨d.host, d.datacenter, decided⟩]
    | none, .error _ => seats
    | some seat, verdict =>
      if seat.datacenter = d.datacenter then seats
      else
        match verdict with
        | .ok decided => place (relabel seats d.host d.datacenter) d.host decided
        | .error _ => seats
  | .remove host => without host seats
  | .setDistance host d => place seats host d
  | .setHealth .. => seats

def ofHistory (writes : List Registry.Write) : List Seat := writes.foldl follow []

section Lists
variable {seats : List Seat} {host other : HostId} {seat : Seat} {d e : Distance}

theorem find?_host (found : find? seats host = some seat) : seat.host = host := by
  simpa using List.find?_some found

theorem find?_append (seats : List Seat) (seat : Seat) (other : HostId) :
    find? (seats ++ [seat]) other = (find? seats other).or (if seat.host = other then some seat else none) := by
  simp only [find?, List.find?_append, List.find?_singleton, decide_eq_true_eq]

theorem find?_without (seats : List Seat) (host other : HostId) :
    find? (without host seats) other = if other = host then none else find? seats other := by
  simp only [find?, without, List.find?_filter]
  split
  · rename_i same
    simp [same]
  · rename_i differ
    congr 1
    funext seat
    by_cases hit : seat.host = other
    · simp [hit, differ]
    · simp [hit]

theorem find?_relabel (seats : List Seat) (host : HostId) (datacenter : Option String) (other : HostId) :
    find? (relabel seats host datacenter) other =
      (find? seats other).map fun seat => if other = host then { seat with datacenter } else seat := by
  have kept : ∀ seat : Seat, (if seat.host = host then { seat with datacenter } else seat).host = seat.host := by
    intro seat
    split <;> rfl
  have mapped : find? (relabel seats host datacenter) other =
      (find? seats other).map fun seat => if seat.host = host then { seat with datacenter } else seat := by
    simp only [find?, relabel, List.find?_map, Function.comp_def, kept]
  rw [mapped]
  cases found : find? seats other with
  | none => rfl
  | some seat => simp [find?_host found]

theorem find?_place (seats : List Seat) (host : HostId) (d : Distance) (other : HostId) :
    find? (place seats host d) other =
      (find? seats other).map fun seat => if other = host then { seat with distance := d } else seat := by
  unfold place
  cases found : find? seats host with
  | none =>
    by_cases same : other = host
    · simp [same, found]
    · simp [same]
  | some seat =>
    by_cases still : seat.distance = d
    · by_cases same : other = host
      · simp [same, found, ← still]
      · simp [same, still]
    · simp only [still, if_false, find?_append, find?_without]
      by_cases same : other = host
      · simp [same, found, find?_host found]
      · have apart : seat.host ≠ other := fun hit => same (hit.symm.trans (find?_host found))
        simp [same, apart]

theorem without_of_absent (absent : find? seats host = none) : without host seats = seats := by
  refine List.filter_eq_self.mpr fun seat member => ?_
  simpa using List.find?_eq_none.mp absent seat member

def listed (seats : List Seat) (d : Distance) : List HostId := (seats.filter (·.distance = d)).map Seat.host

theorem listed_append (seats : List Seat) (seat : Seat) (d : Distance) :
    listed (seats ++ [seat]) d = listed seats d ++ if seat.distance = d then [seat.host] else [] := by
  by_cases same : seat.distance = d <;> simp [listed, same]

theorem listed_without (seats : List Seat) (host : HostId) (d : Distance) :
    listed (without host seats) d = (listed seats d).filter (· ≠ host) := by
  simp only [listed, without, List.filter_map, List.filter_filter, Function.comp_def]
  congr 2
  funext seat
  exact Bool.and_comm ..

theorem listed_relabel (seats : List Seat) (host : HostId) (datacenter : Option String) (d : Distance) :
    listed (relabel seats host datacenter) d = listed seats d := by
  have kept : ∀ seat : Seat, (if seat.host = host then { seat with datacenter } else seat).host = seat.host ∧
      (if seat.host = host then { seat with datacenter } else seat).distance = seat.distance := by
    intro seat
    split <;> exact ⟨rfl, rfl⟩
  simp only [listed, relabel, List.filter_map, List.map_map, Function.comp_def, kept]

end Lists

end Seat

namespace Registry

def seatOf (host : HostId) (known : Peer × Node) : Seat := ⟨host, known.2.descriptor.datacenter, known.2.distance⟩

-- The list knows what the registry knows of each host, and lists each group in its order.
structure Seated (r : Registry) (seats : List Seat) : Prop where
  known : ∀ host, Seat.find? seats host = (r.find? host).map (seatOf host)
  order : ∀ d, (r.topology.group d).map Peer.host = Seat.listed seats d

theorem empty_seated : Seated .empty [] := by
  refine ⟨fun _ => rfl, fun d => ?_⟩
  cases d <;> rfl

theorem map_host_without (host : HostId) (peers : List Peer) :
    (Topology.without host peers).map Peer.host = (peers.map Peer.host).filter (· ≠ host) := by
  simp only [Topology.without, List.filter_map, Function.comp_def]

section Seated
variable {r next : Registry} {seats : List Seat} {host : HostId} {peer : Peer} {node : Node} {d : Descriptor}

theorem Seated.found (seated : r.Seated seats) (found : r.find? host = some (peer, node)) :
    Seat.find? seats host = some (seatOf host (peer, node)) := by
  rw [seated.known, found]
  rfl

theorem Seated.enter (seated : r.Seated seats) (valid : r.Coherent) (unknown : r.find? d.host = none)
    (decided : Distance) : (r.enter d decided).2.Seated (seats ++ [⟨d.host, d.datacenter, decided⟩]) := by
  refine ⟨fun other => ?_, fun e => ?_⟩
  · rw [Seat.find?_append, seated.known, find?_enter valid unknown]
    by_cases same : other = d.host
    · subst same
      simp [unknown, seatOf, Node.fresh]
    · simp [same, Ne.symm same]
  · have entered : (r.enter d decided).2.topology.group e =
        if e = decided then r.topology.group e ++ [⟨d.host, r.nodes.size⟩] else r.topology.group e :=
      Topology.group_insert e
    rw [entered, Seat.listed_append, ← seated.order]
    by_cases same : e = decided
    · simp [same]
    · simp [same, Ne.symm same]

-- A changed record asks for no more than a list that knows of the change and keeps its order.
theorem Seated.amend {later : List Seat} (seated : r.Seated seats) (valid : r.Coherent)
    (found : r.find? host = some (peer, node)) (change : Node → Node)
    (order : ∀ d, Seat.listed later d = Seat.listed seats d)
    (known : ∀ other, Seat.find? later other =
      if other = host then some (seatOf host (peer, change node)) else Seat.find? seats other) :
    (r.amend peer change).Seated later := by
  refine ⟨fun other => ?_, fun e => (seated.order e).trans (order e).symm⟩
  rw [known, seated.known, find?_amend valid found]
  by_cases same : other = host <;> simp [same]

theorem Seated.unmoved (seated : r.Seated seats) (valid : r.Coherent) (found : r.find? host = some (peer, node))
    {change : Node → Node} (kept : seatOf host (peer, change node) = seatOf host (peer, node)) :
    (r.amend peer change).Seated seats := by
  refine seated.amend valid found change (fun _ => rfl) fun other => ?_
  split
  · rename_i same
    rw [same, kept, seated.found found]
  · rfl

theorem Seated.relabel (seated : r.Seated seats) (valid : r.Coherent) (found : r.find? d.host = some (peer, node)) :
    (r.replaceDescriptor peer d).Seated (Seat.relabel seats d.host d.datacenter) := by
  refine seated.amend valid found _ (Seat.listed_relabel seats d.host d.datacenter) fun other => ?_
  rw [Seat.find?_relabel]
  by_cases same : other = d.host
  · simp [same, seated.found found, seatOf]
  · simp [same]

theorem Seated.place (seated : r.Seated seats) (valid : r.Coherent) (found : r.find? host = some (peer, node))
    (decided : Distance) : (r.place peer decided).Seated (Seat.place seats host decided) := by
  obtain ⟨entered, _⟩ := valid.entered found
  have named : peer.host = host := find?_host found
  refine ⟨fun other => ?_, fun e => ?_⟩
  · rw [Seat.find?_place, seated.known, Registry.find?_place valid found]
    by_cases same : other = host
    · subst same
      simp [found, seatOf]
    · simp [same, Function.comp_def]
  · have grouped : (r.place peer decided).topology.group e = (r.topology.relocate host decided).group e := by
      rw [← named]
      rfl
    rw [grouped, Seat.place, seated.found found]
    by_cases still : node.distance = decided
    · rw [Topology.relocate_of_same entered still]
      simpa [seatOf, still] using seated.order e
    · rw [Topology.group_moved valid.partitioned entered still]
      simp only [seatOf, still, if_false, Seat.listed_append, Seat.listed_without, List.map_append, map_host_without,
        seated.order]
      congr 1
      by_cases same : e = decided
      · simp [same, named]
      · simp [same, Ne.symm same]

theorem Seated.drop (seated : r.Seated seats) (valid : r.Coherent) (known : r.peer? host = some peer)
    (change : Node → Node) :
    Seated { r.amend peer change with topology := r.topology.erase host } (Seat.without host seats) := by
  refine ⟨fun other => ?_, fun e => ?_⟩
  · rw [Seat.find?_without, seated.known, find?_drop valid known]
    split <;> rfl
  · have grouped : Topology.group (r.topology.erase host) e = Topology.without host (r.topology.group e) :=
      Topology.group_erase valid.partitioned e
    rw [grouped, map_host_without, Seat.listed_without, seated.order]

theorem Seated.treat (seated : r.Seated seats) (valid : r.Coherent) (treatment : HostId × Health) :
    (r.treat treatment).Seated seats := by
  obtain ⟨host, health⟩ := treatment
  unfold Registry.treat setHealth
  cases found : r.find? host with
  | none => exact seated
  | some known =>
    obtain ⟨peer, node⟩ := known
    exact seated.unmoved valid found rfl

theorem Seated.treats (seated : r.Seated seats) (valid : r.Coherent) (treatments : List (HostId × Health)) :
    (treatments.foldl Registry.treat r).Seated seats := by
  induction treatments generalizing r with
  | nil => exact seated
  | cons first later ih => exact ih (seated.treat valid first) (changes_coherent valid (treat_changes first))

theorem Seated.upsert (seated : r.Seated seats) (valid : r.Coherent) (d : Descriptor) (evaluation : Evaluation) :
    (r.after (r.upsert d fun _ => evaluation.verdict)).Seated (Seat.follow seats (.upsert d evaluation)) := by
  have exact := novelty_exact r d
  unfold Registry.upsert Seat.follow
  cases novel : r.novelty d with
  | newcomer =>
    simp only [novel] at exact ⊢
    have absent : Seat.find? seats d.host = none := by rw [seated.known, exact]; rfl
    cases evaluation.verdict with
    | error fault => simpa [absent, Registry.after] using seated
    | ok decided => simpa [absent, Registry.after] using seated.enter valid exact decided
  | same peer =>
    simp only [novel] at exact ⊢
    obtain ⟨node, found, same⟩ := exact
    simpa [seated.found found, seatOf, same, Registry.after] using seated
  | refreshed peer =>
    simp only [novel] at exact ⊢
    obtain ⟨node, found, _, near⟩ := exact
    have kept : seatOf d.host (peer, { node with descriptor := d }) = seatOf d.host (peer, node) := by
      simp [seatOf, near]
    simpa [seated.found found, seatOf, near, Registry.after, replaceDescriptor] using seated.unmoved valid found kept
  | moved peer =>
    simp only [novel] at exact ⊢
    obtain ⟨node, found, far⟩ := exact
    cases evaluation.verdict with
    | error fault => simpa [seated.found found, seatOf, far, Registry.after] using seated
    | ok decided =>
      have described : (r.replaceDescriptor peer d).find? d.host = some (peer, { node with descriptor := d }) := by
        rw [replaceDescriptor, find?_amend valid found, if_pos rfl]
      have middle : (r.replaceDescriptor peer d).Coherent := change_coherent valid (.described found)
      have moved := (seated.relabel valid found).place middle described decided
      simpa [seated.found found, seatOf, far, Registry.after] using moved

theorem Seated.remove (seated : r.Seated seats) (valid : r.Coherent) (host : HostId) :
    (((r.remove host).map Prod.snd).getD r).Seated (Seat.without host seats) := by
  unfold Registry.remove
  cases known : r.peer? host with
  | some peer => exact seated.drop valid known _
  | none =>
    have absent : Seat.find? seats host = none := by rw [seated.known, valid.find?_eq_none.mpr known]; rfl
    rw [Seat.without_of_absent absent]
    exact seated

theorem Seated.setDistance (seated : r.Seated seats) (valid : r.Coherent) (host : HostId) (decided : Distance) :
    (r.after (r.setDistance host decided)).Seated (Seat.place seats host decided) := by
  unfold Registry.setDistance
  cases entered : r.topology.entry? host with
  | none =>
    have absent : Seat.find? seats host = none := by
      rw [seated.known, valid.find?_eq_none.mpr (by simp [peer?, Topology.peer?, entered])]
      rfl
    simpa [Seat.place, absent, Registry.after] using seated
  | some known =>
    obtain ⟨node, found⟩ := valid.find?_of_peer? (peer?_of_entered entered)
    have whole := entered.symm.trans (valid.entered found).1
    have placed := seated.place valid found decided
    by_cases still : known.distance = decided
    · have same : node.distance = decided := by
        rw [← still, Option.some.inj whole]
      simpa [Seat.place, seated.found found, seatOf, same, still, Registry.after] using seated
    · simpa [still, Registry.after] using placed

theorem Seated.apply (seated : r.Seated seats) (valid : r.Coherent) (write : Write) :
    (write.apply r).Seated (Seat.follow seats write) := by
  cases write with
  | upsert d evaluation =>
    simp only [Write.apply]
    split
    · exact (seated.treats valid _).upsert (changes_coherent valid (foldl_treat_changes r _)) d evaluation
    · exact seated.upsert valid d evaluation
  | remove host => exact seated.remove valid host
  | setDistance host decided => exact seated.setDistance valid host decided
  | setHealth host health => exact seated.treat valid (host, health)

theorem Seated.run (seated : r.Seated seats) (valid : r.Coherent) (writes : List Write) :
    (r.run writes).Seated (writes.foldl Seat.follow seats) := by
  induction writes generalizing r seats with
  | nil => exact seated
  | cons write later ih => exact ih (seated.apply valid write) (changes_coherent valid (apply_changes r write))

theorem Coherent.group_found (valid : r.Coherent) (e : Distance) :
    ((r.topology.group e).map Peer.host).filterMap r.peer? = r.topology.group e := by
  have known : ∀ peer ∈ r.topology.group e, (r.peer? ∘ Peer.host) peer = some peer := by
    intro peer member
    have entered := valid.partitioned.entry?_of_mem ((valid.partitioned.mem_group e peer).mp member)
    simp [peer?, Topology.peer?, entered]
  rw [List.filterMap_map, List.filterMap_congr known, List.filterMap_some]

end Seated

-- Writes may be refused, and evaluators may break off.
theorem groups_in_order_of_entry (writes : List Write) :
    let r := empty.run writes
    let seats := Seat.ofHistory writes
    (∀ d, r.topology.group d = (seats.filter (·.distance = d)).filterMap fun seat => r.peer? seat.host) ∧
      (∀ d, (r.topology.group d).map Peer.host = (seats.filter (·.distance = d)).map Seat.host) ∧
      ∀ host, r.distance? host = (Seat.find? seats host).map Seat.distance := by
  intro r seats
  have valid : r.Coherent := run_coherent empty_coherent writes
  have seated : r.Seated seats := empty_seated.run empty_coherent writes
  refine ⟨fun d => ?_, seated.order, fun host => ?_⟩
  · rw [← valid.group_found d, seated.order, Seat.listed, List.filterMap_map]
    rfl
  · rw [valid.distance?_eq, seated.known, Option.map_map]
    rfl

end Registry
end ClusterRouting
