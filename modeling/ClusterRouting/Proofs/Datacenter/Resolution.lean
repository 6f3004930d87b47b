import ClusterRouting.Proofs.Coordinator.Failures
import ClusterRouting.Proofs.Coordinator.Lifecycle
import Mathlib.Data.Finset.Card
import Mathlib.Data.Finset.Dedup
import Mathlib.Data.List.Sort

namespace ClusterRouting
namespace Datacenter

section Octets

def octets (label : String) : List UInt8 := label.toUTF8.data.toList

theorem octets_eq (label : String) : octets label = label.toList.flatMap String.utf8EncodeChar := by
  rw [octets, String.toUTF8_eq_toByteArray, ← String.utf8Encode_toList, List.utf8Encode]
  simp

theorem digits_lt {a b : Nat} (less : a < b) : a / 64 < b / 64 ∨ a / 64 = b / 64 ∧ a % 64 < b % 64 := by
  omega

-- The first octet in which two characters differ is smaller for the smaller one, also where one takes more octets.
theorem encode_lt {first second : Char} (less : first < second) (one other : List UInt8) :
    String.utf8EncodeChar first ++ one < String.utf8EncodeChar second ++ other := by
  have below : first.val.toNat < second.val.toNat := less
  have bounded : second.val.toNat < 0x110000 := by
    rcases second.valid with low | ⟨_, high⟩
    · exact Nat.lt_trans low (by decide)
    · exact high
  have compare : ∀ {a b : Nat}, a < 256 → b < 256 →
      (UInt8.ofNat a < .ofNat b ↔ a < b) ∧ (UInt8.ofNat a = .ofNat b ↔ a = b) := by
    intro a b small little
    constructor
    · rw [UInt8.lt_iff_toNat_lt, UInt8.toNat_ofNat', UInt8.toNat_ofNat', Nat.mod_eq_of_lt small,
        Nat.mod_eq_of_lt little]
    · rw [← UInt8.toNat_inj, UInt8.toNat_ofNat', UInt8.toNat_ofNat', Nat.mod_eq_of_lt small, Nat.mod_eq_of_lt little]
  unfold String.utf8EncodeChar
  generalize first.val.toNat = a at *
  generalize second.val.toNat = b at *
  have fourth := digits_lt below
  have third := @digits_lt (a / 64) (b / 64)
  have second := @digits_lt (a / 64 / 64) (b / 64 / 64)
  simp only [Nat.div_div_eq_div_mul, Nat.reduceMul] at second third
  -- the first of four octets has room for more
  have foremost : a / 262144 % 8 = a / 262144 ∧ b / 262144 % 8 = b / 262144 := by omega
  dsimp only
  repeat' split
  all_goals
    simp only [List.cons_append, List.nil_append, List.cons_lt_cons_iff]
    simp (disch := omega) only [compare]
    omega

theorem encoded_lt {first second : List Char} (less : first < second) :
    first.flatMap String.utf8EncodeChar < second.flatMap String.utf8EncodeChar := by
  induction less with
  | @nil char rest =>
    rw [List.flatMap_nil, List.flatMap_cons]
    cases written : String.utf8EncodeChar char with
    | nil => exact absurd written String.utf8EncodeChar_ne_nil
    | cons => exact .nil
  | rel smaller => exact encode_lt smaller _ _
  | cons _ ih => exact List.append_left_lt ih

theorem octets_lt {first second : String} (less : first < second) : octets first < octets second := by
  rw [octets_eq, octets_eq]
  exact encoded_lt less

end Octets

section Labels
variable {contacts others : List Descriptor} {label other : String} {several : List String}

theorem mem_insertLabel : other ∈ insertLabel label several ↔ other = label ∨ other ∈ several := by
  induction several with
  | nil => simp [insertLabel]
  | cons first rest ih =>
    unfold insertLabel
    split
    · simp
    · split
      · simp_all
      · simp only [List.mem_cons, ih]
        exact or_left_comm

theorem insertLabel_sorted (sorted : several.Pairwise (· < ·)) : (insertLabel label several).Pairwise (· < ·) := by
  induction several with
  | nil => exact List.pairwise_singleton _ _
  | cons first rest ih =>
    obtain ⟨least, later⟩ := List.pairwise_cons.mp sorted
    unfold insertLabel
    split
    · rename_i smaller
      refine List.pairwise_cons.mpr ⟨?_, sorted⟩
      intro second member
      rcases List.mem_cons.mp member with rfl | behind
      · exact smaller
      · exact String.lt_trans smaller (least second behind)
    · split
      · exact sorted
      · rename_i notSmaller different
        refine List.pairwise_cons.mpr ⟨?_, ih later⟩
        intro second member
        rcases mem_insertLabel.mp member with rfl | behind
        · exact String.not_le.mp fun le => different (String.le_antisymm le (String.not_lt.mp notSmaller))
        · exact least second behind

theorem mem_labels : label ∈ labels contacts ↔ ∃ contact ∈ contacts, contact.datacenter = some label := by
  have inserted : ∀ several : List String, label ∈ several.foldr insertLabel [] ↔ label ∈ several := by
    intro several
    induction several with
    | nil => rfl
    | cons first rest ih => rw [List.foldr_cons, mem_insertLabel, ih, List.mem_cons]
  rw [labels, inserted, List.mem_filterMap]

theorem labels_sorted (contacts : List Descriptor) : (labels contacts).Pairwise (· < ·) := by
  unfold labels
  induction contacts.filterMap Descriptor.datacenter with
  | nil => exact List.Pairwise.nil
  | cons first rest ih => exact insertLabel_sorted ih

-- The labels are those of a set, and nothing else of the descriptors shows.
theorem labels_congr (same : ∀ label, (∃ contact ∈ contacts, contact.datacenter = some label) ↔
    ∃ contact ∈ others, contact.datacenter = some label) : labels contacts = labels others := by
  have apart : ∀ {first second : String}, first < second → first ≠ second := String.ne_of_lt
  refine List.Perm.eq_of_pairwise (fun _ _ _ _ less greater => absurd greater (String.lt_asymm less))
    (labels_sorted contacts) (labels_sorted others) ?_
  rw [List.perm_ext_iff_of_nodup ((labels_sorted contacts).imp apart) ((labels_sorted others).imp apart)]
  intro label
  rw [mem_labels, mem_labels, same label]

end Labels

def reached (nodes : List Descriptor) (contacts : List HostId) : List Descriptor :=
  nodes.filter (·.host ∈ contacts)

-- The set of the labels that they report. A node without a label adds none, and an empty label is one.
def reported (nodes : List Descriptor) (contacts : List HostId) : Finset String :=
  ((reached nodes contacts).filterMap Descriptor.datacenter).toFinset

def found (configured : Option String) (nodes : List Descriptor) (contacts : List HostId) :
    Except RoutingError String :=
  (atStart configured nodes contacts).map Prod.fst

section Found
variable {nodes others : List Descriptor} {contacts more : List HostId} {label : String}

theorem mem_reached {node : Descriptor} : node ∈ reached nodes contacts ↔ node ∈ nodes ∧ node.host ∈ contacts := by
  simp [reached]

theorem mem_reported : label ∈ reported nodes contacts ↔
    ∃ node ∈ nodes, node.host ∈ contacts ∧ node.datacenter = some label := by
  simp [reported, mem_reached, and_assoc]

theorem reported_eq (nodes : List Descriptor) (contacts : List HostId) :
    reported nodes contacts = (labels (reached nodes contacts)).toFinset := by
  ext label
  rw [List.mem_toFinset, mem_labels, reported, List.mem_toFinset, List.mem_filterMap]

theorem card_reported (nodes : List Descriptor) (contacts : List HostId) :
    (reported nodes contacts).card = (labels (reached nodes contacts)).length := by
  rw [reported_eq, List.toFinset_card_of_nodup ((labels_sorted _).imp String.ne_of_lt)]

theorem found_configured (label : String) (nodes : List Descriptor) (contacts : List HostId) :
    found (some label) nodes contacts = .ok label := by
  simp [found, atStart, resolve, Except.map]

theorem found_uncontacted (nodes : List Descriptor) : found none nodes [] = .error .noContactPoints := by
  simp [found, atStart, resolve, infer, Except.map]

theorem found_unknown (given : contacts ≠ []) (unknown : reached nodes contacts = []) :
    found none nodes contacts = .error .unknownContactPoints := by
  rw [reached] at unknown
  simp [found, atStart, given, unknown, Except.map]

theorem found_inferred (known : reached nodes contacts ≠ []) :
    found none nodes contacts = match labels (reached nodes contacts) with
      | [] => .error .undeterminedDatacenter
      | [label] => .ok label
      | several => .error (.ambiguousDatacenter several) := by
  have some : (reached nodes contacts).isEmpty = false := by simpa using known
  have whole : found none nodes contacts = (resolve none (reached nodes contacts)).map Prod.fst := by
    rw [reached] at known ⊢
    simp [found, atStart, known]
  rw [whole, resolve, infer, some]
  generalize labels (reached nodes contacts) = all
  match all with
  | [] | [_] | _ :: _ :: _ => rfl

theorem found_undetermined (known : reached nodes contacts ≠ []) (none : reported nodes contacts = ∅) :
    found .none nodes contacts = .error .undeterminedDatacenter := by
  have empty : labels (reached nodes contacts) = [] := by
    rw [← List.length_eq_zero_iff, ← card_reported, none, Finset.card_empty]
  rw [found_inferred known, empty]

theorem found_single (single : reported nodes contacts = {label}) : found none nodes contacts = .ok label := by
  obtain ⟨node, member, contact, _⟩ := mem_reported.mp (single ▸ Finset.mem_singleton_self label)
  have known : reached nodes contacts ≠ [] := List.ne_nil_of_mem (mem_reached.mpr ⟨member, contact⟩)
  obtain ⟨only, alone⟩ : ∃ only, labels (reached nodes contacts) = [only] := by
    rw [← List.length_eq_one_iff, ← card_reported, single, Finset.card_singleton]
  have same : only = label := by
    rw [reported_eq, alone] at single
    simpa using single
  rw [found_inferred known, alone, same]

theorem found_ambiguous (several : 2 ≤ (reported nodes contacts).card) :
    found none nodes contacts = .error (.ambiguousDatacenter (labels (reached nodes contacts))) := by
  rw [card_reported] at several
  have known : reached nodes contacts ≠ [] := by
    intro unknown
    rw [unknown] at several
    exact absurd several (by decide)
  rw [found_inferred known]
  generalize labels (reached nodes contacts) = all at several
  match all with
  | [] | [_] => simp at several
  | _ :: _ :: _ => rfl

theorem found_congr (configured : Option String) (nodeAlike : ∀ node, node ∈ others ↔ node ∈ nodes)
    (contactAlike : ∀ host, host ∈ more ↔ host ∈ contacts) :
    found configured others more = found configured nodes contacts := by
  have alike : ∀ node, node ∈ reached others more ↔ node ∈ reached nodes contacts := by
    intro node
    rw [mem_reached, mem_reached, nodeAlike, contactAlike]
  cases configured with
  | some label => rw [found_configured, found_configured]
  | none =>
    by_cases given : contacts = []
    · have none : more = [] := List.eq_nil_iff_forall_not_mem.mpr fun host => by simp [contactAlike, given]
      rw [given, none, found_uncontacted, found_uncontacted]
    · have also : more ≠ [] := by
        obtain ⟨host, member⟩ := List.exists_mem_of_ne_nil _ given
        exact List.ne_nil_of_mem ((contactAlike host).mpr member)
      by_cases unknown : reached nodes contacts = []
      · have neither : reached others more = [] :=
          List.eq_nil_iff_forall_not_mem.mpr fun node => by simp [alike, unknown]
        rw [found_unknown given unknown, found_unknown also neither]
      · have either : reached others more ≠ [] := by
          obtain ⟨node, member⟩ := List.exists_mem_of_ne_nil _ unknown
          exact List.ne_nil_of_mem ((alike node).mpr member)
        have same : labels (reached others more) = labels (reached nodes contacts) :=
          labels_congr fun label => by simp [alike]
        rw [found_inferred unknown, found_inferred either, same]

end Found

end Datacenter

namespace Coordinator
open Datacenter
variable {χ : Type}

-- What a start shows of what it found, by the time it returns. One that has found a datacenter may still be closed
-- while the initial nodes are recorded.
def Shows (c : Coordinator χ) : Except RoutingError String → Prop
  | .ok label => c.datacenter = some label ∧ (c.answer = some (.ok ()) ∨ c.answer = some (.error .closed))
  | .error error => c.answer = some (.error error)

section Showing
variable {start before first c : Coordinator χ} {moments earlier inner : List (Moment χ)}
variable {nodes : List Descriptor} {contacts : List HostId} {label : String}

theorem runs_keep_datacenter (sound : Sound start) (orderly : Orderly start) (path : Runs start moments c)
    (located : start.datacenter = some label) : c.datacenter = some label := by
  cases moments with
  | nil => exact path.eq_of_nil ▸ located
  | cons moment later =>
    refine runs_datacenter sound orderly path moment List.mem_cons_self label ?_
    rw [path.first.1]
    exact located

theorem Returned.shows (returned : Returned moments earlier before (.start nodes contacts) inner c)
    (sound : Sound start) (orderly : Orderly start) (path : Runs start moments c)
    (created : before.lifecycle = .created) : c.Shows (found before.configured nodes contacts) := by
  obtain ⟨first, called, known, later⟩ := returned.path sound path
  obtain ⟨_, prior, rest⟩ := (returned.made ▸ path).split
  obtain ⟨rfl, _⟩ := rest.first
  have tidy := runs_orderly sound orderly prior
  have onward := effect_orderly (runs_sound sound prior).1 tidy (call_effect called)
  obtain ⟨_, ⟨late, _⟩ | ⟨_, error, failed, rfl⟩ | ⟨_, label, records, resolved, rfl⟩⟩ := start_decided called
  · exact absurd created late
  · rw [found, failed, closed_drains later rfl rfl returned.inside returned.back]
    rfl
  · have unset : before.datacenter = none := tidy.unset created
    rw [found, resolved]
    refine ⟨runs_keep_datacenter known onward later ?_, ?_⟩
    · simp [unset]
    · obtain ⟨_, ⟨ok, _⟩ | ⟨closed, _⟩⟩ := (runs_opening known onward later
        (.populating ⟨[], nodes, rfl⟩ (by simp [Interrupted])) returned.inside).returned returned.back
      · exact .inl ok
      · exact .inr closed

end Showing

-- The labels of an ambiguous answer go up octet by octet.
theorem start_finds_datacenter (rule : DistanceRule) (configured : Option String) (listeners : List (Listener χ))
    (registry : Registry) {moments : List (Moment χ)} {c : Coordinator χ}
    (path : Runs { fresh rule configured listeners with registry } moments c) {earlier inner : List (Moment χ)}
    {before : Coordinator χ} {nodes : List Descriptor} {contacts : List HostId}
    (returned : Returned moments earlier before (.start nodes contacts) inner c)
    (created : before.lifecycle = .created) :
    c.Shows (found configured nodes contacts) ∧
      (∀ label, configured = some label → found configured nodes contacts = .ok label) ∧
      (configured = none →
        (contacts = [] → found configured nodes contacts = .error .noContactPoints) ∧
        (contacts ≠ [] → (∀ node ∈ nodes, node.host ∉ contacts) →
          found configured nodes contacts = .error .unknownContactPoints) ∧
        ((∃ node ∈ nodes, node.host ∈ contacts) →
          (reported nodes contacts = ∅ → found configured nodes contacts = .error .undeterminedDatacenter) ∧
          (∀ label, reported nodes contacts = {label} → found configured nodes contacts = .ok label) ∧
          (2 ≤ (reported nodes contacts).card → ∃ several,
            found configured nodes contacts = .error (.ambiguousDatacenter several) ∧
            (∀ label, label ∈ several ↔ label ∈ reported nodes contacts) ∧
            several.Pairwise fun first second => octets first < octets second))) ∧
      ∀ others more, (∀ node, node ∈ others ↔ node ∈ nodes) → (∀ host, host ∈ more ↔ host ∈ contacts) →
        found configured others more = found configured nodes contacts := by
  have sound := fresh_sound rule configured listeners registry
  have orderly := fresh_orderly rule configured listeners registry
  obtain ⟨_, prior, rest⟩ := (returned.made ▸ path).split
  obtain ⟨rfl, _⟩ := rest.first
  have settings : before.configured = configured := (runs_terms prior).2
  refine ⟨settings ▸ returned.shows sound orderly path created, ?_, ?_, fun others more => found_congr configured⟩
  · rintro label rfl
    exact found_configured label nodes contacts
  · rintro rfl
    refine ⟨?_, ?_, ?_⟩
    · rintro rfl
      exact found_uncontacted nodes
    · intro given unknown
      refine found_unknown given (List.eq_nil_iff_forall_not_mem.mpr fun node member => ?_)
      exact unknown node (mem_reached.mp member).1 (mem_reached.mp member).2
    · rintro ⟨node, member, contact⟩
      have known : reached nodes contacts ≠ [] := List.ne_nil_of_mem (mem_reached.mpr ⟨member, contact⟩)
      refine ⟨found_undetermined known, fun label => found_single, fun several => ⟨_, found_ambiguous several, ?_, ?_⟩⟩
      · intro label
        rw [reported_eq, List.mem_toFinset]
      · exact (labels_sorted _).imp octets_lt

-- Three contact points, one of them given twice, and one without a label.
theorem contacts_of_two_datacenters :
    let node (host : BitVec 128) (label : Option String) : Descriptor :=
      ⟨⟨host⟩, .v4 ⟨10, 0, 0, 1⟩ 9042, label, none⟩
    let nodes := [node 1 (some "dc2"), node 2 (some "dc1"), node 3 none, node 4 (some "dc3")]
    let contacts : List HostId := [⟨3⟩, ⟨1⟩, ⟨2⟩, ⟨1⟩]
    let idle : Coordinator Unit := { fresh ⟨true, false⟩ none [] with registry := .empty }
    ∃ before inner c several, Runs idle (⟨before, .call (.start nodes contacts)⟩ :: inner) c ∧
      Returned (⟨before, .call (.start nodes contacts)⟩ :: inner) [] before (.start nodes contacts) inner c ∧
      before.lifecycle = .created ∧ c.answer = some (.error (.ambiguousDatacenter several)) ∧
      (∀ label, label ∈ several ↔ label = "dc1" ∨ label = "dc2") ∧
      several.Pairwise fun first second => octets first < octets second := by
  intro node nodes contacts idle
  have shown : (idle.play [.call (.start nodes contacts), .own]).map (fun played =>
      (played.1.tail.all fun moment => !moment.before.stack.isEmpty, played.2.stack.isEmpty)) = some (true, true) := by
    decide +kernel
  obtain ⟨⟨moments, c⟩, played, facts⟩ := Option.map_eq_some_iff.mp shown
  simp only [Prod.mk.injEq, List.isEmpty_iff] at facts
  obtain ⟨path, inner, rfl, returned⟩ := play_returned played rfl facts.1 facts.2
  obtain ⟨shows, _, inferred, _⟩ := start_finds_datacenter ⟨true, false⟩ none [] .empty path returned rfl
  have labels : reported nodes contacts = {"dc1", "dc2"} := by decide +kernel
  have two : 2 ≤ (reported nodes contacts).card := by
    rw [labels]
    decide
  have known : ∃ node ∈ nodes, node.host ∈ contacts := ⟨node 1 (some "dc2"), by simp [nodes], by simp [contacts, node]⟩
  obtain ⟨several, found, all, rising⟩ := ((inferred rfl).2.2 known).2.2 two
  rw [found] at shows
  refine ⟨idle, inner, c, several, path, returned, rfl, shows, fun label => ?_, rising⟩
  rw [all, labels, Finset.mem_insert, Finset.mem_singleton]

end Coordinator
end ClusterRouting
