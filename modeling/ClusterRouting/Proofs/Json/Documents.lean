import ClusterRouting.Json.Document
import ClusterRouting.Proofs.Address.Spelling
import ClusterRouting.Proofs.Json.Spelling
import Mathlib

namespace ClusterRouting

namespace Json

def objectOf (members : List (String × Value)) : Value := .object (members.map fun m => (some m.1, m.2))

theorem named?_some (members : List (String × Value)) : named? (members.map fun m => (some m.1, m.2)) = some members := by
  induction members with
  | nil => rfl
  | cons first more ih => simp [named?, ih]

def ofSizeOption : Option UInt64 → Value
  | some n => .ofNat n.toNat
  | none => .null

theorem natural?_ofNat (n : Nat) : (Value.ofNat n).natural? = some n := rfl

theorem host?_ofNat (h : HostId) : host? (.ofNat h.toNat) = some h := by
  simp [host?, natural?_ofNat, HostId.ofNat?_toNat]

theorem address?_ofText (a : Address) : address? (.ofText a.text) = some a := by
  simp [address?, Value.ofText, Value.text?, Address.ofText?_text]

theorem label?_ofTextOption (label : Option String) : label? (.ofTextOption label) = some label := by
  cases label <;> rfl

theorem bool?_bool (b : Bool) : (Value.bool b).bool? = some b := rfl

theorem size?_ofSizeOption (size : Option UInt64) : Value.optional? size? (ofSizeOption size) = some size := by
  cases size with
  | none => rfl
  | some n =>
    have small : n.toNat < UInt64.size := n.toNat_lt
    simp [ofSizeOption, Value.ofNat, Value.optional?, size?, Value.natural?, Number.natural?, Number.ofNat, small]

end Json

open Json

namespace Config

def members (c : Config) : List (String × Value) := [
  ("local_datacenter", .ofTextOption c.localDatacenter),
  ("allow_remote", .bool c.allowRemote),
  ("max_remote_nodes", ofSizeOption c.maxRemoteNodes),
  ("allow_remote_for_local_consistency", .bool c.remoteForLocalConsistency)]

theorem toValue_members (c : Config) : c.toValue = objectOf c.members := rfl

-- The members of a configuration in any order, some of those that hold standard values left out, and any others added.
def Rearranged (c : Config) (members : List (String × Value)) : Prop :=
  ∃ kept unknown, members.Perm (kept ++ unknown) ∧ kept.Sublist c.members ∧
    (∀ m ∈ c.members, m ∈ kept ∨ m ∈ standard.members) ∧ ∀ m ∈ unknown, m.1 ∉ standard.members.map Prod.fst

theorem members_rearranged (c : Config) : c.Rearranged c.members :=
  ⟨c.members, [], by simp, .refl _, fun _ member => .inl member, by simp⟩

section Rearranging
variable {c : Config} {members : List (String × Value)} {name : String} {value : Value}

theorem Rearranged.member? (rearranged : c.Rearranged members)
    (own : c.members.filter (·.1 = name) = [(name, value)]) :
    Json.member? members name = some (some value) ∨
      Json.member? members name = some none ∧ (name, value) ∈ standard.members := by
  obtain ⟨kept, unknown, permuted, selected, dropped, others⟩ := rearranged
  have known : (name, value) ∈ c.members := List.mem_of_mem_filter (own ▸ List.mem_singleton_self _)
  have no_other : unknown.filter (·.1 = name) = [] := by
    refine List.filter_eq_nil_iff.mpr fun m member same => others m member ?_
    rw [of_decide_eq_true same]
    exact List.mem_map_of_mem (f := Prod.fst) known
  have found := permuted.filter (·.1 = name)
  rw [List.filter_append, no_other, List.append_nil] at found
  have at_most := selected.filter (·.1 = name)
  rw [own] at at_most
  rcases List.sublist_singleton.mp at_most with none_kept | kept_one
  · refine .inr ⟨?_, ?_⟩
    · rw [none_kept] at found
      simp [Json.member?, found.eq_nil]
    · refine (dropped _ known).resolve_left fun member => ?_
      exact List.ne_nil_of_mem (List.mem_filter.mpr ⟨member, by simp⟩) none_kept
  · left
    rw [kept_one] at found
    simp [Json.member?, List.perm_singleton.mp found]

theorem Rearranged.defaulted? {shown : Config → Value} {field : Config → α} {read : Value → Option α}
    (rearranged : c.Rearranged members) (own : ∀ c : Config, c.members.filter (·.1 = name) = [(name, shown c)])
    (reads : ∀ c, read (shown c) = some (field c)) :
    Json.defaulted? members name (field standard) read = some (field c) := by
  rcases rearranged.member? (own c) with found | ⟨left_out, usual⟩
  · simp [Json.defaulted?, found, reads]
  · have listed : (name, shown c) ∈ standard.members.filter (·.1 = name) := List.mem_filter.mpr ⟨usual, by simp⟩
    rw [own standard, List.mem_singleton, Prod.mk.injEq] at listed
    have same : field standard = field c := by
      have again := reads c
      rw [listed.2, reads standard] at again
      exact Option.some.inj again
    simp [Json.defaulted?, left_out, same]

theorem Rearranged.ofValue? (rearranged : c.Rearranged members) : Config.ofValue? (objectOf members) = some c := by
  have datacenter : Json.defaulted? members "local_datacenter" none label? = some c.localDatacenter :=
    rearranged.defaulted? (fun _ => by simp [Config.members]) fun c => label?_ofTextOption c.localDatacenter
  have remote : Json.defaulted? members "allow_remote" false Value.bool? = some c.allowRemote :=
    rearranged.defaulted? (fun _ => by simp [Config.members]) fun c => bool?_bool c.allowRemote
  have cap : Json.defaulted? members "max_remote_nodes" none (Value.optional? size?) = some c.maxRemoteNodes :=
    rearranged.defaulted? (fun _ => by simp [Config.members]) fun c => size?_ofSizeOption c.maxRemoteNodes
  have failover : Json.defaulted? members "allow_remote_for_local_consistency" false Value.bool? =
      some c.remoteForLocalConsistency :=
    rearranged.defaulted? (fun _ => by simp [Config.members]) fun c => bool?_bool c.remoteForLocalConsistency
  simp [Config.ofValue?, objectOf, named?_some, datacenter, remote, cap, failover]

end Rearranging

end Config

theorem Descriptor.ofValue?_toValue (d : Descriptor) : Descriptor.ofValue? d.toValue = some d := by
  simp [Descriptor.ofValue?, Descriptor.toValue, named?, required?, Json.defaulted?, member?, host?_ofNat,
    address?_ofText, label?_ofTextOption]

-- A document that is written is read back. Settings are read back however their members are arranged.
theorem documents_survive :
    (∀ c : Config, ofDocument? Config (toDocument c) = some c) ∧
    (∀ d : Descriptor, ofDocument? Descriptor (toDocument d) = some d) ∧
    ∀ (c : Config) (members : List (String × Value)), c.Rearranged members →
      ofDocument? Config (objectOf members).text = some c ∧
      ∀ text, read? text.toList = some (objectOf members) → ofDocument? Config text = some c := by
  have settings : ∀ (c : Config) (members : List (String × Value)), c.Rearranged members →
      ∀ text, read? text.toList = some (objectOf members) → ofDocument? Config text = some c := by
    intro c members rearranged text read
    rw [ofDocument?, read, Option.bind_some]
    exact rearranged.ofValue?
  refine ⟨fun c => ?_, fun d => ?_, fun c members rearranged => ⟨?_, settings c members rearranged⟩⟩
  · have read : read? (toDocument c).toList = some (objectOf c.members) := by
      rw [toDocument, read?_text]
      exact congrArg some c.toValue_members
    exact settings c c.members c.members_rearranged _ read
  · rw [ofDocument?, toDocument, read?_text, Option.bind_some]
    exact d.ofValue?_toValue
  · exact settings c members rearranged _ (read?_text _)

-- The order is another, the members of the cap and of the failover are left out, and a stranger holds half of a pair.
theorem stray_member_passes :
    let c : Config := ⟨some "dc1", true, none, false⟩
    let members : List (String × Value) :=
      [("shard", .array [.null, .string none]), ("allow_remote", .bool true), ("local_datacenter", .ofText "dc1")]
    let text := "\x7b \"shard\" : [null, \"\\ud800\"], \"allow_remote\": true, \"local_datacenter\": \"d\\u00631\" \x7d"
    c.Rearranged members ∧ read? text.toList = some (objectOf members) ∧ ofDocument? Config text = some c := by
  intro c members text
  have rearranged : c.Rearranged members := by
    refine ⟨[("local_datacenter", .ofText "dc1"), ("allow_remote", .bool true)],
      [("shard", .array [.null, .string none])], List.reverse_perm [_, _, _], ?_, ?_, ?_⟩
    · exact .cons_cons _ (.cons_cons _ (.cons _ (.cons _ .slnil)))
    · intro m member
      simp only [Config.members, List.mem_cons, List.not_mem_nil, or_false, c] at member
      rcases member with rfl | rfl | rfl | rfl <;> simp [Config.members, Config.standard, Value.ofTextOption]
    · simp [Config.members, Config.standard]
  have read : read? text.toList = some (objectOf members) := by
    simp only [text, members, objectOf, List.map_cons, List.map_nil]
    cbv
  exact ⟨rearranged, read, (documents_survive.2.2 c members rearranged).2 text read⟩

end ClusterRouting
