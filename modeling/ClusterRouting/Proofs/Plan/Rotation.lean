import ClusterRouting.Plan.Walk
import Mathlib.Algebra.Group.Nat.Defs
import Mathlib.Data.List.FinRange
import Mathlib.Data.List.Rotate

namespace ClusterRouting.Walk

theorem place_eq (length : Nat) (offset : UInt64) (cursor : Nat) :
    place length offset cursor = (offset.toNat + cursor) % 2 ^ 64 % length := by
  simp [place, UInt64.toNat_add, Nat.add_mod]

theorem place_lt {length cursor : Nat} (inside : cursor < length) (offset : UInt64) :
    place length offset cursor < length := Nat.mod_lt _ (by omega)

-- A walk gets around a group of this length without coming to a place twice.
def Whole (length : Nat) (offset : UInt64) : Prop :=
  offset.toNat + length ≤ 2 ^ 64 ∨ length ∣ 2 ^ 64

instance (length : Nat) (offset : UInt64) : Decidable (Whole length offset) := by
  unfold Whole; infer_instance

theorem place_of_whole {length : Nat} {offset : UInt64} (whole : Whole length offset) {cursor : Nat}
    (inside : cursor < length) : place length offset cursor = (offset.toNat + cursor) % length := by
  rw [place_eq]
  rcases whole with fits | divides
  · rw [Nat.mod_eq_of_lt (by omega : offset.toNat + cursor < 2 ^ 64)]
  · exact Nat.mod_mod_of_dvd _ divides

-- The two cursors: where the sum overflows, it starts over at place zero. The overflow comes `2 ^ 64 -
-- offset` places on, and the word before it stands `2 ^ 64 % length` places behind a multiple of the length.
theorem place_collides {length : Nat} {offset : UInt64} (broken : ¬ Whole length offset) :
    ∃ first second, first < second ∧ second < length ∧
      place length offset first = place length offset second := by
  obtain ⟨overflows, uneven⟩ := not_or.mp broken
  have small := offset.toNat_lt
  have positive : 0 < 2 ^ 64 % length := Nat.pos_of_ne_zero fun zero => uneven (Nat.dvd_of_mod_eq_zero zero)
  have below : 2 ^ 64 % length < length := Nat.mod_lt _ (by omega)
  have split := Nat.div_add_mod (2 ^ 64) length
  have bounded := Nat.mod_le (2 ^ 64) length
  generalize 2 ^ 64 % length = rest at *
  generalize length * (2 ^ 64 / length) = turns, multiple : length * (2 ^ 64 / length) = turns at *
  have around : ∀ more, more < length → (turns + more) % length = more := by
    intro more less
    rw [← multiple, Nat.mul_add_mod, Nat.mod_eq_of_lt less]
  by_cases near : rest ≤ 2 ^ 64 - offset.toNat
  · refine ⟨2 ^ 64 - offset.toNat - rest, 2 ^ 64 - offset.toNat, by omega, by omega, ?_⟩
    have early : offset.toNat + (2 ^ 64 - offset.toNat - rest) = turns + 0 := by omega
    have late : offset.toNat + (2 ^ 64 - offset.toNat) = 2 ^ 64 := by omega
    rw [place_eq, place_eq, early, late, Nat.mod_eq_of_lt (by omega : turns + 0 < 2 ^ 64), around 0 (by omega)]
    simp
  · refine ⟨0, rest, positive, below, ?_⟩
    have more : rest - (2 ^ 64 - offset.toNat) < length := by omega
    have early : offset.toNat + 0 = turns + (rest - (2 ^ 64 - offset.toNat)) := by omega
    have late : (offset.toNat + rest) % 2 ^ 64 = rest - (2 ^ 64 - offset.toNat) := by omega
    rw [place_eq, place_eq, Nat.mod_eq_of_lt (by omega : offset.toNat + 0 < 2 ^ 64), early, late,
      around _ more, Nat.mod_eq_of_lt more]

def rotated (group : List Peer) (offset : UInt64) : List Peer :=
  List.ofFn fun cursor : Fin group.length =>
    group.get ⟨place group.length offset cursor, place_lt cursor.isLt offset⟩

@[simp] theorem length_rotated (group : List Peer) (offset : UInt64) :
    (rotated group offset).length = group.length := List.length_ofFn

theorem getElem?_rotated {group : List Peer} {cursor : Nat} (inside : cursor < group.length)
    (offset : UInt64) : (rotated group offset)[cursor]? = group[place group.length offset cursor]? := by
  have placed := place_lt inside offset
  simp [rotated, inside, placed]

theorem rotated_subset (group : List Peer) (offset : UInt64) : rotated group offset ⊆ group := by
  intro peer member
  obtain ⟨cursor, rfl⟩ := List.mem_ofFn.mp member
  exact List.get_mem ..

theorem rotated_eq_rotate {group : List Peer} {offset : UInt64} (whole : Whole group.length offset) :
    rotated group offset = group.rotate offset.toNat := by
  apply List.ext_getElem (by simp)
  intro cursor inside _
  rw [length_rotated] at inside
  simp [rotated, List.getElem_rotate, place_of_whole whole inside, Nat.add_comm]

theorem rotated_nodup_iff {group : List Peer} (once : group.Nodup) (offset : UInt64) :
    (rotated group offset).Nodup ↔ Whole group.length offset := by
  constructor
  · intro apart
    by_contra broken
    obtain ⟨first, second, order, inside, same⟩ := place_collides broken
    have earlier : first < group.length := by omega
    have equal : (rotated group offset)[first]? = (rotated group offset)[second]? := by
      rw [getElem?_rotated earlier, getElem?_rotated inside, same]
    have joined := (List.getElem?_inj (by simpa using earlier) apart).mp equal
    omega
  · intro whole
    rw [rotated_eq_rotate whole]
    exact List.nodup_rotate.mpr once

-- The members of a list up to the first that passes are gone, and the others were left alone.
structure Serves (passes : Peer → Bool) (pending skipped : List Peer) (answer : Option Peer)
    (rest : List Peer) : Prop where
  order : pending = skipped ++ answer.toList ++ rest
  refused : ∀ peer ∈ skipped, passes peer = false
  passed : ∀ peer ∈ answer, passes peer = true
  through : answer = none → rest = []

theorem scan_serves {passes : Peer → Bool} {group : List Peer} {offset : UInt64} {cursor stop : Nat}
    {answer : Option Peer} (within : cursor ≤ group.length)
    (done : scan passes group offset cursor = (answer, stop)) :
    cursor ≤ stop ∧ stop ≤ group.length ∧ ∃ skipped, Serves passes ((rotated group offset).drop cursor)
      skipped answer ((rotated group offset).drop stop) := by
  have unfolds : ∀ {cursor peer}, cursor < group.length → group[place group.length offset cursor]? = some peer →
      (rotated group offset).drop cursor = peer :: (rotated group offset).drop (cursor + 1) := by
    intro cursor peer inside found
    have placed : cursor < (rotated group offset).length := by simpa using inside
    rw [List.drop_eq_getElem_cons placed]
    have read := getElem?_rotated inside offset
    rw [found, List.getElem?_eq_getElem placed] at read
    rw [Option.some.inj read]
  fun_induction scan passes group offset cursor with
  | case1 cursor inside peer yielded =>
    cases done
    obtain ⟨found, passed⟩ := Option.filter_eq_some_iff.mp yielded
    refine ⟨by omega, inside, [], ?_, by simp, by simpa using passed, by simp⟩
    simpa using unfolds inside found
  | case2 cursor inside refused ih =>
    obtain ⟨later, bounded, skipped, serves⟩ := ih inside done
    obtain ⟨peer, found⟩ : ∃ peer, group[place group.length offset cursor]? = some peer :=
      ⟨_, List.getElem?_eq_getElem (place_lt inside offset)⟩
    have failed : passes peer = false := by simpa [found] using refused
    refine ⟨by omega, bounded, peer :: skipped, ?_, ?_, serves.passed, serves.through⟩
    · rw [unfolds inside found, serves.order]
      rfl
    · intro other member
      rcases List.mem_cons.mp member with rfl | later
      · exact failed
      · exact serves.refused other later
  | case3 cursor outside =>
    cases done
    refine ⟨Nat.le_refl _, within, [], by simp, by simp, by simp, ?_⟩
    intro _
    exact List.drop_eq_nil_of_le (by simp; omega)

end ClusterRouting.Walk
