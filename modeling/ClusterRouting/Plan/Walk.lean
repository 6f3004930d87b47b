import ClusterRouting.Registry

namespace ClusterRouting

-- The groups are those of one captured topology. Whether a node is eligible is looked up when it is examined.
structure Walk where
  home : List Peer
  remote : List Peer
  offset : UInt64
  homeCursor : Nat
  remoteCursor : Nat
  budget : Nat
deriving DecidableEq

namespace Walk

def nowhere : Walk := ⟨[], [], 0, 0, 0, 0⟩

def ofTopology (t : Topology) (offset : UInt64) (budget : Nat) : Walk :=
  ⟨t.home, t.remote, offset, 0, 0, budget⟩

-- The place in a group of some length that is examined at a cursor. Offsets and cursors are added as 64-bit
-- words: close to the largest one the walk jumps to the place of zero.
def place (length : Nat) (offset : UInt64) (cursor : Nat) : Nat :=
  (offset + .ofNat cursor).toNat % length

def scan (passes : Peer → Bool) (group : List Peer) (offset : UInt64) (cursor : Nat) : Option Peer × Nat :=
  if cursor < group.length then
    match group[place group.length offset cursor]?.filter passes with
    | some peer => (some peer, cursor + 1)
    | none => scan passes group offset (cursor + 1)
  else (none, cursor)
termination_by group.length - cursor

-- The next node that is eligible now. Without budget no remote node is examined.
def next (walk : Walk) (r : Registry) : Option Peer × Walk :=
  match scan r.isEligible walk.home walk.offset walk.homeCursor with
  | (some peer, homeCursor) => (some peer, { walk with homeCursor })
  | (none, homeCursor) =>
    let walk := { walk with homeCursor }
    if walk.budget = 0 then (none, walk)
    else
      match scan r.isEligible walk.remote walk.offset walk.remoteCursor with
      | (some peer, remoteCursor) => (some peer, { walk with remoteCursor, budget := walk.budget - 1 })
      | (none, remoteCursor) => (none, { walk with remoteCursor })

def homeLeft (walk : Walk) : Nat := walk.home.length - walk.homeCursor

def remoteLeft (walk : Walk) : Nat := walk.remote.length - walk.remoteCursor

def bound (walk : Walk) : Nat := walk.homeLeft + min walk.remoteLeft walk.budget

def left (walk : Walk) : Nat := walk.homeLeft + walk.remoteLeft

section Scan
variable {passes : Peer → Bool} {group : List Peer} {offset : UInt64} {cursor stop : Nat}

theorem scan_some {peer : Peer} (found : scan passes group offset cursor = (some peer, stop)) :
    cursor < stop ∧ stop ≤ group.length := by
  fun_induction scan passes group offset cursor with
  | case1 cursor inside yielded => cases found; omega
  | case2 cursor inside _ ih =>
    have := ih found
    omega
  | case3 => cases found

theorem scan_none (failed : scan passes group offset cursor = (none, stop)) :
    cursor ≤ stop ∧ group.length ≤ stop := by
  fun_induction scan passes group offset cursor with
  | case1 => cases failed
  | case2 cursor inside _ ih =>
    have := ih failed
    omega
  | case3 cursor outside => cases failed; omega

end Scan

theorem left_next {walk after : Walk} {r : Registry} {peer : Peer}
    (found : walk.next r = (some peer, after)) : after.left < walk.left := by
  unfold next at found
  split at found
  · rename_i yielded homeCursor first
    cases found
    have := scan_some first
    simp only [left, homeLeft, remoteLeft]; omega
  · rename_i homeCursor first
    dsimp only at found
    split at found
    · cases found
    · split at found
      · rename_i yielded remoteCursor second
        cases found
        have := scan_some second
        have := scan_none first
        simp only [left, homeLeft, remoteLeft]; omega
      · cases found

end Walk
end ClusterRouting
