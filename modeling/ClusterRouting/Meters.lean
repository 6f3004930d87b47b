import ClusterRouting.Notice
import ClusterRouting.Error

namespace ClusterRouting

inductive Counter where
  | initFailures (kind : ErrorKind)
  | healthChanges (current : Health)
  | distanceChanges (current : Distance)
deriving DecidableEq

def Counter.key : Counter → String
  | initFailures kind => "ring_driver_init_failures_total\x7berror=" ++ kind.label ++ "\x7d"
  | healthChanges current => "ring_driver_node_state_changes_total\x7bstate=" ++ current.label ++ "\x7d"
  | distanceChanges current =>
    "ring_driver_node_distance_changes_total\x7bdistance=" ++ current.label ++ "\x7d"

structure GroupSizes where
  home : Nat
  remote : Nat
  ignored : Nat
deriving DecidableEq

namespace GroupSizes

def ofTopology (t : Topology) : GroupSizes := ⟨t.home.length, t.remote.length, t.ignored.length⟩

def count (sizes : GroupSizes) : Distance → Nat
  | .home => sizes.home
  | .remote => sizes.remote
  | .ignored => sizes.ignored

def key (d : Distance) : String := "ring_driver_nodes\x7bdistance=" ++ d.label ++ "\x7d"

end GroupSizes

structure Meters where
  -- Counters that were touched, in the order of their first touch.
  counters : List (Counter × Nat)
  -- The gauges are set together, so they are all there or none is.
  sizes : Option GroupSizes
deriving DecidableEq

namespace Meters

def blank : Meters := ⟨[], none⟩

def count (m : Meters) (c : Counter) : Nat := ((m.counters.find? (·.1 = c)).map (·.2)).getD 0

def bumped (c : Counter) : List (Counter × Nat) → List (Counter × Nat)
  | [] => [(c, 1)]
  | (other, n) :: rest => if other = c then (other, n + 1) :: rest else (other, n) :: bumped c rest

def bump (m : Meters) (c : Counter) : Meters := { m with counters := bumped c m.counters }

def measure (m : Meters) (t : Topology) : Meters := { m with sizes := some (.ofTopology t) }

-- What a listener that meters does with a notice. Gauges show the topology at that moment.
def observe (m : Meters) (t : Topology) : Notice → Meters
  | .added _ | .removed _ => m.measure t
  | .healthChanged _ _ current => m.bump (.healthChanges current)
  | .distanceChanged _ current => (m.bump (.distanceChanges current)).measure t
  | .closing => m

theorem count_bump (m : Meters) (c d : Counter) :
    (m.bump c).count d = m.count d + if c = d then 1 else 0 := by
  obtain ⟨counters, sizes⟩ := m
  simp only [bump, count]
  induction counters with
  | nil => by_cases same : c = d <;> simp [bumped, same]
  | cons first rest ih =>
    obtain ⟨other, n⟩ := first
    by_cases touched : other = c
    · subst touched
      by_cases same : other = d <;> simp [bumped, same]
    · by_cases same : other = d
      · subst same
        simp [bumped, touched, Ne.symm touched]
      · simpa [bumped, touched, same] using ih

end Meters
end ClusterRouting
