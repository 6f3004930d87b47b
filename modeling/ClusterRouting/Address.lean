namespace ClusterRouting

structure Octets where
  a : UInt8
  b : UInt8
  c : UInt8
  d : UInt8
deriving DecidableEq, Inhabited

abbrev Groups := Vector UInt16 8

-- Where a node listens. Two addresses are equal when their parsed values are; spelling is lost.
inductive Address where
  | v4 (host : Octets) (port : UInt16)
  -- The scope picks an interface for hosts that are only meaningful on a link; zero means none.
  | v6 (host : Groups) (scope : UInt32) (port : UInt16)
deriving DecidableEq, Inhabited

end ClusterRouting
