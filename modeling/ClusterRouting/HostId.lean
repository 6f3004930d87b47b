import ClusterRouting.Text.Digits

namespace ClusterRouting

-- The identity a cluster assigns to a node once. It outlives every change of address.
structure HostId where
  value : BitVec 128
deriving DecidableEq, Inhabited

namespace HostId

def count : Nat := 0x100000000000000000000000000000000

def ofNat? (n : Nat) : Option HostId :=
  if n < count then some ⟨.ofNat 128 n⟩ else none

def toNat (host : HostId) : Nat := host.value.toNat

def text (host : HostId) : String := String.ofList (Text.hexPadded 32 host.toNat)

-- Documents carry a host id as a decimal number.
def decimal (host : HostId) : String := String.ofList (Text.decimal host.toNat)

theorem toNat_lt (host : HostId) : host.toNat < count := host.value.isLt

theorem ofNat?_toNat (host : HostId) : ofNat? host.toNat = some host := by
  have fits : host.value.toNat < count := host.toNat_lt
  simp [ofNat?, toNat, fits]

end HostId
end ClusterRouting
