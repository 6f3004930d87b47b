import ClusterRouting.Address
import ClusterRouting.Text.Digits

namespace ClusterRouting

def Octets.written (o : Octets) : List Char :=
  Text.decimal o.a.toNat ++ '.' :: (Text.decimal o.b.toNat ++ '.' ::
    (Text.decimal o.c.toNat ++ '.' :: Text.decimal o.d.toNat))

namespace Groups

def joined : List UInt16 → List Char
  | [] => []
  | [group] => Text.hex group.toNat
  | group :: rest => Text.hex group.toNat ++ ':' :: joined rest

def zerosFrom (groups : List UInt16) (start : Nat) : Nat :=
  ((groups.drop start).takeWhile (· == 0)).length

-- Where the longest run of zero groups starts, the first one if several are as long.
def longestZeros (groups : List UInt16) : Nat :=
  (List.range groups.length).foldl
    (fun best start => if zerosFrom groups best < zerosFrom groups start then start else best) 0

-- The octets of a host that stands for an IPv4 one: five zero groups, all ones, four octets.
def mapped? (groups : Groups) : Option Octets :=
  match groups.toList with
  | [0, 0, 0, 0, 0, 0xffff, high, low] =>
    some ⟨(high >>> 8).toUInt8, high.toUInt8, (low >>> 8).toUInt8, low.toUInt8⟩
  | _ => none

-- Groups with their longest run of at least two zero groups contracted. A single zero stays.
def contracted (groups : List UInt16) : List Char :=
  let start := longestZeros groups
  let zeros := zerosFrom groups start
  if 1 < zeros then
    joined (groups.take start) ++ ':' :: ':' :: joined (groups.drop (start + zeros))
  else joined groups

def written (groups : Groups) : List Char :=
  match mapped? groups with
  | some octets => "::ffff:".toList ++ octets.written
  | none => contracted groups.toList

end Groups

namespace Address

def written : Address → List Char
  | v4 host port => host.written ++ ':' :: Text.decimal port.toNat
  | v6 host scope port =>
    let inside := if scope = 0 then host.written else host.written ++ '%' :: Text.decimal scope.toNat
    '[' :: inside ++ ']' :: ':' :: Text.decimal port.toNat

def text (address : Address) : String := String.ofList address.written

end Address
end ClusterRouting
