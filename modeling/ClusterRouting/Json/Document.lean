import ClusterRouting.Json.Reader
import ClusterRouting.Json.Writer
import ClusterRouting.Address.Reader
import ClusterRouting.Node
import ClusterRouting.Config
import ClusterRouting.Request

namespace ClusterRouting.Json

namespace Value

def ofText (text : String) : Value := .string (some text)

def ofTextOption : Option String → Value
  | some text => ofText text
  | none => .null

def ofNat (n : Nat) : Value := .number (.ofNat n)

def natural? : Value → Option Nat
  | .number n => n.natural?
  | _ => none

def bool? : Value → Option Bool
  | .bool b => some b
  | _ => none

def text? : Value → Option String
  | .string text => text
  | _ => none

def optional? (read : Value → Option α) : Value → Option (Option α)
  | .null => some none
  | value => (read value).map some

-- A word of an enumeration is a string, or an object that gives null under the word.
def word? : Value → Option String
  | .string word => word
  | .object [(word, .null)] => word
  | _ => none

end Value

def named? : List (Option String × Value) → Option (List (String × Value))
  | [] => some []
  | (none, _) :: _ => none
  | (some name, value) :: rest => (named? rest).map ((name, value) :: ·)

-- The value under a name, if any; refused when the name comes twice.
def member? (members : List (String × Value)) (name : String) : Option (Option Value) :=
  match members.filter (·.1 = name) with
  | [] => some none
  | [(_, value)] => some (some value)
  | _ => none

def required? (members : List (String × Value)) (name : String) (read : Value → Option α) : Option α := do
  let value ← (← member? members name)
  read value

def defaulted? (members : List (String × Value)) (name : String) (standard : α)
    (read : Value → Option α) : Option α := do
  match ← member? members name with
  | none => return standard
  | some value => read value

def element? (elements : List Value) (place : Nat) (standard : α) (read : Value → Option α) : Option α :=
  match elements[place]? with
  | none => some standard
  | some value => read value

def host? (value : Value) : Option HostId := value.natural?.bind HostId.ofNat?

def address? (value : Value) : Option Address := value.text?.bind Address.ofText?

def label? : Value → Option (Option String) := Value.optional? Value.text?

def size? (value : Value) : Option UInt64 := do
  let n ← value.natural?
  if n < UInt64.size then return .ofNat n
  none

end Json

open Json

def Health.word : Health → String
  | .unknown => "UNKNOWN"
  | .up => "UP"
  | .down => "DOWN"
  | .forcedDown => "FORCED_DOWN"

def Distance.word : Distance → String
  | .home => "LOCAL"
  | .remote => "REMOTE"
  | .ignored => "IGNORED"

def Consistency.word : Consistency → String
  | .any => "ANY"
  | .one => "ONE"
  | .two => "TWO"
  | .three => "THREE"
  | .quorum => "QUORUM"
  | .all => "ALL"
  | .localOne => "LOCAL_ONE"
  | .localQuorum => "LOCAL_QUORUM"
  | .eachQuorum => "EACH_QUORUM"
  | .serial => "SERIAL"
  | .localSerial => "LOCAL_SERIAL"

def Health.ofWord? (word : String) : Option Health := Health.all.find? (·.word = word)

def Distance.ofWord? (word : String) : Option Distance := Distance.all.find? (·.word = word)

def Consistency.ofWord? (word : String) : Option Consistency := Consistency.every.find? (·.word = word)

namespace Descriptor

def toValue (d : Descriptor) : Value :=
  .object [
    (some "host_id", .ofNat d.host.toNat),
    (some "address", .ofText d.address.text),
    (some "datacenter", .ofTextOption d.datacenter),
    (some "rack", .ofTextOption d.rack)]

def ofValue? : Value → Option Descriptor
  | .object members => do
    let members ← named? members
    let host ← required? members "host_id" host?
    let address ← required? members "address" address?
    let datacenter ← defaulted? members "datacenter" none label?
    let rack ← defaulted? members "rack" none label?
    return ⟨host, address, datacenter, rack⟩
  | .array [host, address, datacenter, rack] => do
    return ⟨← host? host, ← address? address, ← label? datacenter, ← label? rack⟩
  | _ => none

end Descriptor

namespace Config

def toValue (c : Config) : Value :=
  .object [
    (some "local_datacenter", .ofTextOption c.localDatacenter),
    (some "allow_remote", .bool c.allowRemote),
    (some "max_remote_nodes", match c.maxRemoteNodes with | some n => .ofNat n.toNat | none => .null),
    (some "allow_remote_for_local_consistency", .bool c.remoteForLocalConsistency)]

-- What is left out has its standard value.
def ofValue? : Value → Option Config
  | .object members => do
    let members ← named? members
    let localDatacenter ← defaulted? members "local_datacenter" none label?
    let allowRemote ← defaulted? members "allow_remote" false Value.bool?
    let maxRemoteNodes ← defaulted? members "max_remote_nodes" none (Value.optional? size?)
    let remoteForLocal ← defaulted? members "allow_remote_for_local_consistency" false Value.bool?
    return ⟨localDatacenter, allowRemote, maxRemoteNodes, remoteForLocal⟩
  | .array elements => do
    if elements.length > 4 then none
    let localDatacenter ← element? elements 0 none label?
    let allowRemote ← element? elements 1 false Value.bool?
    let maxRemoteNodes ← element? elements 2 none (Value.optional? size?)
    let remoteForLocal ← element? elements 3 false Value.bool?
    return ⟨localDatacenter, allowRemote, maxRemoteNodes, remoteForLocal⟩
  | _ => none

end Config

class Documented (α : Type) where
  toValue : α → Value
  ofValue? : Value → Option α

instance : Documented Health := ⟨fun h => .ofText h.word, fun v => v.word?.bind Health.ofWord?⟩
instance : Documented Distance := ⟨fun d => .ofText d.word, fun v => v.word?.bind Distance.ofWord?⟩
instance : Documented Consistency := ⟨fun c => .ofText c.word, fun v => v.word?.bind Consistency.ofWord?⟩
instance : Documented HostId := ⟨fun h => .ofNat h.toNat, host?⟩
instance : Documented Descriptor := ⟨Descriptor.toValue, Descriptor.ofValue?⟩
instance : Documented Config := ⟨Config.toValue, Config.ofValue?⟩

def toDocument [Documented α] (a : α) : String := (Documented.toValue a).text

def ofDocument? (α : Type) [Documented α] (text : String) : Option α :=
  (read? text.toList).bind Documented.ofValue?

end ClusterRouting
