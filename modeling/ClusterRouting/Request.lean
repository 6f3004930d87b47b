namespace ClusterRouting

inductive Consistency where
  | any
  | one
  | two
  | three
  | quorum
  | all
  | localOne
  | localQuorum
  | eachQuorum
  | serial
  | localSerial
deriving DecidableEq

namespace Consistency

def every : List Consistency :=
  [.any, .one, .two, .three, .quorum, .all, .localOne, .localQuorum, .eachQuorum, .serial, .localSerial]

-- Levels that only replicas of the client's own datacenter can answer.
def isDatacenterLocal : Consistency → Bool
  | .localOne | .localQuorum | .localSerial => true
  | _ => false

def caption : Consistency → String
  | .any => "Any"
  | .one => "One"
  | .two => "Two"
  | .three => "Three"
  | .quorum => "Quorum"
  | .all => "All"
  | .localOne => "LocalOne"
  | .localQuorum => "LocalQuorum"
  | .eachQuorum => "EachQuorum"
  | .serial => "Serial"
  | .localSerial => "LocalSerial"

end Consistency

structure Request where
  consistency : Option Consistency
deriving DecidableEq

namespace Request

def plain : Request := ⟨none⟩

def isDatacenterLocal (request : Request) : Bool := request.consistency.any Consistency.isDatacenterLocal

end Request
end ClusterRouting
