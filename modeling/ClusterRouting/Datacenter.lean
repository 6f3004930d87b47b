import ClusterRouting.Log

namespace ClusterRouting

namespace Datacenter

def insertLabel (label : String) : List String → List String
  | [] => [label]
  | first :: rest =>
    if label < first then label :: first :: rest
    else if label = first then first :: rest
    else first :: insertLabel label rest

-- The labels that descriptors report, ascending by code point, each once.
def labels (contacts : List Descriptor) : List String :=
  (contacts.filterMap Descriptor.datacenter).foldr insertLabel []

def infer (contacts : List Descriptor) : Except RoutingError String :=
  if contacts.isEmpty then .error .noContactPoints
  else
    match labels contacts with
    | [] => .error .undeterminedDatacenter
    | [label] => .ok label
    | several => .error (.ambiguousDatacenter several)

-- A configured datacenter is never put in doubt: contact points from elsewhere are only logged.
def resolve (configured : Option String) (contacts : List Descriptor) :
    Except RoutingError (String × List LogRecord) :=
  match configured with
  | some label =>
    let elsewhere := contacts.filter (·.datacenter ≠ some label)
    .ok (label, if elsewhere.isEmpty then [] else [.mismatched label elsewhere])
  | none => (infer contacts).map fun label => (label, [.inferred label])

def atStart (configured : Option String) (nodes : List Descriptor) (contacts : List HostId) :
    Except RoutingError (String × List LogRecord) :=
  let reached := nodes.filter (·.host ∈ contacts)
  if configured.isNone ∧ contacts ≠ [] ∧ reached = [] then .error .unknownContactPoints
  else resolve configured reached

end Datacenter
end ClusterRouting
