import ClusterRouting.Coordinator

namespace ClusterRouting.Coordinator
variable {χ : Type}

-- While a descriptor is being recorded nobody else changes who is known: such writes would wait, and are refused here.
def upsert? (c : Coordinator χ) (d : Descriptor) (decided : Except Fault Distance) :
    Option (Except Fault Registry.Upsert × Coordinator χ) :=
  if c.recording then none
  else
    match c.registry.upsert d fun _ => decided with
    | .error fault => some (.error fault, c)
    | .ok (outcome, registry) => some (.ok outcome, { c with registry }.noteAll outcome.logged)

def remove? (c : Coordinator χ) (host : HostId) : Option (Option Peer × Coordinator χ) :=
  if c.recording then none
  else
    match c.registry.remove host with
    | none => some (none, c)
    | some (peer, registry) => some (some peer, { c with registry }.note (.unregistered host))

def setDistance? (c : Coordinator χ) (host : HostId) (distance : Distance) :
    Option (Except UnknownNode Distance × Coordinator χ) :=
  if c.recording then none
  else
    match c.registry.setDistance host distance with
    | .error error => some (.error error, c)
    | .ok (previous, registry) =>
      if previous = distance then some (.ok previous, c)
      else some (.ok previous, { c with registry }.note (.moved host previous distance))

-- Health is no part of the topology, so it may be written at any time. It leaves no trace in the log.
def writeHealth (c : Coordinator χ) (host : HostId) (health : Health) :
    Except UnknownNode Health × Coordinator χ :=
  match c.registry.setHealth host health with
  | .error error => (.error error, c)
  | .ok (previous, registry) => (.ok previous, { c with registry })

end ClusterRouting.Coordinator
