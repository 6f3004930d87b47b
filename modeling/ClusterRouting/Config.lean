import ClusterRouting.Error
import ClusterRouting.Text.Blank

namespace ClusterRouting

structure Config where
  -- The client's own datacenter. It is inferred from the contact points when absent.
  localDatacenter : Option String
  allowRemote : Bool
  -- The most remote nodes that one plan may hold; no limit when absent.
  maxRemoteNodes : Option UInt64
  remoteForLocalConsistency : Bool
deriving DecidableEq

namespace Config

def standard : Config := ⟨none, false, none, false⟩

def pinned (datacenter : String) : Config := { standard with localDatacenter := some datacenter }

-- Settings that contradict themselves are refused; a blank datacenter is found first.
def validate (config : Config) : Except RoutingError Unit :=
  if config.localDatacenter.any Text.isBlank then
    .error (.config "local_datacenter must not be empty")
  else if config.allowRemote ∧ config.maxRemoteNodes = some 0 then
    .error (.config "allow_remote is set but max_remote_nodes is 0")
  else .ok ()

end Config
end ClusterRouting
