namespace ClusterRouting

-- What is told of a callback that breaks off instead of returning.
inductive Fault where
  | message (text : String)
  | wordless
deriving DecidableEq

namespace Fault

def message? : Fault → Option String
  | message text => some text
  | wordless => none

def text : Fault → String
  | message text => text
  | wordless => "unknown panic"

end Fault

-- What a callback leaves behind when it breaks off. A switchboard is given all of it, a coordinator or a plan only a
-- fault.
inductive Payload where
  | quiet (fault : Fault)
  -- No message, and to let go of it breaks off in turn.
  | charged (left : Payload)
deriving DecidableEq

instance : Coe Fault Payload := ⟨.quiet⟩

end ClusterRouting
