import ClusterRouting.Plan.Walk

namespace ClusterRouting

inductive Verdict where
  | accept
  | reject
  | throw (fault : Fault)
deriving DecidableEq

inductive Pulled where
  | node (peer : Peer)
  | exhausted
  -- A filter broke off; its node is lost, and the next pull goes on behind it.
  | fault (fault : Fault)
deriving DecidableEq

-- How filters judge. They may keep a state of their own.
abbrev Judge (φ σ : Type) := φ → Peer → σ → Verdict × σ

structure QueryPlan (φ : Type) where
  walk : Walk
  -- The innermost filter stands first.
  filters : List φ

namespace QueryPlan
variable {φ σ : Type}

def empty : QueryPlan φ := ⟨.nowhere, []⟩

def ofWalk (walk : Walk) : QueryPlan φ := ⟨walk, []⟩

def filtered (plan : QueryPlan φ) (filter : φ) : QueryPlan φ :=
  { plan with filters := plan.filters ++ [filter] }

-- Ask filters in turn, up to the first that does not accept.
def consult (judge : Judge φ σ) (peer : Peer) : List φ → σ → Verdict × σ
  | [], state => (.accept, state)
  | filter :: outer, state =>
    match judge filter peer state with
    | (.accept, state) => consult judge peer outer state
    | refused => refused

def pull (judge : Judge φ σ) (r : Registry) (plan : QueryPlan φ) (state : σ) :
    Pulled × QueryPlan φ × σ :=
  match _found : plan.walk.next r with
  | (none, walk) => (.exhausted, { plan with walk }, state)
  | (some peer, walk) =>
    match consult judge peer plan.filters state with
    | (.accept, state) => (.node peer, { plan with walk }, state)
    | (.throw fault, state) => (.fault fault, { plan with walk }, state)
    | (.reject, state) => pull judge r { plan with walk } state
termination_by plan.walk.left
decreasing_by exact Walk.left_next _found

-- No more nodes than this can come; a filter never promises any.
def bound (plan : QueryPlan φ) : Nat := plan.walk.bound

def description (_ : QueryPlan φ) : String := "QueryPlan \x7b .. \x7d"

end QueryPlan
end ClusterRouting
