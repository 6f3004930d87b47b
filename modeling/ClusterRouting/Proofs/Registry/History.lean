import ClusterRouting.Registry
import Mathlib.Logic.Relation

namespace ClusterRouting.Registry

-- What an evaluator does while a writer waits for it. It may set healths, which takes no turn among the
-- writers, before it decides on a distance or breaks off.
structure Evaluation where
  healths : List (HostId × Health)
  verdict : Except Fault Distance

inductive Write where
  | upsert (descriptor : Descriptor) (evaluation : Evaluation)
  | remove (host : HostId)
  | setDistance (host : HostId) (distance : Distance)
  | setHealth (host : HostId) (health : Health)

def after (r : Registry) : Except ε (α × Registry) → Registry
  | .ok (_, next) => next
  | .error _ => r

def treat (r : Registry) (treatment : HostId × Health) : Registry :=
  r.after (r.setHealth treatment.1 treatment.2)

-- Without a decision to make the evaluator is not called, so it sets no health either.
def Write.apply (r : Registry) : Write → Registry
  | .upsert d evaluation =>
    let r := if r.needsDistance d then evaluation.healths.foldl treat r else r
    r.after (r.upsert d fun _ => evaluation.verdict)
  | .remove host => ((r.remove host).map Prod.snd).getD r
  | .setDistance host d => r.after (r.setDistance host d)
  | .setHealth host health => r.treat (host, health)

def run (r : Registry) (writes : List Write) : Registry := writes.foldl Write.apply r

@[simp] theorem run_nil (r : Registry) : r.run [] = r := rfl

@[simp] theorem run_cons (r : Registry) (write : Write) (later : List Write) :
    r.run (write :: later) = (write.apply r).run later := rfl

theorem run_append (r : Registry) (earlier later : List Write) :
    r.run (earlier ++ later) = (r.run earlier).run later := List.foldl_append

inductive Change (r : Registry) : Registry → Prop where
  | entered {d distance} (unknown : r.find? d.host = none) : Change r (r.enter d distance).2
  | described {d peer node} (known : r.find? d.host = some (peer, node)) :
      Change r (r.replaceDescriptor peer d)
  | placed {host peer distance} (known : r.peer? host = some peer) : Change r (r.place peer distance)
  | dropped {host peer} (known : r.peer? host = some peer) :
      Change r { r.amend peer fun node => { node with removed := true } with
                 topology := r.topology.erase host }
  | treated {host peer node health} (known : r.find? host = some (peer, node)) :
      Change r (r.amend peer fun node => { node with health })

abbrev Changes : Registry → Registry → Prop := Relation.ReflTransGen Change

section Operations
variable {r next : Registry} {host : HostId}

theorem peer?_of_find? {peer : Peer} {node : Node} (found : r.find? host = some (peer, node)) :
    r.peer? host = some peer := by
  obtain ⟨known, present, mapped⟩ := Option.bind_eq_some_iff.mp found
  obtain ⟨_, _, equal⟩ := Option.map_eq_some_iff.mp mapped
  cases equal
  exact present

theorem peer?_of_entered {known : Entry} (found : r.topology.entry? host = some known) :
    r.peer? host = some known.peer := by
  simp [peer?, Topology.peer?, found]

theorem novelty_exact (r : Registry) (d : Descriptor) :
    match r.novelty d with
    | .newcomer => r.find? d.host = none
    | .same peer => ∃ node, r.find? d.host = some (peer, node) ∧ node.descriptor = d
    | .refreshed peer => ∃ node, r.find? d.host = some (peer, node) ∧ node.descriptor ≠ d ∧
        node.descriptor.datacenter = d.datacenter
    | .moved peer => ∃ node, r.find? d.host = some (peer, node) ∧
        node.descriptor.datacenter ≠ d.datacenter := by
  cases found : r.find? d.host with
  | none => simp [novelty, found]
  | some known =>
    obtain ⟨peer, node⟩ := known
    by_cases same : node.descriptor = d
    · simp [novelty, found, same]
    · by_cases near : node.descriptor.datacenter = d.datacenter
      · simp [novelty, found, same, near]
      · simp [novelty, found, same, near]

theorem upsert_changes {d : Descriptor} {evaluate : Descriptor → Except Fault Distance} {outcome : Upsert}
    (done : r.upsert d evaluate = .ok (outcome, next)) : Changes r next := by
  have exact := novelty_exact r d
  unfold upsert at done
  cases novel : r.novelty d with
  | newcomer =>
    simp only [novel] at exact done
    split at done
    · cases done
    · cases done
      exact .single (.entered exact)
  | same peer =>
    simp only [novel] at done
    cases done
    exact .refl
  | refreshed peer =>
    simp only [novel] at exact done
    obtain ⟨node, known, _⟩ := exact
    cases done
    exact .single (.described known)
  | moved peer =>
    simp only [novel] at exact done
    obtain ⟨node, known, _⟩ := exact
    split at done
    · cases done
    · cases done
      have kept : r.peer? d.host = some peer := peer?_of_find? known
      have still : (r.replaceDescriptor peer d).peer? d.host = some peer := kept
      exact .tail (.single (.described known)) (.placed still)

theorem remove_changes {peer : Peer} (done : r.remove host = some (peer, next)) : Changes r next := by
  obtain ⟨found, known, result⟩ := Option.map_eq_some_iff.mp done
  cases result
  exact .single (.dropped known)

theorem setDistance_changes {d previous : Distance} (done : r.setDistance host d = .ok (previous, next)) :
    Changes r next := by
  unfold setDistance at done
  split at done
  · cases done
  · rename_i known found
    split at done
    · cases done; exact .refl
    · cases done; exact .single (.placed (peer?_of_entered found))

theorem setHealth_changes {health previous : Health} (done : r.setHealth host health = .ok (previous, next)) :
    Changes r next := by
  unfold setHealth at done
  split at done
  · cases done
  · rename_i peer node known
    cases done
    exact .single (.treated known)

theorem after_changes {result : Except ε (α × Registry)}
    (changes : ∀ {answer next}, result = .ok (answer, next) → Changes r next) : Changes r (r.after result) := by
  cases result with
  | error _ => exact .refl
  | ok answer => exact changes rfl

theorem treat_changes (treatment : HostId × Health) : Changes r (r.treat treatment) :=
  after_changes setHealth_changes

end Operations

theorem foldl_treat_changes (r : Registry) (treatments : List (HostId × Health)) :
    Changes r (treatments.foldl treat r) := by
  induction treatments generalizing r with
  | nil => exact .refl
  | cons first later ih => exact (treat_changes first).trans (ih _)

theorem apply_changes (r : Registry) (write : Write) : Changes r (write.apply r) := by
  cases write with
  | upsert d evaluation =>
    have before : Changes r (if r.needsDistance d then evaluation.healths.foldl treat r else r) := by
      split
      · exact foldl_treat_changes r _
      · exact .refl
    exact before.trans (after_changes upsert_changes)
  | remove host =>
    simp only [Write.apply]
    cases done : r.remove host with
    | none => exact .refl
    | some answer => exact remove_changes done
  | setDistance host d => exact after_changes setDistance_changes
  | setHealth host health => exact treat_changes _

theorem run_keeps {P : Registry → Prop} (keeps : ∀ {r next}, P r → Change r next → P next)
    {r : Registry} (start : P r) (writes : List Write) : P (r.run writes) := by
  have path : ∀ {r next}, P r → Changes r next → P next := by
    intro r next valid changes
    induction changes with
    | refl => exact valid
    | tail _ change ih => exact keeps ih change
  induction writes generalizing r with
  | nil => exact start
  | cons write later ih => exact ih (path start (apply_changes r write))

end ClusterRouting.Registry
