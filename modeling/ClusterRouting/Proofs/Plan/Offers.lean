import ClusterRouting.Plan.Query

namespace ClusterRouting.QueryPlan
variable {φ σ : Type}

-- The filters that are asked about one candidate, with what each of them says, and what that comes to.
inductive Heard : List φ → List (φ × Verdict) → Verdict → Prop where
  | passed : Heard [] [] .accept
  | on {filter outer asked verdict} (later : Heard outer asked verdict) :
      Heard (filter :: outer) ((filter, .accept) :: asked) verdict
  | stopped {filter outer verdict} (refused : verdict ≠ .accept) :
      Heard (filter :: outer) [(filter, verdict)] verdict

structure Offer (φ : Type) where
  peer : Peer
  asked : List (φ × Verdict)
  verdict : Verdict

structure Question (φ : Type) where
  filter : φ
  peer : Peer
  verdict : Verdict

def Offer.questions (offer : Offer φ) : List (Question φ) :=
  offer.asked.map fun (filter, verdict) => ⟨filter, offer.peer, verdict⟩

-- The same filters, and a record of every question that they are asked.
def recorded (judge : Judge φ σ) : Judge φ (σ × List (Question φ)) := fun filter peer held =>
  let (verdict, state) := judge filter peer held.1
  (verdict, state, held.2 ++ [⟨filter, peer, verdict⟩])

inductive Pulls (filters : List φ) (r : Registry) : Walk → List (Offer φ) → Pulled → Walk → Prop where
  | exhausted {walk after} (found : walk.next r = (none, after)) : Pulls filters r walk [] .exhausted after
  | node {walk after peer asked} (found : walk.next r = (some peer, after)) (heard : Heard filters asked .accept) :
      Pulls filters r walk [⟨peer, asked, .accept⟩] (.node peer) after
  | fault {walk after peer asked fault} (found : walk.next r = (some peer, after))
      (heard : Heard filters asked (.throw fault)) :
      Pulls filters r walk [⟨peer, asked, .throw fault⟩] (.fault fault) after
  | on {walk middle after peer asked offers pulled} (found : walk.next r = (some peer, middle))
      (heard : Heard filters asked .reject) (later : Pulls filters r middle offers pulled after) :
      Pulls filters r walk (⟨peer, asked, .reject⟩ :: offers) pulled after

def outcome (offers : List (Offer φ)) : Pulled :=
  match offers.getLast? with
  | some ⟨peer, _, .accept⟩ => .node peer
  | some ⟨_, _, .throw fault⟩ => .fault fault
  | some ⟨_, _, .reject⟩ | none => .exhausted

-- What a filter makes of a pull at the plan inside it: a candidate that it refuses is followed by another pull, and
-- what ends or breaks off the plan inside does the same to the one around it.
def around (judge : Judge φ σ) (r : Registry) (filter : φ) : Pulled × QueryPlan φ × σ → Pulled × QueryPlan φ × σ
  | (.node peer, inside, state) =>
    match judge filter peer state with
    | (.accept, left) => (.node peer, inside.filtered filter, left)
    | (.throw fault, left) => (.fault fault, inside.filtered filter, left)
    | (.reject, left) => pull judge r (inside.filtered filter) left
  | (other, inside, state) => (other, inside.filtered filter, state)

section Pull
variable {judge : Judge φ σ} {r : Registry} {plan : QueryPlan φ} {state : σ} {after : Walk} {peer : Peer}

theorem pull_of_none (found : plan.walk.next r = (none, after)) :
    pull judge r plan state = (.exhausted, { plan with walk := after }, state) := by
  unfold pull
  split
  · rename_i walk read
    cases found.symm.trans read
    rfl
  · rename_i read
    cases found.symm.trans read

theorem pull_of_some (found : plan.walk.next r = (some peer, after)) :
    pull judge r plan state =
      match consult judge peer plan.filters state with
      | (.accept, left) => (.node peer, { plan with walk := after }, left)
      | (.throw fault, left) => (.fault fault, { plan with walk := after }, left)
      | (.reject, left) => pull judge r { plan with walk := after } left := by
  rw [pull]
  split
  · rename_i read
    cases found.symm.trans read
  · rename_i read
    cases found.symm.trans read
    rfl

theorem consult_append (judge : Judge φ σ) (peer : Peer) (inner : List φ) (filter : φ) (state : σ) :
    consult judge peer (inner ++ [filter]) state =
      match consult judge peer inner state with
      | (.accept, left) => judge filter peer left
      | refused => refused := by
  induction inner generalizing state with
  | nil =>
    simp only [List.nil_append, consult]
    split <;> simp_all
  | cons first inner ih =>
    simp only [List.cons_append, consult]
    split
    · exact ih _
    · rename_i refused
      split
      · rename_i left accepted
        exact absurd accepted (refused left)
      · rfl

theorem pull_filtered (judge : Judge φ σ) (r : Registry) (plan : QueryPlan φ) (filter : φ) (state : σ) :
    pull judge r (plan.filtered filter) state = around judge r filter (pull judge r plan state) := by
  fun_induction pull judge r plan state with
  | case1 plan state after found => exact pull_of_none found
  | case2 plan state peer after found left passed =>
    rw [@pull_of_some _ _ _ _ (plan.filtered filter) _ _ _ found]
    simp only [filtered, consult_append, around, passed]
  | case3 plan state peer after found fault left broken =>
    rw [@pull_of_some _ _ _ _ (plan.filtered filter) _ _ _ found]
    simp only [filtered, consult_append, around, broken]
  | case4 plan state peer after found left refused ih =>
    rw [@pull_of_some _ _ _ _ (plan.filtered filter) _ _ _ found]
    simp only [filtered, consult_append, refused] at ih ⊢
    exact ih

theorem consult_heard (judge : Judge φ σ) (peer : Peer) (filters : List φ) (state : σ) :
    ∃ asked, Heard filters asked (consult judge peer filters state).1 ∧
      ∀ record, consult (recorded judge) peer filters (state, record) =
        ((consult judge peer filters state).1, (consult judge peer filters state).2,
          record ++ asked.map fun (filter, verdict) => ⟨filter, peer, verdict⟩) := by
  induction filters generalizing state with
  | nil => exact ⟨[], .passed, by simp [consult]⟩
  | cons filter outer ih =>
    cases said : judge filter peer state with
    | mk verdict left =>
      cases verdict with
      | accept =>
        obtain ⟨asked, heard, same⟩ := ih left
        exact ⟨(filter, .accept) :: asked, by simpa [consult, said] using heard.on,
          by simp [consult, recorded, said, same]⟩
      | reject =>
        exact ⟨[(filter, .reject)], by simpa [consult, said] using .stopped nofun, by simp [consult, recorded, said]⟩
      | throw fault =>
        exact ⟨[(filter, .throw fault)], by simpa [consult, said] using .stopped nofun,
          by simp [consult, recorded, said]⟩

theorem pull_pulls (judge : Judge φ σ) (r : Registry) (plan : QueryPlan φ) (state : σ) :
    (pull judge r plan state).2.1.filters = plan.filters ∧
    ∃ offers, Pulls plan.filters r plan.walk offers (pull judge r plan state).1 (pull judge r plan state).2.1.walk ∧
      ∀ record, pull (recorded judge) r plan (state, record) =
        ((pull judge r plan state).1, (pull judge r plan state).2.1, (pull judge r plan state).2.2,
          record ++ offers.flatMap Offer.questions) := by
  fun_induction pull judge r plan state with
  | case1 plan state after found => exact ⟨rfl, [], .exhausted found, by simp [pull_of_none found]⟩
  | case2 plan state peer after found left passed =>
    obtain ⟨asked, heard, same⟩ := consult_heard judge peer plan.filters state
    simp only [passed] at heard same
    exact ⟨rfl, _, .node found heard, by simp [pull_of_some found, same, Offer.questions]⟩
  | case3 plan state peer after found fault left broken =>
    obtain ⟨asked, heard, same⟩ := consult_heard judge peer plan.filters state
    simp only [broken] at heard same
    exact ⟨rfl, _, .fault found heard, by simp [pull_of_some found, same, Offer.questions]⟩
  | case4 plan state peer after found left refused ih =>
    obtain ⟨asked, heard, same⟩ := consult_heard judge peer plan.filters state
    simp only [refused] at heard same
    obtain ⟨kept, offers, later, onward⟩ := ih
    exact ⟨kept, _, .on found heard later, by simp [pull_of_some found, same, onward, Offer.questions]⟩

end Pull

section Pulls
variable {filters : List φ} {r : Registry} {walk after : Walk} {offers : List (Offer φ)} {pulled : Pulled}

theorem Pulls.heard (pulls : Pulls filters r walk offers pulled after) :
    ∀ offer ∈ offers, Heard filters offer.asked offer.verdict := by
  induction pulls with
  | exhausted => exact nofun
  | node _ heard | fault _ heard => exact List.forall_mem_singleton.mpr heard
  | on _ heard _ ih => exact List.forall_mem_cons.mpr ⟨heard, ih⟩

theorem Pulls.comes (pulls : Pulls filters r walk offers pulled after) :
    pulled = outcome offers ∧ ∀ offer ∈ offers.dropLast, offer.verdict = .reject := by
  induction pulls with
  | exhausted | node | fault => exact ⟨rfl, nofun⟩
  | @on _ _ _ _ _ offers _ _ _ _ ih =>
    obtain ⟨rfl, refused⟩ := ih
    cases offers with
    | nil => exact ⟨rfl, nofun⟩
    | cons next offers =>
      refine ⟨by simp [outcome, List.getLast?_cons_cons], ?_⟩
      rw [List.dropLast_cons_cons]
      exact List.forall_mem_cons.mpr ⟨rfl, refused⟩

end Pulls

end ClusterRouting.QueryPlan
