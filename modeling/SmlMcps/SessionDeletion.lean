import SmlMcps.SessionSteps

/-! Deletion of a session. A `DELETE` answered `204` removes the table entry, but a
request that had checked the session out before still holds its state, and a check-in
that finds something worth keeping files it again. Deletion is final in the runs
without such a late check-in. -/
namespace SmlMcps

variable {C : Type}

/-- `terminated` lists the deletions answered `204`; `revoked` the requests that were
in flight in a session when it was deleted. -/
structure Deletions where
  terminated : List (Option String × String)
  revoked : List Nat

namespace HttpWorld

/-- The requests in flight under a key. -/
def holders (world : HttpWorld C) (filed : String) : List Nat :=
  (List.range world.requests.length).filter fun index =>
    (world.requests[index]?).any fun request => request.inFlight && request.key == filed

theorem mem_holders {world : HttpWorld C} {filed : String} {index : Nat}
    {request : HttpRequest C} (found : world.requests[index]? = some request)
    (flying : request.inFlight = true) (same : request.key = filed) :
    index ∈ world.holders filed := by
  have bound := (List.getElem?_eq_some_iff.mp found).1
  rw [holders,List.mem_filter,List.mem_range,found]
  refine ⟨bound,?_⟩
  simp [flying,same]

end HttpWorld

namespace Deletions

def none : Deletions := ⟨[],[]⟩

def record (before : HttpWorld C) (label : HttpLabel) (_after : HttpWorld C)
    (history : Deletions) : Deletions :=
  match label with
  | .delete owner id =>
    if (Sessions.terminate before.table owner id).2 then
      ⟨(owner,id) :: history.terminated,
        history.revoked ++ before.holders (Sessions.key owner id)⟩
    else history
  | _ => history

end Deletions

/-- The HTTP world with its deletions written down. -/
def deletionStep (http : HttpServer C) :
    HttpWorld C × Deletions → HttpLabel → Option (HttpWorld C × Deletions) :=
  Runs.observed (HttpWorld.step http) Deletions.record

def HttpRequest.keeps (request : HttpRequest C) : Bool :=
  match request.phase with
  | .tested keep => keep
  | _ => false

/-- No check-in that keeps its session, by a request that was in flight when that
session was deleted. -/
def NoLateCheckIn (state : HttpWorld C × Deletions) (label : HttpLabel) : Prop :=
  match label with
  | .update index =>
    ((state.1.requests[index]?).any HttpRequest.keeps) = true → index ∉ state.2.revoked
  | _ => True

instance (state : HttpWorld C × Deletions) (label : HttpLabel) :
    Decidable (NoLateCheckIn state label) := by
  unfold NoLateCheckIn
  cases label <;> infer_instance

/-- Deleted sessions are not in the table, and whoever still holds one is known. -/
structure DeletionInvariant (state : HttpWorld C × Deletions) : Prop where
  identified : state.1.Identified
  drawn : ∀ owner id, (owner,id) ∈ state.2.terminated →
    identifierOf (Sessions.key owner id) ∈ state.1.generated
  gone : ∀ owner id, (owner,id) ∈ state.2.terminated →
    AList.lookup (Sessions.key owner id) state.1.table = none
  revoked : ∀ (index : Nat) request, state.1.requests[index]? = some request →
    request.inFlight = true → ∀ owner id, (owner,id) ∈ state.2.terminated →
    request.key = Sessions.key owner id → index ∈ state.2.revoked

namespace DeletionInvariant

theorem initial : DeletionInvariant ((HttpWorld.empty : HttpWorld C),Deletions.none) where
  identified := HttpWorld.identified_empty
  drawn owner id member := by simp [Deletions.none] at member
  gone owner id member := by simp [Deletions.none] at member
  revoked index request found := by simp [HttpWorld.empty] at found

variable {world next : HttpWorld C} {history : Deletions} {label : HttpLabel}

/-- A step keeps the invariant with respect to the deletions before it. -/
theorem carry (valid : DeletionInvariant (world,history))
    (allowed : NoLateCheckIn (world,history) label) (effect : world.Effect next label) :
    DeletionInvariant (next,history) where
  identified := valid.identified.preserved effect
  drawn owner id member := effect.generated_mono (valid.drawn owner id member)
  gone owner id member := by
    cases present : AList.lookup (Sessions.key owner id) next.table with
    | none => rfl
    | some entry =>
      rcases effect.entry_origin present with ⟨old,before,_⟩ |
        ⟨index,request,rfl,known,phase,key,_⟩
      · rw [valid.gone owner id member] at before
        cases before
      · have flying : request.inFlight = true := by simp [HttpRequest.inFlight,phase]
        have keeps : ((world.requests[index]?).any HttpRequest.keeps) = true := by
          simp [known,HttpRequest.keeps,phase]
        exact absurd (valid.revoked index request known flying owner id member key)
          (allowed keeps)
  revoked index request found flying owner id member same := by
    rcases effect.request_origin found with ⟨old,known,key,_,flew⟩ |
      ⟨other,entropy,_,key,fresh,_,_⟩ | ⟨entry,filed,_⟩
    · exact valid.revoked index old known (flew flying) owner id member (key ▸ same)
    · -- A deleted session's identifier was drawn before, so the new key is another one.
      have drawn := valid.drawn owner id member
      rw [← same,key,identifierOf_key_randomHexId] at drawn
      exact absurd drawn fresh
    · rw [same,valid.gone owner id member] at filed
      cases filed

/-- A deletion answered `204` revokes every request that holds the session. -/
theorem delete (valid : DeletionInvariant (next,history)) {owner : Option String} {id : String}
    (requests : next.requests = world.requests)
    (drawn : identifierOf (Sessions.key owner id) ∈ next.generated)
    (gone : AList.lookup (Sessions.key owner id) next.table = none) :
    DeletionInvariant (next,⟨(owner,id) :: history.terminated,
      history.revoked ++ world.holders (Sessions.key owner id)⟩) where
  identified := valid.identified
  drawn other otherId member := by
    rw [List.mem_cons] at member
    rcases member with here | there
    · cases here
      exact drawn
    · exact valid.drawn other otherId there
  gone other otherId member := by
    rw [List.mem_cons] at member
    rcases member with here | there
    · cases here
      exact gone
    · exact valid.gone other otherId there
  revoked index request found flying other otherId member same := by
    rw [List.mem_append]
    rw [List.mem_cons] at member
    rcases member with here | there
    · cases here
      exact .inr (HttpWorld.mem_holders (requests ▸ found) flying same)
    · exact .inl (valid.revoked index request found flying other otherId there same)

/-- Every step keeps the invariant, unless it is a late check-in. -/
theorem preserved {http : HttpServer C} {state after : HttpWorld C × Deletions}
    {label : HttpLabel} (valid : DeletionInvariant state) (allowed : NoLateCheckIn state label)
    (taken : deletionStep http state label = some after) : DeletionInvariant after := by
  obtain ⟨world,history⟩ := state
  obtain ⟨next,later⟩ := after
  obtain ⟨stepped,recorded⟩ := Runs.observed_step taken
  simp only at stepped recorded
  subst recorded
  have effect := HttpWorld.step_effect stepped
  have carried := valid.carry allowed effect
  cases label with
  | delete owner id =>
    simp only [Deletions.record]
    split
    · rename_i present
      cases effect with
      | quiet still => cases still
      | deleted generated table requests =>
        obtain ⟨entry,found⟩ := Option.isSome_iff_exists.mp present
        have drawn := valid.identified.filed _ entry found
        have gone : AList.lookup (Sessions.key owner id) next.table = none := by
          rw [table,Sessions.lookup_terminate,if_pos rfl]
        exact carried.delete requests (generated ▸ drawn) gone
    · exact carried
  | _ => exact carried

end DeletionInvariant

/-- In a run without a late check-in, a deleted session is never found again. -/
theorem deleted_session_not_found (http : HttpServer C) (labels : List HttpLabel)
    (final : HttpWorld C × Deletions)
    (guarded : Runs.Guarded (deletionStep http) NoLateCheckIn
      (HttpWorld.empty,Deletions.none) labels)
    (run : Runs.execute (deletionStep http) (HttpWorld.empty,Deletions.none) labels = some final)
    (owner : Option String) (id : String) (ended : (owner,id) ∈ final.2.terminated) (now : Nat) :
    (Sessions.checkout final.1.table now owner id).2 = none := by
  have valid : DeletionInvariant final := Runs.guarded_invariant
    (fun _ _ _ holds allowed taken => holds.preserved allowed taken) guarded run .initial
  exact Sessions.checkout_missing now (valid.gone owner id ended)

/-- Deletion after the only request of the session has been answered. -/
def quietDeletion : List HttpLabel :=
  .checkoutNew none (List.replicate 16 0) ::
    HttpWorld.exchange 0 ⟨.number 1,"initialize",none⟩ "" ++
    [.delete none (randomHexId (List.replicate 16 0))]

theorem quietDeletion_not_found :
    (Sessions.checkout ((Runs.execute (deletionStep (.plain : HttpServer Unit))
      (HttpWorld.empty,Deletions.none) quietDeletion).get (by decide +kernel)).1.table 0 none
      (randomHexId (List.replicate 16 0))).2 = none :=
  deleted_session_not_found .plain quietDeletion _ (by decide +kernel) (by simp) none _
    (by decide +kernel) 0

/-- A ping in flight across the deletion files the session again: the next request
naming it is served. -/
def lateCheckIn : List HttpLabel :=
  .checkoutNew none (List.replicate 16 0) ::
    HttpWorld.exchange 0 ⟨.number 1,"initialize",none⟩ "" ++
    [.checkout none (randomHexId (List.replicate 16 0)),
      .delete none (randomHexId (List.replicate 16 0))] ++
    HttpWorld.exchange 1 ⟨.number 2,"ping",none⟩ ""

theorem deleted_session_found :
    ∃ final, Runs.execute (deletionStep (.plain : HttpServer Unit))
        (HttpWorld.empty,Deletions.none) lateCheckIn = some final ∧
      (none,randomHexId (List.replicate 16 0)) ∈ final.2.terminated ∧
      (Sessions.checkout final.1.table final.1.now none
        (randomHexId (List.replicate 16 0))).2 = some 0 :=
  ⟨(Runs.execute (deletionStep (.plain : HttpServer Unit)) (HttpWorld.empty,Deletions.none)
      lateCheckIn).get (by decide +kernel),(Option.some_get _).symm,by decide +kernel,
    by decide +kernel⟩

end SmlMcps
