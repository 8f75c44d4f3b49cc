import SmlMcps.SessionSteps

/-! Retention of advertised sessions. Whether a session is worth keeping is judged
under its own lock, and the table is changed under another one later: a judgement
that nothing is worth keeping can be out of date when it is acted upon, and then
removes what another request has stored and advertised. Advertised sessions stay in
the runs without such a stale discard. -/
namespace SmlMcps

variable {C : Type}

namespace HttpWorld

/-- The entry under `filed` is one the next sweep drops. -/
def idleAt (world : HttpWorld C) (filed : String) : Bool :=
  (AList.lookup filed world.table).any (Sessions.idle world.now)

/-- What is filed under `filed`, if anything, is not worth keeping as things stand. -/
def discardable (world : HttpWorld C) (filed : String) : Bool :=
  match AList.lookup filed world.table with
  | none => true
  | some entry => (world.sessions[entry.state]?).any fun session =>
    !(session.worthKeeping world.stores world.wall).2

/-- Filing `request` drops the entry under `filed` to make room. -/
def evictedBy (world : HttpWorld C) (request : HttpRequest C) (filed : String) : Bool :=
  (AList.lookup filed (world.table.insert request.key ⟨request.session,world.now⟩)).isSome &&
    (AList.lookup filed
      (Sessions.checkIn world.table world.now request.key request.session true)).isNone

end HttpWorld

/-- The keys and sessions a client has been told about and that nothing has ended
since: a deletion, the idle timeout, an eviction, or a removal of a session that was
not worth keeping any more. -/
abbrev Advertised := List (String × Nat)

def Advertised.record (before : HttpWorld C) (label : HttpLabel) (_after : HttpWorld C)
    (owed : Advertised) : Advertised :=
  match label with
  | .checkoutNew .. | .checkout .. => owed.filter fun promise => !before.idleAt promise.1
  | .delete owner id =>
    if (Sessions.terminate before.table owner id).2 then
      owed.filter fun promise => promise.1 != Sessions.key owner id
    else owed
  | .update index =>
    match before.requests[index]? with
    | none => owed
    | some request =>
      match request.phase with
      | .tested true => ((request.key,request.session) :: owed).filter fun promise =>
        !before.evictedBy request promise.1
      | .tested false =>
        if before.discardable request.key then
          owed.filter fun promise => promise.1 != request.key
        else owed
      | _ => owed
  | _ => owed

/-- The HTTP world with its promises written down. -/
def retentionStep (http : HttpServer C) :
    HttpWorld C × Advertised → HttpLabel → Option (HttpWorld C × Advertised) :=
  Runs.observed (HttpWorld.step http) Advertised.record

def HttpRequest.discards (request : HttpRequest C) : Bool :=
  match request.phase with
  | .tested keep => !keep
  | _ => false

/-- A request that judged its session not worth keeping removes it only while that
judgement still holds of what is filed. -/
def NoStaleDiscard (state : HttpWorld C × Advertised) (label : HttpLabel) : Prop :=
  match label with
  | .update index => ∀ request ∈ state.1.requests[index]?, request.discards = true →
    state.1.discardable request.key = true
  | _ => True

instance (state : HttpWorld C × Advertised) : (label : HttpLabel) →
    Decidable (NoStaleDiscard state label)
  | .update index => inferInstanceAs (Decidable (∀ request ∈ state.1.requests[index]?,
    request.discards = true → state.1.discardable request.key = true))
  | .elapse _ | .setClock _ | .checkoutNew _ _ | .checkout _ _ | .reject _ | .restore _
  | .process _ _ _ | .absorb _ | .settle _ | .test _ | .delete _ _ | .storeChange _ _ =>
    isTrue trivial

structure RetentionInvariant (state : HttpWorld C × Advertised) : Prop where
  identified : state.1.Identified
  kept : ∀ key session, (key,session) ∈ state.2 →
    ∃ entry, AList.lookup key state.1.table = some entry ∧ entry.state = session

namespace RetentionInvariant

theorem initial : RetentionInvariant ((HttpWorld.empty : HttpWorld C),[]) where
  identified := HttpWorld.identified_empty
  kept key session member := by cases member

variable {world next : HttpWorld C} {owed : Advertised} {label : HttpLabel}

theorem swept_kept (valid : RetentionInvariant (world,owed)) {key : String} {session : Nat}
    (member : (key,session) ∈ owed.filter fun promise => !world.idleAt promise.1) :
    ∃ entry, AList.lookup key (Sessions.sweep world.now world.table) = some entry ∧
      entry.state = session := by
  rw [List.mem_filter] at member
  obtain ⟨promised,fresh⟩ := member
  obtain ⟨entry,found,state⟩ := valid.kept key session promised
  have used : Sessions.idle world.now entry = false := by
    simpa [HttpWorld.idleAt,found] using fresh
  refine ⟨entry,?_,state⟩
  rw [Sessions.lookup_sweep,found]
  simp [Option.filter,used]

/-- A check-in that keeps its session keeps every promise except to the evicted. -/
theorem filed_kept (valid : RetentionInvariant (world,owed)) {index : Nat}
    {request : HttpRequest C} (known : world.requests[index]? = some request) {key : String}
    {session : Nat} (member : (key,session) ∈ ((request.key,request.session) :: owed).filter
      fun promise => !world.evictedBy request promise.1) :
    ∃ entry, AList.lookup key (Sessions.checkIn world.table world.now request.key
      request.session true) = some entry ∧ entry.state = session := by
  rw [List.mem_filter,List.mem_cons] at member
  obtain ⟨promised,room⟩ := member
  have inserted : ∃ entry, AList.lookup key (world.table.insert request.key
      ⟨request.session,world.now⟩) = some entry ∧ entry.state = session := by
    rw [KeyedTable.lookup_insert_eq]
    rcases promised with here | there
    · cases here
      exact ⟨_,if_pos rfl,rfl⟩
    · obtain ⟨entry,found,state⟩ := valid.kept key session there
      split
      · rename_i same
        subst same
        exact ⟨_,rfl,(valid.identified.agreed index request entry known found).symm.trans state⟩
      · exact ⟨entry,found,state⟩
  obtain ⟨entry,found,state⟩ := inserted
  refine ⟨entry,?_,state⟩
  have outcome := KeyedTable.lookup_evict SessionEntry.lastUsed maxSessions
    (world.table.insert request.key ⟨request.session,world.now⟩) key
  rcases outcome with missing | same
  · have evicted : world.evictedBy request key = true := by
      have gone : AList.lookup key (Sessions.checkIn world.table world.now request.key
        request.session true) = none := missing
      simp [HttpWorld.evictedBy,found,gone]
    simp [evicted] at room
  · exact same.trans found

/-- Removing one key keeps the promises about the others. -/
theorem other_kept (valid : RetentionInvariant (world,owed)) {removed key : String}
    {session : Nat} {table : Sessions} (member : (key,session) ∈ owed)
    (different : key ≠ removed)
    (lookup : AList.lookup key table = if key = removed then none else AList.lookup key world.table) :
    ∃ entry, AList.lookup key table = some entry ∧ entry.state = session := by
  rw [lookup,if_neg different]
  exact valid.kept key session member

theorem preserved {http : HttpServer C} {state after : HttpWorld C × Advertised}
    {label : HttpLabel} (valid : RetentionInvariant state) (allowed : NoStaleDiscard state label)
    (taken : retentionStep http state label = some after) : RetentionInvariant after := by
  obtain ⟨world,owed⟩ := state
  obtain ⟨next,later⟩ := after
  obtain ⟨stepped,recorded⟩ := Runs.observed_step taken
  simp only at stepped recorded
  subst recorded
  have effect := HttpWorld.step_effect stepped
  refine ⟨valid.identified.preserved effect,?_⟩
  intro key session member
  show ∃ entry, AList.lookup key next.table = some entry ∧ entry.state = session
  cases effect with
  | quiet still table generated requests =>
    have unwritten : Advertised.record world label next owed = owed := by
      cases label <;> first | rfl | cases still
    simp only [unwritten] at member
    rw [table]
    exact valid.kept key session member
  | arrived fresh generated table requests =>
    rw [table]
    exact valid.swept_kept member
  | refused generated table requests =>
    rw [table]
    exact valid.swept_kept member
  | @found owner id entry filed generated table requests =>
    obtain ⟨stored,found,state⟩ := valid.swept_kept member
    rw [table,KeyedTable.lookup_insert_eq]
    split
    · rename_i same
      subst same
      rw [filed] at found
      cases found
      exact ⟨_,rfl,state⟩
    · exact ⟨stored,found,state⟩
  | @updated index request keep known phase generated table requests =>
    rw [table]
    cases keep with
    | true =>
      simp only [Advertised.record,known,phase] at member
      exact valid.filed_kept known member
    | false =>
      have discards : request.discards = true := by simp [HttpRequest.discards,phase]
      have stale := allowed request known discards
      simp only [Advertised.record,known,phase,stale,if_true,List.mem_filter] at member
      obtain ⟨promised,different⟩ := member
      exact valid.other_kept promised (by simpa using different)
        (Sessions.lookup_checkIn_discard _ _ _ _ _)
  | @deleted owner id generated table requests =>
    rw [table]
    have removal := Sessions.lookup_terminate world.table owner id key
    cases present : (Sessions.terminate world.table owner id).2 with
    | true =>
      simp only [Advertised.record,present,if_true,List.mem_filter] at member
      obtain ⟨promised,different⟩ := member
      exact valid.other_kept promised (by simpa using different) removal
    | false =>
      simp only [Advertised.record,present,Bool.false_eq_true,if_false] at member
      have different : key ≠ Sessions.key owner id := by
        intro same
        obtain ⟨entry,found,_⟩ := valid.kept key session member
        rw [same] at found
        simp [Sessions.terminate,found] at present
      exact valid.other_kept member different removal

end RetentionInvariant

/-- In a run without a stale discard, a session that was advertised, and that nothing
has ended since, is found unless it has been idle for the timeout. -/
theorem advertised_session_found (http : HttpServer C) (labels : List HttpLabel)
    (final : HttpWorld C × Advertised)
    (guarded : Runs.Guarded (retentionStep http) NoStaleDiscard (HttpWorld.empty,[]) labels)
    (run : Runs.execute (retentionStep http) (HttpWorld.empty,[]) labels = some final)
    (owner : Option String) (id : String) (session : Nat)
    (promised : (Sessions.key owner id,session) ∈ final.2) :
    (Sessions.checkout final.1.table final.1.now owner id).2 = some session ∨
      final.1.idleAt (Sessions.key owner id) = true := by
  have valid : RetentionInvariant final := Runs.guarded_invariant
    (fun _ _ _ holds allowed taken => holds.preserved allowed taken) guarded run .initial
  obtain ⟨entry,found,state⟩ := valid.kept _ session promised
  cases used : Sessions.idle final.1.now entry with
  | true => exact .inr (by simp [HttpWorld.idleAt,found,used])
  | false => exact .inl (state ▸ Sessions.checkout_found found used)

/-- One request handshakes and is told about its session. -/
def plainHandshake : List HttpLabel :=
  .checkoutNew none (List.replicate 16 0) ::
    HttpWorld.exchange 0 ⟨.number 1,"initialize",none⟩ ""

theorem plainHandshake_found :
    (fun final : HttpWorld Unit × Advertised =>
      (Sessions.checkout final.1.table final.1.now none
        (randomHexId (List.replicate 16 0))).2 = some 0 ∨
      final.1.idleAt (Sessions.key none (randomHexId (List.replicate 16 0))) = true)
    ((Runs.execute (retentionStep (.plain : HttpServer Unit)) (HttpWorld.empty,[])
      plainHandshake).get (by decide +kernel)) :=
  advertised_session_found .plain plainHandshake _ (by decide +kernel) (by simp) none _ 0
    (by decide +kernel)

/-! ## A stale discard -/

/-- The plain server with tasks and one tool. -/
def tasksHttp : HttpServer Unit where
  config := ServerConfig.default "0.7.3" ⟨id,some⟩
  setup store server := .ok { server with
    tools := server.tools.insert "job" ⟨.constant "job" (.ok (.error "done")),none,.none⟩
    tasks := some ⟨store,.default,.ok ()⟩ }

def callAsTask : JsonRpcRequest :=
  ⟨.number 1,"tools/call",some (.obj [("name",.str "job"),("task",.obj [("ttl",Json.ofNat 1000)])])⟩

/-- A session kept only for its task is advertised. Once the task has expired a ping
finds nothing worth keeping; before it removes the session, an `initialize` stores a
handshake in it and is told about it again. -/
def staleDiscard : List HttpLabel :=
  .checkoutNew none (List.replicate 16 0) :: HttpWorld.exchange 0 callAsTask "task" ++
    [.setClock 2000000000,.checkout none (randomHexId (List.replicate 16 0)),.restore 1,
      .process 1 (.ok (.request ⟨.number 2,"ping",none⟩)) "",.absorb 1,.test 1,
      .checkout none (randomHexId (List.replicate 16 0))] ++
    HttpWorld.exchange 2 ⟨.number 3,"initialize",none⟩ "" ++ [.update 1]

theorem advertised_session_lost :
    ∃ final, Runs.execute (retentionStep tasksHttp) (HttpWorld.empty,[]) staleDiscard =
        some final ∧
      (Sessions.key none (randomHexId (List.replicate 16 0)),0) ∈ final.2 ∧
      (Sessions.checkout final.1.table final.1.now none
        (randomHexId (List.replicate 16 0))).2 = none ∧
      final.1.idleAt (Sessions.key none (randomHexId (List.replicate 16 0))) = false :=
  ⟨(Runs.execute (retentionStep tasksHttp) (HttpWorld.empty,[]) staleDiscard).get
      (by decide +kernel),(Option.some_get _).symm,by decide +kernel,by decide +kernel,
    by decide +kernel⟩

end SmlMcps
