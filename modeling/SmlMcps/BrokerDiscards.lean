import SmlMcps.BrokerDelivery

/-! A late answer. The broker remembers a request that was given up until 64 others have
been given up after it, or an answer to it has been thrown away. -/
namespace SmlMcps

/-- The operation brings no answer to this request, and nobody to wait for one. -/
def BrokerLabel.spares (id : RequestId) : BrokerLabel → Prop
  | .deliver response | .park response => response.id ≠ id
  | .registerWaiter given => given ≠ id
  | _ => True

namespace RequestBroker

variable {broker : RequestBroker} {id : RequestId}

/-- Counts the other requests that are given up. -/
def countOthers (id : RequestId) (before : RequestBroker) (label : BrokerLabel)
    (_ : RequestBroker) (count : Nat) : Nat :=
  match label with
  | .abandon other => if other = id then count else count + 1
  | .cancel other => if other ≠ id ∧ before.wasIssuedHere other then count + 1 else count
  | _ => count

/-- Whatever comes before it, the first answer to this request is thrown away, as long as
fewer than 64 others have been given up meanwhile. -/
def Discards (broker : RequestBroker) (id : RequestId) : Prop :=
  ∀ labels later count,
    Runs.execute (Runs.observed step (countOthers id)) (broker,0) labels = some (later,count) →
    (∀ label ∈ labels, label.spares id) → count < maxAbandoned →
    ∀ response : JsonRpcResponse, response.id = id →
      (later.deliver response).parked = later.parked ∧
        (later.deliver response).channels = later.channels

/-! ## Remembered -/

/-- Nobody waits for the answer, and what was given up after the request is counted. -/
structure Remembers (id : RequestId) (state : RequestBroker × Nat) : Prop where
  unheld : state.1.waiter? id = none
  behind : state.2 < maxAbandoned → ∃ front back,
    state.1.abandoned = front ++ id :: back ∧ back.length ≤ state.2

theorem abandon_unheld (unheld : broker.waiter? id = none) (given : RequestId) :
    (broker.abandon given).waiter? id = none := by
  rw [show (broker.abandon given).waiter? id = _ from KeyedTable.lookup_erase_eq given id _]
  split
  · rfl
  · exact unheld

theorem deliver_unheld (unheld : broker.waiter? id = none) (response : JsonRpcResponse) :
    (broker.deliver response).waiter? id = none := by
  simp only [deliver]
  split
  · refine (KeyedTable.lookup_erase_eq response.id id _).trans ?_
    split
    · rfl
    · exact unheld
  · exact (congrArg (AList.lookup id) (park_aside broker response).1).trans unheld

/-- A delivery takes at most the id of its response off the list. -/
theorem deliver_abandoned (broker : RequestBroker) (response : JsonRpcResponse) :
    (broker.deliver response).abandoned = broker.abandoned ∨
      (broker.deliver response).abandoned = broker.abandoned.erase response.id := by
  simp only [deliver]
  split
  · exact .inl rfl
  · rcases park_cases broker response with same | ⟨_,forgot⟩ | ⟨_,kept⟩
    · rw [same]
      exact .inl rfl
    · rw [forgot]
      exact .inr rfl
    · rw [kept]
      exact .inl rfl

theorem park_abandoned (broker : RequestBroker) (response : JsonRpcResponse) :
    (broker.park response).abandoned = broker.abandoned ∨
      (broker.park response).abandoned = broker.abandoned.erase response.id := by
  rcases park_cases broker response with same | ⟨_,forgot⟩ | ⟨_,kept⟩
  · rw [same]
    exact .inl rfl
  · rw [forgot]
    exact .inr rfl
  · rw [kept]
    exact .inl rfl

/-- The list forgets another request, before this one or behind it. -/
theorem erase_behind {front back : List RequestId} {other : RequestId} (apart : other ≠ id) :
    ∃ before after, (front ++ id :: back).erase other = before ++ id :: after ∧
      after.length ≤ back.length := by
  rw [List.erase_append]
  split
  · exact ⟨_,back,rfl,Nat.le_refl _⟩
  · rw [List.erase_cons_tail (by simpa using Ne.symm apart)]
    exact ⟨front,_,rfl,List.length_erase_le⟩

/-- One more is given up: the oldest goes, and this one is not the oldest yet. -/
theorem abandon_behind {front back : List RequestId}
    (remembered : broker.abandoned = front ++ id :: back) (room : back.length + 1 < maxAbandoned)
    (given : RequestId) :
    ∃ before, (broker.abandon given).abandoned = before ++ id :: (back ++ [given]) := by
  have room : back.length + 1 < 64 := room
  simp only [abandon,remembered,List.append_assoc,List.cons_append]
  rw [List.drop_append_of_le_length]
  · exact ⟨_,rfl⟩
  · simp only [List.length_append,List.length_cons,List.length_nil,maxAbandoned]
    omega

theorem abandon_last (broker : RequestBroker) (given : RequestId) :
    ∃ before, (broker.abandon given).abandoned = before ++ [given] := by
  simp only [abandon]
  rw [List.drop_append_of_le_length]
  · exact ⟨_,rfl⟩
  · simp only [List.length_append,List.length_cons,List.length_nil,maxAbandoned]
    omega

theorem Remembers.aside {state next : RequestBroker × Nat} (remembers : Remembers id state)
    (unheld : next.1.waiter? id = none) (abandoned : next.1.abandoned = state.1.abandoned)
    (counted : next.2 = state.2) : Remembers id next := by
  refine ⟨unheld,?_⟩
  rw [counted,abandoned]
  exact remembers.behind

theorem Remembers.forgets {broker after : RequestBroker} {count : Nat}
    (remembers : Remembers id (broker,count)) (unheld : after.waiter? id = none)
    {response : JsonRpcResponse} (apart : response.id ≠ id)
    (abandoned : after.abandoned = broker.abandoned ∨
      after.abandoned = broker.abandoned.erase response.id) : Remembers id (after,count) := by
  refine ⟨unheld,fun few => ?_⟩
  obtain ⟨front,back,remembered,counted⟩ := remembers.behind few
  have remembered : broker.abandoned = front ++ id :: back := remembered
  rcases abandoned with same | erased
  · exact ⟨front,back,same.trans remembered,counted⟩
  · obtain ⟨before,later,same,shorter⟩ := @erase_behind id front back response.id apart
    refine ⟨before,later,?_,shorter.trans counted⟩
    rw [← same,← remembered]
    exact erased

theorem Remembers.abandon {count : Nat} (remembers : Remembers id (broker,count))
    (given : RequestId) :
    Remembers id (broker.abandon given,if given = id then count else count + 1) := by
  refine ⟨abandon_unheld remembers.unheld given,fun few => ?_⟩
  by_cases again : given = id
  · subst again
    obtain ⟨before,last⟩ := abandon_last broker given
    exact ⟨before,[],last,Nat.zero_le _⟩
  · rw [if_neg again] at few ⊢
    obtain ⟨front,back,remembered,counted⟩ := remembers.behind (Nat.lt_of_succ_lt few)
    have room : back.length + 1 < maxAbandoned := Nat.lt_of_le_of_lt (Nat.succ_le_succ counted) few
    obtain ⟨before,still⟩ := abandon_behind remembered room given
    refine ⟨before,back ++ [given],still,?_⟩
    rw [List.length_append,List.length_singleton]
    exact Nat.succ_le_succ counted

theorem step_remembers (state : RequestBroker × Nat) (label : BrokerLabel)
    (next : RequestBroker × Nat) (remembers : Remembers id state) (spares : label.spares id)
    (taken : Runs.observed step (countOthers id) state label = some next) :
    Remembers id next := by
  obtain ⟨broker,count⟩ := state
  have unheld : broker.waiter? id = none := remembers.unheld
  cases taken
  cases label with
  | nextRequestId =>
    obtain ⟨nextId,drawn⟩ := drawId_kept broker
    simp only [perform,drawn]
    exact remembers.aside unheld rfl rfl
  | takeParked taken =>
    simp only [perform,takeParked]
    split
    · exact remembers.aside unheld rfl rfl
    · exact remembers.aside unheld rfl rfl
  | registerWaiter given =>
    refine remembers.aside ?_ rfl rfl
    exact (KeyedTable.lookup_insert_eq given id _ _).trans ((if_neg (Ne.symm spares)).trans unheld)
  | deliver response =>
    exact remembers.forgets (deliver_unheld unheld response) spares
      (deliver_abandoned broker response)
  | park response =>
    have kept := (congrArg (AList.lookup id) (park_aside broker response).1).trans unheld
    exact remembers.forgets kept spares (park_abandoned broker response)
  | abandon given => exact remembers.abandon given
  | cancel given =>
    simp only [perform,cancel,countOthers]
    by_cases ours : broker.wasIssuedHere given = true
    · rw [if_pos ours]
      have given_ := remembers.abandon given
      by_cases again : given = id
      · simpa [again] using given_
      · simpa [again,ours] using given_
    · rw [if_neg ours,if_neg (fun both => ours both.2)]
      exact remembers
  | defer message =>
    simp only [perform,countOthers]
    rcases defer_cases broker message with full | taken
    · rw [full]
      exact remembers
    · rw [taken]
      exact remembers.aside unheld rfl rfl
  | nextDeferred =>
    simp only [perform,nextDeferred,countOthers]
    split
    · exact remembers
    · exact remembers.aside unheld rfl rfl

theorem run_remembers {labels : List BrokerLabel} {state final : RequestBroker × Nat}
    (spares : ∀ label ∈ labels, label.spares id)
    (run : Runs.execute (Runs.observed step (countOthers id)) state labels = some final)
    (start : Remembers id state) : Remembers id final := by
  induction labels generalizing state with
  | nil =>
    cases run
    exact start
  | cons label rest ih =>
    rw [Runs.execute_cons,Option.bind_eq_some_iff] at run
    obtain ⟨next,taken,later⟩ := run
    have here := step_remembers state label next start (spares label List.mem_cons_self) taken
    exact ih (fun other member => spares other (List.mem_cons_of_mem _ member)) later here

/-! ## Thrown away -/

theorem Remembers.discards {count : Nat} (remembers : Remembers id (broker,count))
    (few : count < maxAbandoned) {response : JsonRpcResponse} (late : response.id = id) :
    (broker.deliver response).parked = broker.parked ∧
      (broker.deliver response).channels = broker.channels := by
  obtain ⟨front,back,remembered,_⟩ := remembers.behind few
  have unheld : broker.waiter? response.id = none := late ▸ remembers.unheld
  have given : response.id ∈ broker.abandoned := by
    rw [late,show broker.abandoned = front ++ id :: back from remembered]
    simp
  have refused : broker.refuses response = true := by
    simp [refuses,given,unheld]
  obtain ⟨parks,kept⟩ := refused_unseen refused
  rw [parks]
  exact ⟨kept,(park_aside broker response).2.1⟩

theorem discards_of_last (unheld : broker.waiter? id = none)
    (last : broker.abandoned.getLast? = some id) : broker.Discards id := by
  obtain ⟨front,remembered⟩ := List.getLast?_eq_some_iff.mp last
  have start : Remembers id (broker,0) := ⟨unheld,fun _ => ⟨front,[],remembered,Nat.le_refl _⟩⟩
  intro labels later count run spares few response late
  have remembers : Remembers id (later,count) :=
    run_remembers spares run start
  exact remembers.discards few late

/-! ## Kept -/

/-- Some of what was given up before, and as many again after it. -/
structure Crowded (start : RequestBroker) (id other : RequestId) (pushed : Nat)
    (broker : RequestBroker) : Prop where
  nextId : broker.nextId = start.nextId
  unheld : broker.waiter? id = none
  bounded : pushed = 0 ∨ broker.abandoned.length ≤ maxAbandoned
  abandoned : ∃ kept, broker.abandoned = kept ++ List.replicate pushed other ∧
    kept <:+ start.abandoned

theorem Crowded.abandon {start : RequestBroker} {other : RequestId} {pushed : Nat}
    (crowded : Crowded start id other pushed broker) (room : pushed < maxAbandoned) :
    Crowded start id other (pushed + 1) (broker.abandon other) := by
  obtain ⟨kept,same,older⟩ := crowded.abandoned
  refine ⟨crowded.nextId,abandon_unheld crowded.unheld other,.inr (drop_length_le _ maxAbandoned),?_⟩
  have room : pushed < 64 := room
  simp only [RequestBroker.abandon,same,List.append_assoc]
  rw [← List.replicate_succ',List.drop_append_of_le_length]
  · exact ⟨_,rfl,(List.drop_suffix _ kept).trans older⟩
  · simp only [List.length_append,List.length_replicate,maxAbandoned]
    omega

theorem crowded_run {start : RequestBroker} {other : RequestId} (apart : other ≠ id) (more : Nat)
    {pushed : Nat} (crowded : Crowded start id other pushed broker)
    (room : pushed + more < maxAbandoned) :
    ∃ later, Runs.execute (Runs.observed step (countOthers id)) (broker,pushed)
        (List.replicate more (.abandon other)) = some (later,pushed + more) ∧
      Crowded start id other (pushed + more) later := by
  induction more generalizing broker pushed with
  | zero => exact ⟨broker,rfl,crowded⟩
  | succ more ih =>
    have next := crowded.abandon (Nat.lt_of_le_of_lt (Nat.le_add_right _ _) room)
    have onward : pushed + 1 + more = pushed + (more + 1) := by omega
    obtain ⟨later,run,still⟩ := ih next (onward ▸ room)
    rw [onward] at run still
    refine ⟨later,?_,still⟩
    rw [List.replicate_succ,Runs.execute_cons]
    simp only [Runs.observed,step,perform,countOthers,if_neg apart,Option.map_some,
      Option.bind_some]
    exact run

/-- An answer nobody waits for is parked, in the place of an older one or at the end. -/
theorem parkIn_changes (parked : List JsonRpcResponse) {first second : JsonRpcResponse}
    (same : first.id = second.id) (different : first ≠ second) :
    parkIn parked first ≠ parked ∨ parkIn parked second ≠ parked := by
  by_contra! unchanged
  obtain ⟨one,two⟩ := unchanged
  simp only [parkIn,same] at one two
  split at one
  · rename_i index found
    rw [found] at two
    obtain ⟨inside,_⟩ := List.findIdx?_eq_some_iff_getElem.mp found
    have here : parked[index]? = some first := by
      rw [← one]
      exact List.getElem?_set_self inside
    have there : parked[index]? = some second := by
      rw [← two]
      exact List.getElem?_set_self inside
    exact different (Option.some.inj (here.symm.trans there))
  · rename_i absent
    have member : first ∈ parked := by
      rw [← one,List.drop_append_of_le_length]
      · exact List.mem_append_right _ (List.mem_singleton_self first)
      · simp only [List.length_append,List.length_singleton,maxParked]
        omega
    have known := List.findIdx?_eq_none_iff.mp absent first member
    simp [same] at known

/-- Nothing keeps this answer out. -/
theorem parks_wanted (ours : broker.wasIssuedHere id = true) (unheld : broker.waiter? id = none)
    (wanted : id ∉ broker.abandoned) :
    ∃ response : JsonRpcResponse, response.id = id ∧
      (broker.deliver response).parked ≠ broker.parked := by
  have parks {response : JsonRpcResponse} (late : response.id = id) :
      (broker.deliver response).parked = parkIn broker.parked response := by
    subst late
    simp only [deliver]
    rw [show AList.lookup response.id broker.waiters = none from unheld]
    simp [park,ours,forgetAbandoned,wanted]
  rcases @parkIn_changes broker.parked ⟨id,some .null,none⟩ ⟨id,none,none⟩ rfl (by simp) with
    changes | changes
  · refine ⟨⟨id,some .null,none⟩,rfl,?_⟩
    rw [parks rfl]
    exact changes
  · refine ⟨⟨id,none,none⟩,rfl,?_⟩
    rw [parks rfl]
    exact changes

/-- Sixty-three others are enough to push out a request that was not the last. -/
theorem last_of_discards (issued : broker.Issued id) (bound : broker.nextId ≤ 2^64)
    (unheld : broker.waiter? id = none) (discards : broker.Discards id) :
    broker.abandoned.getLast? = some id := by
  by_contra missing
  have apart : RequestId.null ≠ id := by
    obtain ⟨_,_,rfl⟩ := issued
    exact nofun
  have start : Crowded broker id .null 0 broker :=
    ⟨rfl,unheld,.inl rfl,broker.abandoned,(List.append_nil _).symm,List.suffix_refl _⟩
  obtain ⟨later,run,crowded⟩ := crowded_run apart 63 start (by decide)
  obtain ⟨kept,same,older⟩ := crowded.abandoned
  have short : kept.length ≤ 1 := by
    have bounded := crowded.bounded.resolve_left (by decide)
    rw [same,List.length_append,List.length_replicate] at bounded
    simp only [maxAbandoned] at bounded
    omega
  have wanted : id ∉ later.abandoned := by
    rw [same,List.mem_append]
    rintro (member | pushed)
    · obtain ⟨last,rfl⟩ := List.length_eq_one_iff.mp
        (Nat.le_antisymm short (List.length_pos_of_mem member))
      obtain ⟨front,whole⟩ := older
      rw [← whole,List.mem_singleton.mp member] at missing
      simp at missing
    · exact apart (List.eq_of_mem_replicate pushed).symm
  have ours : later.wasIssuedHere id = true := by
    obtain ⟨number,below,named⟩ := issued
    exact wasIssuedHere_of_issued ⟨number,crowded.nextId ▸ below,named⟩ (crowded.nextId ▸ bound)
  obtain ⟨response,late,changes⟩ := parks_wanted ours crowded.unheld wanted
  have kept_ := discards _ later 63 run ?_ (by decide) response late
  · exact changes kept_.1
  · intro label member
    rw [List.eq_of_mem_replicate member]
    trivial

theorem discards_iff (issued : broker.Issued id) (bound : broker.nextId ≤ 2^64)
    (unheld : broker.waiter? id = none) :
    broker.Discards id ↔ broker.abandoned.getLast? = some id :=
  ⟨last_of_discards issued bound unheld,discards_of_last unheld⟩

end RequestBroker

end SmlMcps
