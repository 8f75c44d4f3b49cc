import SmlMcps.Http1Passes

/-! The budget of a request. Its clock starts when the server has the first byte before it,
and every later read of head, body or drain runs under that one deadline: it is checked
before the read, and the read is armed with what was left of it. A read is late only by
what the server itself let pass between the check and the arming. -/
namespace SmlMcps.Http1

/-! ## Time on the wire -/

namespace Wire

variable {wire : Wire}

@[simp] theorem instantNow_armed (wire : Wire) : wire.instantNow.2.armed = wire.armed := by
  simp only [instantNow]
  split <;> rfl

theorem now_le_instantNow (wire : Wire) : wire.now ≤ wire.instantNow.1 := by
  simp only [instantNow]
  split
  · exact Nat.le_refl _
  · exact Nat.le_add_right _ _

/-- A read returns by its timeout, and leaves the timeout as it is. -/
theorem receive_time (wire : Wire) : wire.now ≤ wire.receive.2.now ∧
    wire.receive.2.now ≤ wire.now + wire.armed ∧ wire.receive.2.armed = wire.armed := by
  simp only [receive]
  split
  · exact ⟨Nat.le_refl _,Nat.le_add_right _ _,rfl⟩
  · split
    · exact ⟨Nat.le_add_right _ _,Nat.le_refl _,rfl⟩
    · exact ⟨Nat.le_max_left _ _,by simp only; omega,rfl⟩

theorem fillBuf_time (wire : Wire) : wire.now ≤ wire.fillBuf.2.now ∧
    wire.fillBuf.2.now ≤ wire.now + wire.armed ∧ wire.fillBuf.2.armed = wire.armed := by
  simp only [fillBuf]
  split
  · exact wire.receive_time
  · exact ⟨Nat.le_refl _,Nat.le_add_right _ _,rfl⟩

end Wire

/-- The socket is armed with what is left when the clock is read for it. -/
theorem Deadline.arm_armed (deadline : Deadline) (wire : Wire) :
    (deadline.arm wire).armed = max (deadline.instant - (deadline.arm wire).now) minTimeout := by
  simp only [Deadline.arm,Wire.armRead,Wire.instantNow_now]

theorem Deadline.startingNow_le (total : Nat) (wire : Wire) :
    (Deadline.startingNow total wire).1.instant ≤ wire.instantNow.1 + total := by
  simp only [Deadline.startingNow]
  split
  · exact Nat.le_refl _
  · split
    · simp only
      omega
    · exact Nat.le_add_right _ _

theorem overdue_time (clock : Option Deadline) (wire : Wire) :
    wire.now ≤ (overdue clock wire).2.now ∧ (overdue clock wire).2.armed = wire.armed := by
  cases clock with
  | none => exact ⟨Nat.le_refl _,rfl⟩
  | some deadline =>
    simp only [overdue,Deadline.expired,Wire.instantNow_now,Wire.instantNow_armed,and_true]
    exact wire.now_le_instantNow

/-! ## Passes under a deadline -/

/-- The pass starts where the clock was read last, and the socket is on what the deadline
left when it was armed. -/
structure Pass.Under (deadline : Deadline) (pass : Pass) : Prop where
  clock : pass.clock = some deadline
  started : pass.started = max pass.checked pass.armedAt
  timeout : pass.timeout = max (deadline.instant - pass.armedAt) minTimeout

/-- What a read under a deadline may take. -/
structure Pass.InBudget (deadline : Deadline) (pass : Pass) : Prop where
  started : pass.started < deadline.instant + pass.gap
  armed : minTimeout ≤ pass.timeout
  timeout : pass.timeout ≤ max (deadline.instant - pass.started) minTimeout + pass.gap
  ended : pass.ended ≤ deadline.instant + minTimeout + pass.gap

/-- A pass that reads has found the deadline ahead of it. -/
theorem Pass.Under.ahead {deadline : Deadline} {pass : Pass} (under : pass.Under deadline)
    (reads : pass.reads = true) : pass.checked < deadline.instant := by
  have unspent : pass.spent = false := by
    simp only [Pass.reads,Bool.and_eq_true,Bool.not_eq_true'] at reads
    exact reads.1
  simpa [Pass.spent,under.clock] using unspent

theorem Pass.Under.inBudget {deadline : Deadline} {pass : Pass} (under : pass.Under deadline)
    (reads : pass.reads = true) : pass.InBudget deadline := by
  have checked := under.ahead reads
  have returned : pass.ended ≤ pass.started + pass.timeout := pass.wire.fillBuf_time.2.1
  have started := under.started
  have timeout := under.timeout
  have gap : pass.gap = (pass.checked - pass.armedAt) + (pass.armedAt - pass.checked) := rfl
  exact ⟨by omega,by omega,by omega,by omega⟩

theorem Deadline.pass_under (deadline : Deadline) (wire : Wire) :
    (deadline.pass wire).Under deadline := by
  have now : (deadline.arm (deadline.expired wire).2).now =
      (deadline.expired wire).2.instantNow.1 := (deadline.expired wire).2.instantNow_now
  have later : (deadline.pass wire).checked ≤ (deadline.pass wire).armedAt :=
    Nat.le_trans (deadline.expired wire).2.now_le_instantNow (Nat.le_of_eq now.symm)
  exact ⟨rfl,(Nat.max_eq_right later).symm,deadline.arm_armed _⟩

section
variable {deadline : Deadline}

theorem exactlyPasses_under (outstanding : Nat) (wire : Wire) :
    ∀ pass ∈ exactlyPasses outstanding deadline wire, pass.Under deadline := by
  fun_induction exactlyPasses outstanding deadline wire with
  | case1 => simp
  | case2 outstanding wire more interrupted filled =>
    intro pass member
    rcases List.mem_cons.mp member with rfl | later
    · exact deadline.pass_under wire
    · split at later
      · rename_i next outcome
        exact interrupted next outcome pass later
      · cases later
      · rename_i available next outcome
        split at later
        · cases later
        · rename_i present
          exact filled available next outcome present pass later

theorem lineBytesPasses_under (budget : Nat) (raw : List UInt8) (wire : Wire) :
    ∀ pass ∈ lineBytesPasses budget raw deadline wire, pass.Under deadline := by
  fun_induction lineBytesPasses budget raw deadline wire with
  | case1 budget raw wire interrupted filled =>
    intro pass member
    rcases List.mem_cons.mp member with rfl | later
    · exact deadline.pass_under wire
    · split at later
      · rename_i next outcome
        exact interrupted next outcome pass later
      · cases later
      · rename_i available next outcome
        split at later
        · cases later
        · rename_i present
          simp only at later
          split at later
          · cases later
          · split at later
            · cases later
            · rename_i room
              exact filled available next outcome present room pass later

theorem linePasses_under (budget : Nat) (wire : Wire) :
    ∀ pass ∈ linePasses budget deadline wire, pass.Under deadline := by
  intro pass member
  simp only [linePasses] at member
  split at member
  · cases member
  · exact lineBytesPasses_under budget [] wire pass member

theorem trailersPasses_under (left : Nat) (wire : Wire) :
    ∀ pass ∈ trailersPasses left deadline wire, pass.Under deadline := by
  induction left generalizing wire with
  | zero => simp [trailersPasses]
  | succ left ih =>
    intro pass member
    rcases List.mem_append.mp member with line | later
    · exact linePasses_under chunkLineBytes wire pass line
    · split at later
      rename_i next _
      split at later
      · exact ih next pass later
      · cases later

theorem chunkedPasses_under (crate : Httparse) (limit : Nat) (body : List UInt8) (wire : Wire) :
    ∀ pass ∈ chunkedPasses crate limit deadline body wire, pass.Under deadline := by
  fun_induction chunkedPasses crate limit deadline body wire with
  | case1 body wire again =>
    intro pass member
    rcases List.mem_append.mp member with size | later
    · exact linePasses_under chunkLineBytes wire pass size
    · split at later
      · cases later
      · rename_i size afterSize sized
        split at later
        · exact trailersPasses_under (maxTrailers + 1) afterSize pass later
        · rename_i present
          split at later
          · cases later
          · rename_i room
            rcases List.mem_append.mp later with data | later
            · exact exactlyPasses_under size afterSize pass data
            · split at later
              · cases later
              · rename_i grown afterData data
                rcases List.mem_append.mp later with closing | later
                · exact linePasses_under 2 afterData pass closing
                · split at later
                  · cases later
                  · rename_i next ended
                    exact again size afterSize sized present room grown afterData data next ended
                      pass later

/-! ### Of a body -/

theorem sendContinue_deadline (body : Body) (wire : Wire) :
    (body.sendContinue wire).2.1.deadline = body.deadline := by
  by_cases waits : body.mustSendContinue
  · simp [Body.sendContinue,waits]
  · simp [Body.sendContinue,waits]

theorem whenSentPasses_under (body : Body) (wire : Wire)
    {passes : Deadline → Wire → List Pass}
    (under : ∀ deadline wire, ∀ pass ∈ passes deadline wire, pass.Under deadline) :
    ∀ pass ∈ body.whenSentPasses passes wire, pass.Under body.deadline := by
  intro pass member
  rw [← sendContinue_deadline body wire]
  rcases sent : body.sendContinue wire with ⟨_ | _,after,next⟩
  · simp [Body.whenSentPasses,sent] at member
  · simp only [Body.whenSentPasses,sent] at member
    exact under after.deadline next pass member

theorem readPasses_under (crate : Httparse) (limit : Nat) (body : Body) (wire : Wire) :
    ∀ pass ∈ body.readPasses crate limit wire, pass.Under body.deadline := by
  intro pass member
  simp only [Body.readPasses] at member
  split at member
  · cases member
  · split at member
    · cases member
    · split at member
      · cases member
      · exact whenSentPasses_under { body with started := true } wire
          (fun _ => exactlyPasses_under _) pass member
    · exact whenSentPasses_under { body with started := true } wire
        (fun _ => chunkedPasses_under crate limit []) pass member

theorem drainPasses_under (limit : Nat) (body : Body) (wire : Wire) :
    ∀ pass ∈ body.drainPasses limit wire, pass.Under body.deadline := by
  intro pass member
  simp only [Body.drainPasses] at member
  split at member
  · cases member
  · split at member
    · cases member
    · split at member
      · cases member
      · cases member
      · split at member
        · cases member
        · exact exactlyPasses_under _ wire pass member

theorem hand_deadline (body : Body) (taken : Except BodyError (List UInt8) × Wire) :
    (body.hand taken).2.1.deadline = body.deadline := by
  obtain ⟨_ | bytes,next⟩ := taken
  · rfl
  · simp only [Body.hand]
    split <;> rfl

theorem whenSent_deadline (body : Body) (wire : Wire)
    (take : Deadline → Wire → Except BodyError (List UInt8) × Wire) :
    (body.whenSent take wire).2.1.deadline = body.deadline := by
  have kept := sendContinue_deadline body wire
  rcases sent : body.sendContinue wire with ⟨_ | _,after,next⟩
  · simpa [Body.whenSent,sent] using kept
  · simpa [Body.whenSent,sent,hand_deadline] using kept

/-- A body does not get a fresh deadline, however it is read. -/
theorem read_deadline (crate : Httparse) (limit : Nat) (body : Body) (wire : Wire) :
    (body.read crate limit wire).2.1.deadline = body.deadline := by
  simp only [Body.read]
  split
  · rfl
  · split
    · rfl
    · split
      · rfl
      · exact whenSent_deadline _ wire _
    · exact whenSent_deadline _ wire _

theorem run_deadline (crate : Httparse) (handling : Handling) (body : Body) (wire : Wire) :
    (handling.run crate body wire).body.deadline = body.deadline := by
  induction handling generalizing body wire with
  | readBody limit next ih =>
    apply Eq.trans (ih (body.read crate limit wire).1 _ _)
    exact read_deadline crate limit body wire
  | pause took next ih => exact ih body _
  | respond response => rfl
  | panic => rfl

theorem handlingPasses_under (crate : Httparse) (handling : Handling) (body : Body)
    (wire : Wire) : ∀ pass ∈ handling.passes crate body wire, pass.Under body.deadline := by
  induction handling generalizing body wire with
  | readBody limit next ih =>
    intro pass member
    rcases List.mem_append.mp member with read | later
    · exact readPasses_under crate limit body wire pass read
    · rw [← read_deadline crate limit body wire]
      exact ih (body.read crate limit wire).1 _ _ pass later
  | pause took next ih => exact ih body _
  | respond response => simp [Handling.passes]
  | panic => simp [Handling.passes]

/-- Whatever the handler does with its time, its reads and the drain run under the deadline
the head was read under. -/
theorem bodyPasses_under (crate : Httparse) (limits : Limits) (handling : Handling)
    (head : Head) (wire : Wire) :
    ∀ pass ∈ bodyPasses crate limits handling head deadline wire, pass.Under deadline := by
  intro pass member
  rcases List.mem_append.mp member with read | drained
  · exact handlingPasses_under crate handling _ wire pass read
  · have under := drainPasses_under _ _ _ pass drained
    rw [run_deadline] at under
    exact under

/-! ### Of a head -/

/-- A round of a head whose clock runs: the socket is still on what the last round left. -/
theorem headPass_under {armedAt : Nat} {retried : Bool} {wire : Wire} (since : armedAt ≤ wire.now)
    (armed : wire.armed = max (deadline.instant - armedAt) minTimeout) :
    (headPass (some deadline) armedAt retried wire).Under deadline := by
  have time := overdue_time (some deadline) wire
  refine ⟨rfl,?_,?_⟩
  · exact (Nat.max_eq_left (Nat.le_trans since time.1)).symm
  · exact time.2.trans armed

theorem running_armed (clock : Option Deadline) (limits : Limits) (wire : Wire) :
    (running clock limits wire).2.armed = max ((running clock limits wire).1.instant -
      (running clock limits wire).2.now) minTimeout := by
  simp only [running]
  exact Deadline.arm_armed _ _

variable {crate : Httparse} {limits : Limits}

theorem headPasses_under {raw : List UInt8} {consumed armedAt : Nat} {retried : Bool}
    {clock : Option Deadline} {wire : Wire} (runs : clock = some deadline) (since : armedAt ≤ wire.now)
    (armed : wire.armed = max (deadline.instant - armedAt) minTimeout) :
    ∀ pass ∈ headPasses crate limits raw consumed clock armedAt retried wire, pass.Under deadline := by
  fun_induction headPasses crate limits raw consumed clock armedAt retried wire with
  | case1 => simp
  | case2 raw consumed clock armedAt retried wire room interrupted gathered =>
    subst runs
    intro pass member
    rcases List.mem_cons.mp member with rfl | later
    · exact headPass_under since armed
    · split at later
      · cases later
      · split at later
        · rename_i next filled
          have before := overdue_time (some deadline) wire
          have time := (overdue (some deadline) wire).2.fillBuf_time
          simp only [filled] at time
          exact interrupted next filled rfl (by omega) (time.2.2.trans (before.2.trans armed)) pass
            later
        · cases later
        · rename_i available next filled
          split at later
          · cases later
          · rename_i present
            simp only at later
            split at later
            · cases later
            · split at later
              · have again := running_armed (some deadline) limits next
                exact gathered available next filled present rfl (Nat.le_refl _) again pass later
              · cases later

/-- A head read under a deadline is answered with it. -/
theorem readHead_deadline {raw : List UInt8} {consumed : Nat} {clock : Option Deadline}
    {wire : Wire} {head : Head} {kept : Deadline} (runs : clock = some deadline)
    (read : (readHead crate limits raw consumed clock wire).1 = .ok (some (head,kept))) :
    kept = deadline := by
  fun_induction readHead crate limits raw consumed clock wire with
  | case1 | case2 | case5 | case6 | case8 => cases read
  | case3 raw consumed clock wire _ _ middle filled again => exact again runs read
  | case4 raw consumed clock wire _ _ kind middle _ filled =>
    split at read <;> cases read
  | case7 raw consumed clock wire _ _ available middle filled present take gathered started _
      length parsed asked =>
    subst runs
    cases made : headFrom parsed with
    | error response => simp [made,Except.map] at read
    | ok found =>
      simp only [made,Except.map,Except.ok.injEq,Option.some.injEq,Prod.mk.injEq] at read
      exact read.2.symm
  | case9 raw consumed clock wire _ _ available middle filled present take gathered started _
      asked again =>
    subst runs
    exact again rfl read

/-- The passes of a request: the connection is idle until one brings the first byte, and
from there `deadline` runs, which is the budget at most after that byte is there. -/
inductive Begins (limits : Limits) (deadline : Deadline) : List Pass → Prop where
  | first {pass : Pass} {spending : List Pass} {bytes : List UInt8} (idle : pass.clock = none)
      (brought : pass.outcome = .ok bytes) (present : bytes ≠ [])
      (within : deadline.instant ≤ pass.takenUp + limits.readTimeout)
      (under : ∀ later ∈ spending, later.Under deadline) : Begins limits deadline (pass :: spending)
  | wait {pass : Pass} {rest : List Pass} (idle : pass.clock = none)
      (later : Begins limits deadline rest) : Begins limits deadline (pass :: rest)

theorem Begins.append {passes more : List Pass} (begins : Begins limits deadline passes)
    (under : ∀ pass ∈ more, pass.Under deadline) : Begins limits deadline (passes ++ more) := by
  induction begins with
  | first idle brought present within before =>
    refine .first idle brought present within fun pass member => ?_
    rcases List.mem_append.mp member with earlier | later
    · exact before pass earlier
    · exact under pass later
  | wait idle later ih => exact .wait idle ih

end

section
variable {crate : Httparse} {limits : Limits}

/-- The round that brings bytes to an idle connection starts the budget. -/
theorem headPass_within (limits : Limits) (armedAt : Nat) (retried : Bool) {wire next : Wire} {bytes : List UInt8}
    (filled : wire.fillBuf = (.ok bytes,next)) :
    (headPass none armedAt retried wire).outcome = .ok bytes ∧
      (running none limits next).1.instant ≤
        (headPass none armedAt retried wire).takenUp + limits.readTimeout := by
  have outcome : (headPass none armedAt retried wire).wire.fillBuf = (.ok bytes,next) := filled
  refine ⟨by simp only [Pass.outcome,outcome],?_⟩
  simp only [Pass.takenUp,outcome]
  exact Deadline.startingNow_le limits.readTimeout next

/-- Reading a head from an idle connection: all its rounds were idle and there is no head, or
the first byte came and a head is answered with the deadline that byte started. -/
theorem headPasses_begins {raw : List UInt8} {consumed armedAt : Nat} {retried : Bool}
    {clock : Option Deadline} {wire : Wire} (idle : clock = none) :
    ((∀ pass ∈ headPasses crate limits raw consumed clock armedAt retried wire, pass.clock = none) ∧
      ∀ head deadline,
        (readHead crate limits raw consumed clock wire).1 ≠ .ok (some (head,deadline))) ∨
    ∃ deadline, Begins limits deadline (headPasses crate limits raw consumed clock armedAt retried wire) ∧
      ∀ head kept, (readHead crate limits raw consumed clock wire).1 = .ok (some (head,kept)) →
        kept = deadline := by
  fun_induction readHead crate limits raw consumed clock wire generalizing armedAt retried with
  | case1 raw consumed clock wire full =>
    rw [headPasses,if_pos full]
    exact .inl ⟨by simp,by simp⟩
  | case2 raw consumed clock wire full late =>
    subst idle
    cases late
  | case3 raw consumed clock wire full late middle filled again =>
    subst idle
    rw [headPasses_cons (by omega),if_neg late,filled]
    obtain ⟨waiting,none⟩ | ⟨deadline,begins,kept⟩ := @again armedAt true rfl
    · refine .inl ⟨fun pass member => ?_,none⟩
      rcases List.mem_cons.mp member with rfl | later
      · rfl
      · exact waiting pass later
    · exact .inr ⟨deadline,.wait rfl begins,kept⟩
  | case4 raw consumed clock wire full late kind middle stops filled =>
    subst idle
    rw [headPasses_cons (by omega),if_neg late,filled]
    refine .inl ⟨by simp [headPass],fun head deadline => ?_⟩
    split <;> simp
  | case5 raw consumed clock wire full late middle filled =>
    subst idle
    rw [headPasses_cons (by omega),if_neg late,filled]
    exact .inl ⟨by simp [headPass],by simp⟩
  | case6 =>
    rename_i raw consumed clock wire full late available middle filled present take gathered
      started blank
    subst idle
    rw [headPasses_cons (by omega),if_neg late,filled]
    simp only [present,if_false]
    rw [if_pos blank]
    exact .inl ⟨by simp [headPass],by simp⟩
  | case7 =>
    rename_i raw consumed clock wire full late available middle filled present take gathered
      started blank length parsed asked
    subst idle
    obtain ⟨brought,within⟩ := headPass_within limits armedAt retried filled
    rw [headPasses_cons (by omega),if_neg late,filled]
    simp only [present,if_false]
    rw [if_neg blank,asked]
    refine .inr ⟨started.1,.first rfl brought present within (by simp),fun head kept read => ?_⟩
    cases made : headFrom parsed with
    | error response => simp [made,Except.map] at read
    | ok found =>
      simp only [made,Except.map,Except.ok.injEq,Option.some.injEq,Prod.mk.injEq] at read
      exact read.2.symm
  | case8 =>
    rename_i raw consumed clock wire full late available middle filled present take gathered
      started blank e asked
    subst idle
    rw [headPasses_cons (by omega),if_neg late,filled]
    simp only [present,if_false]
    rw [if_neg blank,asked]
    exact .inl ⟨by simp [headPass],by simp⟩
  | case9 =>
    rename_i raw consumed clock wire full late available middle filled present take gathered
      started blank asked again
    subst idle
    obtain ⟨brought,within⟩ := headPass_within limits armedAt retried filled
    have armed := running_armed none limits middle
    rw [headPasses_cons (by omega),if_neg late,filled]
    simp only [present,if_false]
    rw [if_neg blank,asked]
    refine .inr ⟨started.1,.first rfl brought present within ?_,fun head kept read => ?_⟩
    · exact headPasses_under rfl (Nat.le_refl _) armed
    · exact readHead_deadline rfl read

/-! ## A connection -/

/-- Every request keeps to its budget: once its first byte is there, every read for its head,
its body or its drain has found the deadline ahead of it, and takes no more than the deadline
leaves. Nothing is said of how long a round of a head takes that repeats one which a signal
cut short. -/
def Budgeted (limits : Limits) (passes : List Pass) : Prop :=
  (∀ pass ∈ passes, pass.clock = none) ∨
  ∃ idle first spending deadline bytes, passes = idle ++ first :: spending ∧
    (∀ pass ∈ idle, pass.clock = none) ∧ first.clock = none ∧
    first.outcome = .ok bytes ∧ bytes ≠ [] ∧
    deadline.instant ≤ first.takenUp + limits.readTimeout ∧
    ∀ pass ∈ spending, pass.clock = some deadline ∧
      (pass.reads = true → pass.checked < deadline.instant ∧
        (pass.retried = false → pass.InBudget deadline))

theorem Begins.budgeted {deadline : Deadline} {passes : List Pass}
    (begins : Begins limits deadline passes) : Budgeted limits passes := by
  right
  induction begins with
  | @first pass spending bytes idle brought present within under =>
    exact ⟨[],pass,spending,deadline,bytes,rfl,by simp,idle,brought,present,within,
      fun later member => ⟨(under later member).clock,fun reads =>
        ⟨(under later member).ahead reads,fun _ => (under later member).inBudget reads⟩⟩⟩
  | @wait pass rest idle later ih =>
    obtain ⟨waited,first,spending,deadline,bytes,rfl,earlier,budget⟩ := ih
    refine ⟨pass :: waited,first,spending,deadline,bytes,rfl,fun before member => ?_,budget⟩
    rcases List.mem_cons.mp member with rfl | member
    · exact idle
    · exact earlier before member

theorem connectionPasses_budgeted (handle : Nat → Head → Handling) (rounds served : Nat)
    (wire : Wire) :
    ∀ passes ∈ connectionPasses crate limits handle rounds served wire,
      Budgeted limits passes := by
  induction rounds generalizing served wire with
  | zero => simp [connectionPasses]
  | succ rounds ih =>
    let idle := wire.armRead limits.idleTimeout
    have head := @headPasses_begins crate limits [] 0 idle.now false none idle rfl
    have alone : Budgeted limits (headPasses crate limits [] 0 none idle.now false idle) := by
      obtain ⟨waiting,-⟩ | ⟨deadline,begins,-⟩ := head
      · exact .inl waiting
      · exact begins.budgeted
    intro passes member
    simp only [connectionPasses] at member
    split at member
    · rw [List.mem_singleton.mp member]
      exact alone
    · rw [List.mem_singleton.mp member]
      exact alone
    · rename_i started deadline next asked
      have request : Budgeted limits (headPasses crate limits [] 0 none idle.now false idle ++
          bodyPasses crate limits (handle served started) started deadline next) := by
        have answer : (readHead crate limits [] 0 none idle).1 = .ok (some (started,deadline)) := by
          rw [asked]
        obtain ⟨-,none⟩ | ⟨begun,begins,kept⟩ := head
        · exact absurd answer (none started deadline)
        · cases kept started deadline answer
          exact (begins.append (bodyPasses_under crate limits _ started next)).budgeted
      split at member
      · rw [List.mem_singleton.mp member]
        exact request
      · rename_i later _
        rcases List.mem_cons.mp member with rfl | member
        · exact request
        · exact ih (served + 1) later passes member

/-- The passes are the connection's own: a filling under a deadline does what its pass says,
its check and its arming included, and whatever `serveConnection` takes of what its peer sends
is taken by one of them. -/
structure Follows (crate : Httparse) (limits : Limits) (handle : Nat → Head → Handling)
    (rounds served : Nat) (wire : Wire) : Prop where
  fill : ∀ (deadline : Deadline) (before : Wire), deadline.fill before =
    if (deadline.pass before).spent then (.error .timedOut,(deadline.expired before).2)
    else (deadline.pass before).wire.fillBuf
  taken : wire.arriving =
    (connectionPasses crate limits handle rounds served wire).flatten.flatMap Pass.taken ++
      (serveConnection crate limits handle rounds served wire).2.arriving

/-- Whatever the peer sends and whenever it arrives, whatever the handlers do and however
long they take, a slow peer cannot renew a request's budget. -/
theorem slow_peer_cannot_renew (crate : Httparse) (limits : Limits)
    (handle : Nat → Head → Handling) (rounds served : Nat) (wire : Wire) :
    Follows crate limits handle rounds served wire ∧
      ∀ passes ∈ connectionPasses crate limits handle rounds served wire,
        Budgeted limits passes :=
  ⟨⟨fun deadline before => deadline.fill_pass before,
    connectionPasses_taken crate limits handle rounds served wire⟩,
    connectionPasses_budgeted handle rounds served wire⟩

end

/-- A message and the first byte of the next, in one read. -/
def ahead : Arrival := ⟨0,.ok (asBytes "GET / HTTP/1.1\r\n\r\nG")⟩

def overlapping : Wire :=
  { buffer := [], arriving := [ahead,⟨32 * 1000000000,.ok (asBytes "ET / HTTP/1.1\r\n\r\n")⟩],
    armed := 0, writeArmed := 0, now := 0, lapses := [], latest := 2^63, deliveries := [],
    sent := [] }

/-- The server is away for 31 seconds between a check and the arming after it. -/
def preempted : Wire :=
  { buffer := [],
    arriving := [⟨0,.ok (asBytes "POST / HTTP/1.1\r\nContent-Length: 1\r\n\r\n")⟩],
    armed := 0, writeArmed := 0, now := 0, lapses := [0,0,0,31 * 1000000000], latest := 2^63,
    deliveries := [], sent := [] }

def slowThenPrompt : Nat → Head → Handling
  | 0, _ => .pause (31 * 1000000000) (.respond (.new 204))
  | _, _ => .respond (.new 204)

def readsBody : Nat → Head → Handling
  | _, _ => .readBody 100 fun _ => .respond (.new 204)

/-- The second request of a connection whose handler was slow with the first. -/
theorem slow_peer_cannot_renew_overlapping :
    Budgeted {} ((connectionPasses plain {} slowThenPrompt 2 0 overlapping).getLast
      (by decide +kernel)) :=
  (slow_peer_cannot_renew plain {} slowThenPrompt 2 0 overlapping).2 _ (List.getLast_mem _)

/-- A read this late would be none of the request whose first byte was there at `instant`. -/
def lateRead (limits : Limits) (instant : Nat) (passes : List Pass) : Bool :=
  passes.any fun pass => pass.reads && decide (instant + limits.readTimeout ≤ pass.started)

/-- A budget is counted from when the server takes the first byte up, not from its arrival,
and the server's own time falls between a check and the read after it. -/
theorem budget_counted_late :
    (((connectionPasses plain {} slowThenPrompt 2 0 overlapping)[1]?.map fun passes =>
      (passes.head?.map fun pass => pass.wire.buffer,lateRead {} ahead.instant passes)) =
        some (some (asBytes "G"),true)) ∧
    (connectionPasses plain {} readsBody 1 0 preempted).map (lateRead {} 0) = [true] := by
  decide +kernel

end SmlMcps.Http1
