import SmlMcps.Library.Histories

/-! The listener of the HTTP server: one thread accepts, each connection has a thread of its
own and a slot for as long as that lives, and those there is no slot for are told so by a
thread of their own. Streams are numbered as they are accepted. -/
namespace SmlMcps

/-- Where the accept loop is with a stream. -/
inductive Accepting where
  | waiting
  | accepted (stream : Nat)
  /-- The count of live connections has been read. -/
  | counted (stream count : Nat)
  /-- There is no slot. -/
  | full (stream : Nat)
  /-- The slot is claimed, and the connection's thread is about to be spawned. -/
  | claimed (stream : Nat)
  deriving DecidableEq, Repr

def Accepting.stream : Accepting → Option Nat
  | .waiting => none
  | .accepted stream | .counted stream _ | .full stream | .claimed stream => some stream

def Accepting.holdsSlot : Accepting → Bool
  | .claimed _ => true
  | _ => false

structure HttpListenerSetup where
  maxConnections : Nat
  tls : Bool
  /-- Whether the thread that answers refused peers could be started. -/
  refuserUp : Bool

/-- How many refused peers may wait for their answer. -/
def refusalBacklog : Nat := 64

structure HttpListener where
  /-- The claims on the ceiling. -/
  live : Nat := 0
  loop : Accepting := .waiting
  /-- The connections with a thread, which holds a slot until it ends. -/
  serving : List Nat := []
  /-- The refused peers that wait to be told. -/
  queue : List Nat := []
  refusing : Option Nat := none
  accepted : Nat := 0
  served : List Nat := []
  answered : List Nat := []
  /-- The streams that the listener itself closed, without a word. -/
  dropped : List Nat := []
  deriving DecidableEq, Repr

inductive HttpListenerLabel where
  | accept
  /-- A signal, or no descriptor left: the loop goes on. -/
  | acceptFails
  | load
  /-- Compare the count with the ceiling, and exchange it; the exchange may fail for nothing. -/
  | compare (spurious : Bool)
  | refuse
  | spawn (started : Bool)
  /-- A connection's thread ends, however it ends, and gives its slot back. -/
  | finish (stream : Nat)
  | takeRefused
  /-- A refused peer has been told, or has not taken it in time. -/
  | answerRefused
  deriving DecidableEq, Repr

namespace HttpListener

variable (setup : HttpListenerSetup)

/-- Queue a refused stream. A TLS peer could not be told without a handshake, and a full
queue is an answer too. -/
def refuse (stream : Nat) (listener : HttpListener) : HttpListener :=
  if !setup.tls && setup.refuserUp && decide (listener.queue.length < refusalBacklog) then
    { listener with queue := listener.queue ++ [stream] }
  else { listener with dropped := listener.dropped ++ [stream] }

def step (listener : HttpListener) : HttpListenerLabel → Option HttpListener
  | .accept => match listener.loop with
    | .waiting => some { listener with
        loop := .accepted listener.accepted, accepted := listener.accepted + 1 }
    | _ => none
  | .acceptFails => match listener.loop with
    | .waiting => some listener
    | _ => none
  | .load => match listener.loop with
    | .accepted stream => some { listener with loop := .counted stream listener.live }
    | _ => none
  | .compare spurious => match listener.loop with
    | .counted stream count => some (
        if setup.maxConnections ≤ count then { listener with loop := .full stream }
        else if listener.live = count ∧ spurious = false then
          { listener with live := count + 1, loop := .claimed stream }
        else { listener with loop := .counted stream listener.live })
    | _ => none
  | .refuse => match listener.loop with
    | .full stream => some (refuse setup stream { listener with loop := .waiting })
    | _ => none
  | .spawn started => match listener.loop with
    | .claimed stream => some (
        if started then { listener with serving := stream :: listener.serving, loop := .waiting }
        -- The closure is dropped with the slot and the stream in it.
        else { listener with
          live := listener.live - 1, dropped := listener.dropped ++ [stream], loop := .waiting })
    | _ => none
  | .finish stream =>
    if stream ∈ listener.serving then some { listener with
      serving := listener.serving.erase stream, live := listener.live - 1
      served := listener.served ++ [stream] }
    else none
  | .takeRefused => match listener.refusing, listener.queue with
    | none, stream :: rest =>
      if setup.refuserUp then some { listener with refusing := some stream, queue := rest } else none
    | _, _ => none
  | .answerRefused => match listener.refusing with
    | some stream => some { listener with
        refusing := none, answered := listener.answered ++ [stream] }
    | none => none

/-- What a step is, by where the accept loop and the refuser stand. -/
inductive Taken (listener : HttpListener) : HttpListenerLabel → HttpListener → Prop where
  | accept (waiting : listener.loop = .waiting) :
      Taken listener .accept
        { listener with loop := .accepted listener.accepted, accepted := listener.accepted + 1 }
  | acceptFails (waiting : listener.loop = .waiting) : Taken listener .acceptFails listener
  | load {stream : Nat} (at_ : listener.loop = .accepted stream) :
      Taken listener .load { listener with loop := .counted stream listener.live }
  | above {stream count : Nat} {spurious : Bool} (at_ : listener.loop = .counted stream count)
      (full : setup.maxConnections ≤ count) :
      Taken listener (.compare spurious) { listener with loop := .full stream }
  | won {stream count : Nat} (at_ : listener.loop = .counted stream count)
      (below : count < setup.maxConnections) (same : listener.live = count) :
      Taken listener (.compare false) { listener with live := count + 1, loop := .claimed stream }
  | lost {stream count : Nat} {spurious : Bool} (at_ : listener.loop = .counted stream count)
      (below : count < setup.maxConnections)
      (moved : listener.live = count → spurious = true) :
      Taken listener (.compare spurious) { listener with loop := .counted stream listener.live }
  | refuse {stream : Nat} (at_ : listener.loop = .full stream) :
      Taken listener .refuse (refuse setup stream { listener with loop := .waiting })
  | started {stream : Nat} (at_ : listener.loop = .claimed stream) :
      Taken listener (.spawn true)
        { listener with serving := stream :: listener.serving, loop := .waiting }
  | unspawned {stream : Nat} (at_ : listener.loop = .claimed stream) :
      Taken listener (.spawn false) { listener with
        live := listener.live - 1, dropped := listener.dropped ++ [stream], loop := .waiting }
  | finish {stream : Nat} (serving : stream ∈ listener.serving) :
      Taken listener (.finish stream) { listener with
        serving := listener.serving.erase stream, live := listener.live - 1
        served := listener.served ++ [stream] }
  | takeRefused {stream : Nat} {rest : List Nat} (free : listener.refusing = none)
      (queued : listener.queue = stream :: rest) :
      Taken listener .takeRefused { listener with refusing := some stream, queue := rest }
  | answerRefused {stream : Nat} (at_ : listener.refusing = some stream) :
      Taken listener .answerRefused
        { listener with refusing := none, answered := listener.answered ++ [stream] }

variable {setup} in
/-- Whatever is shown of all steps takes them apart by this alone. -/
theorem step_taken {listener next : HttpListener} {label : HttpListenerLabel}
    (took : step setup listener label = some next) : Taken setup listener label next := by
  cases label with
  | accept =>
    simp only [step] at took
    split at took <;> cases took
    exact .accept ‹_›
  | acceptFails =>
    simp only [step] at took
    split at took <;> cases took
    exact .acceptFails ‹_›
  | load =>
    simp only [step] at took
    split at took <;> cases took
    exact .load ‹_›
  | compare spurious =>
    simp only [step] at took
    split at took
    · rename_i stream count at_
      cases took
      by_cases full : setup.maxConnections ≤ count
      · rw [if_pos full]
        exact .above at_ full
      · rw [if_neg full]
        by_cases won : listener.live = count ∧ spurious = false
        · rw [if_pos won]
          obtain ⟨same,rfl⟩ := won
          exact .won at_ (Nat.lt_of_not_le full) same
        · rw [if_neg won]
          exact .lost at_ (Nat.lt_of_not_le full) fun same => by simpa [same] using won
    · cases took
  | refuse =>
    simp only [step] at took
    split at took <;> cases took
    exact .refuse ‹_›
  | spawn started =>
    simp only [step] at took
    split at took
    · cases started <;> cases took
      · exact .unspawned ‹_›
      · exact .started ‹_›
    · cases took
  | finish stream =>
    simp only [step] at took
    split at took <;> cases took
    exact .finish ‹_›
  | takeRefused =>
    simp only [step] at took
    split at took
    · split at took <;> cases took
      exact .takeRefused ‹_› ‹_›
    · cases took
  | answerRefused =>
    simp only [step] at took
    split at took <;> cases took
    exact .answerRefused ‹_›

/-! ## What holds at every time -/

/-- In how many places a stream is. -/
def places (listener : HttpListener) (stream : Nat) : Nat :=
  listener.loop.stream.toList.count stream + listener.serving.count stream +
    listener.queue.count stream + listener.refusing.toList.count stream +
    listener.served.count stream + listener.answered.count stream + listener.dropped.count stream

/-- Those that are refused with an answer, in the order they are answered in, and the one at
hand. -/
def line (listener : HttpListener) : List Nat :=
  listener.answered ++ listener.refusing.toList ++ listener.queue ++
    listener.loop.stream.toList

/-- The slots are held by the connections with a thread and the one that is to get it, within
the ceiling; every accepted stream is in one place, and the refused are answered in order. -/
structure Bounded (listener : HttpListener) : Prop where
  held : listener.live = listener.serving.length + listener.loop.holdsSlot.toNat
  ceiling : listener.live ≤ setup.maxConnections
  room : listener.queue.length ≤ refusalBacklog
  fates : ∀ stream, listener.places stream = if stream < listener.accepted then 1 else 0
  order : (listener.line ++ [listener.accepted]).Pairwise (· < ·)

theorem bounded_start : Bounded setup {} where
  held := rfl
  ceiling := Nat.zero_le _
  room := Nat.zero_le _
  fates _ := rfl
  order := by simp [line,Accepting.stream]

variable {setup : HttpListenerSetup} {listener next : HttpListener}

/-- The order of the refused does not depend on the stream at hand. -/
theorem pairwise_let_go (order : (listener.line ++ [listener.accepted]).Pairwise (· < ·)) :
    ((listener.answered ++ listener.refusing.toList ++ listener.queue) ++
      [listener.accepted]).Pairwise (· < ·) := by
  refine order.sublist ?_
  rw [line]
  exact (List.sublist_append_left _ _).append_right _

/-- What a step of the accept loop does with the stream at hand. -/
theorem Bounded.refuse {stream : Nat} (bounded : Bounded setup listener)
    (full : listener.loop = .full stream) :
    Bounded setup (refuse setup stream { listener with loop := .waiting }) := by
  obtain ⟨held,ceiling,room,fates,order⟩ := bounded
  have one : ∀ other, [stream].count other = listener.loop.stream.toList.count other := by
    rw [full]
    exact fun _ => rfl
  have same : listener.line = listener.answered ++ listener.refusing.toList ++ listener.queue ++
      [stream] := by rw [line,full]; rfl
  rw [full] at held
  unfold HttpListener.refuse
  split
  · rename_i fits
    simp only [Bool.and_eq_true,decide_eq_true_eq] at fits
    refine ⟨held,ceiling,?_,fun other => ?_,?_⟩
    · simp only [List.length_append,List.length_singleton]
      exact fits.2
    · rw [← fates other]
      simp only [places,List.count_append,one other,Accepting.stream,Option.toList_none,
        List.count_nil]
      omega
    · rw [same] at order
      simpa only [line,Accepting.stream,Option.toList_none,List.append_nil,List.append_assoc]
        using order
  · refine ⟨held,ceiling,room,fun other => ?_,?_⟩
    · rw [← fates other]
      simp only [places,List.count_append,one other,Accepting.stream,Option.toList_none,
        List.count_nil]
      omega
    · simpa [line,Accepting.stream] using pairwise_let_go order

theorem Bounded.step {label : HttpListenerLabel} (bounded : Bounded setup listener)
    (took : step setup listener label = some next) : Bounded setup next := by
  have taken := step_taken took
  have whole := bounded
  obtain ⟨held,ceiling,room,fates,order⟩ := bounded
  cases taken with
  | refuse full => exact whole.refuse full
  | acceptFails => exact whole
  | accept waiting =>
    rw [waiting] at held
    refine ⟨held,ceiling,room,fun other => ?_,?_⟩
    · have before := fates other
      simp only [places,waiting,Accepting.stream,Option.toList_none,List.count_nil,
        Option.toList_some,List.count_singleton] at before ⊢
      by_cases same : listener.accepted = other
      · subst same
        simp at before ⊢
        omega
      · rw [if_neg (by simpa using same)]
        split at before <;> split <;> omega
    · simp only [line,waiting,Accepting.stream,Option.toList_none,List.append_nil,
        Option.toList_some] at order ⊢
      refine List.pairwise_append.mpr ⟨order,List.pairwise_singleton _ _,?_⟩
      intro earlier member later last
      rw [List.mem_singleton.mp last]
      rcases List.mem_append.mp member with before | now
      · have less := (List.pairwise_append.mp order).2.2 earlier before _ (List.mem_singleton_self _)
        omega
      · rw [List.mem_singleton.mp now]
        omega
  | load at_ =>
    simp only [places,line,at_,Accepting.stream,Accepting.holdsSlot] at held fates order
    exact ⟨held,ceiling,room,fates,order⟩
  | above at_ full =>
    simp only [places,line,at_,Accepting.stream,Accepting.holdsSlot] at held fates order
    exact ⟨held,ceiling,room,fates,order⟩
  | lost at_ below moved =>
    simp only [places,line,at_,Accepting.stream,Accepting.holdsSlot] at held fates order
    exact ⟨held,ceiling,room,fates,order⟩
  | won at_ below same =>
    simp only [places,line,at_,Accepting.stream,Accepting.holdsSlot,Bool.toNat_false] at held fates order
    refine ⟨?_,below,room,fates,order⟩
    simp only [Accepting.holdsSlot,Bool.toNat_true]
    omega
  | started at_ =>
    simp only [places,at_,Accepting.stream,Accepting.holdsSlot,Bool.toNat_true,
      Option.toList_some] at held fates
    refine ⟨?_,ceiling,room,fun other => ?_,?_⟩
    · simpa [Accepting.holdsSlot] using held
    · rw [← fates other]
      simp only [places,Accepting.stream,Option.toList_none,List.count_nil,
        List.count_cons]
      omega
    · simpa [line,Accepting.stream] using pairwise_let_go order
  | unspawned at_ =>
    simp only [places,at_,Accepting.stream,Accepting.holdsSlot,Bool.toNat_true,
      Option.toList_some] at held fates
    refine ⟨?_,Nat.le_trans (Nat.sub_le _ _) ceiling,room,fun other => ?_,?_⟩
    · simp only [Accepting.holdsSlot,Bool.toNat_false]
      omega
    · rw [← fates other]
      simp [places,Accepting.stream,List.count_append]
      omega
    · simpa [line,Accepting.stream] using pairwise_let_go order
  | @finish stream serving =>
    have length := List.length_erase_of_mem serving
    have some_ := List.length_pos_of_mem serving
    refine ⟨?_,?_,room,fun other => ?_,order⟩
    · simp only [length]
      omega
    · exact Nat.le_trans (Nat.sub_le _ _) ceiling
    · rw [← fates other]
      simp only [places,List.count_append,List.count_erase,List.count_singleton]
      have there := List.count_pos_iff.mpr serving
      by_cases same : stream = other
      · subst same
        simp
        omega
      · simp [same]
  | takeRefused free queued =>
    simp only [places,line,free,queued,Option.toList_none,List.length_cons,List.append_nil,
      List.count_nil,List.count_cons] at room fates order
    refine ⟨held,ceiling,by simp only; omega,fun other => ?_,?_⟩
    · rw [← fates other]
      simp only [places,Option.toList_some,List.count_singleton]
      omega
    · simpa [line] using order
  | answerRefused at_ =>
    simp only [places,line,at_,Option.toList_some] at fates order
    refine ⟨held,ceiling,room,fun other => ?_,?_⟩
    · rw [← fates other]
      simp only [places,Option.toList_none,List.count_nil,List.count_append]
      omega
    · simpa [line] using order

/-! ## Who is turned away -/

/-- The stream at hand finds every slot taken by a connection. -/
def Saturated (setup : HttpListenerSetup) (stream : Nat) (before : HttpListener)
    (_ : HttpListenerLabel) (_ : HttpListener) : Prop :=
  before.loop.stream = some stream ∧ before.serving.length = setup.maxConnections

/-- The platform has no thread for the stream. -/
def Unspawned (stream : Nat) (before : HttpListener) (label : HttpListenerLabel)
    (_ : HttpListener) : Prop :=
  before.loop = .claimed stream ∧ label = .spawn false

/-- Those that are turned away, with an answer or to be given one. -/
def refused (listener : HttpListener) : List Nat :=
  listener.answered ++ listener.refusing.toList ++ listener.queue

/-- Why the streams are where they are. -/
structure Told (setup : HttpListenerSetup) (labels : List HttpListenerLabel)
    (listener : HttpListener) : Prop where
  bounded : Bounded setup listener
  counted : ∀ stream count, listener.loop = .counted stream count → setup.maxConnections ≤ count →
    Runs.Happened (step setup) {} (Saturated setup stream) labels
  full : ∀ stream, listener.loop = .full stream →
    Runs.Happened (step setup) {} (Saturated setup stream) labels
  refused : ∀ stream ∈ listener.refused,
    Runs.Happened (step setup) {} (Saturated setup stream) labels
  dropped : ∀ stream ∈ listener.dropped,
    Runs.Happened (step setup) {} (Saturated setup stream) labels ∨
      Runs.Happened (step setup) {} (Unspawned stream) labels

/-- A full count read of the listener is of connections only. -/
theorem Bounded.saturated {stream : Nat} (bounded : Bounded setup listener)
    (at_ : listener.loop.stream = some stream) (unclaimed : listener.loop.holdsSlot = false)
    (full : setup.maxConnections ≤ listener.live) (label : HttpListenerLabel) :
    Saturated setup stream listener label next := by
  have held := bounded.held
  have ceiling := bounded.ceiling
  rw [unclaimed,Bool.toNat_false] at held
  exact ⟨at_,by omega⟩

theorem Told.step {past : List HttpListenerLabel} {label : HttpListenerLabel}
    (run : Runs.execute (step setup) {} past = some listener) (told : Told setup past listener)
    (took : step setup listener label = some next) : Told setup (past ++ [label]) next := by
  obtain ⟨bounded,counted,full,refused,dropped⟩ := told
  have kept := bounded.step took
  have refused' := fun stream member => (refused stream member).later [label]
  have dropped' := fun stream member =>
    (dropped stream member).imp (fun was => was.later [label]) (fun was => was.later [label])
  have taken := step_taken took
  cases taken with
  | accept waiting => exact ⟨kept,nofun,nofun,refused',dropped'⟩
  | acceptFails waiting => exact ⟨kept,by simp [waiting],by simp [waiting],refused',dropped'⟩
  | load at_ =>
    refine ⟨kept,?_,nofun,refused',dropped'⟩
    rintro other count same above
    cases same
    exact Runs.Happened.last run took
      (bounded.saturated (by rw [at_]; rfl) (by rw [at_]; rfl) above .load)
  | @above stream count spurious at_ above =>
    refine ⟨kept,nofun,?_,refused',dropped'⟩
    rintro other same
    cases same
    exact (counted stream count at_ above).later _
  | won => exact ⟨kept,nofun,nofun,refused',dropped'⟩
  | lost at_ below moved =>
    refine ⟨kept,?_,nofun,refused',dropped'⟩
    rintro other seen same above
    cases same
    exact Runs.Happened.last run took
      (bounded.saturated (by rw [at_]; rfl) (by rw [at_]; rfl) above _)
  | @refuse stream at_ =>
    have was := (full stream at_).later [HttpListenerLabel.refuse]
    unfold HttpListener.refuse at kept ⊢
    split at kept <;> rename_i fits
    · rw [if_pos fits]
      refine ⟨kept,nofun,nofun,?_,dropped'⟩
      intro other member
      simp only [HttpListener.refused,List.mem_append,List.mem_singleton] at member
      rcases member with (before | before) | before | rfl
      · exact refused' other (by simp [HttpListener.refused,before])
      · exact refused' other (by simp [HttpListener.refused,before])
      · exact refused' other (by simp [HttpListener.refused,before])
      · exact was
    · rw [if_neg fits]
      refine ⟨kept,nofun,nofun,refused',?_⟩
      intro other member
      rcases List.mem_append.mp member with before | now
      · exact dropped' other before
      · exact .inl (List.mem_singleton.mp now ▸ was)
  | started => exact ⟨kept,nofun,nofun,refused',dropped'⟩
  | unspawned at_ =>
    refine ⟨kept,nofun,nofun,refused',?_⟩
    intro other member
    rcases List.mem_append.mp member with before | now
    · exact dropped' other before
    · rw [List.mem_singleton.mp now]
      exact .inr (Runs.Happened.last run took ⟨at_,rfl⟩)
  | finish =>
    exact ⟨kept,fun other count at_ above => (counted other count at_ above).later _,
      fun other at_ => (full other at_).later _,refused',dropped'⟩
  | takeRefused free queued =>
    refine ⟨kept,fun other count at_ above => (counted other count at_ above).later _,
      fun other at_ => (full other at_).later _,?_,dropped'⟩
    intro other member
    apply refused' other
    simpa [HttpListener.refused,free,queued] using member
  | answerRefused at_ =>
    refine ⟨kept,fun other count at_ above => (counted other count at_ above).later _,
      fun other at_ => (full other at_).later _,?_,dropped'⟩
    intro other member
    apply refused' other
    simpa [HttpListener.refused,at_] using member

theorem run_told {labels : List HttpListenerLabel}
    (run : Runs.execute (step setup) {} labels = some listener) : Told setup labels listener := by
  have first : Told setup [] {} := ⟨bounded_start setup,nofun,nofun,nofun,nofun⟩
  exact @Runs.history_invariant _ _ (step setup) {} (Told setup) first
    (fun _ _ _ _ run told took => told.step run took) labels listener run

/-- Whatever the peers, the threads and the platform do: there are never more connections than
the ceiling and never more peers waiting to be refused than the backlog; every stream that was
accepted is in one place, once; peers are refused in the order they came, and each only after
a moment when every slot was taken by a connection; and the listener itself closes a stream
without a word only after such a moment, or where there was no thread for it. -/
theorem listener_admits (setup : HttpListenerSetup) (labels : List HttpListenerLabel)
    (listener : HttpListener)
    (run : Runs.execute (step setup) {} labels = some listener) :
    listener.serving.length ≤ setup.maxConnections ∧ listener.queue.length ≤ refusalBacklog ∧
    (listener.loop = .waiting → listener.live = listener.serving.length) ∧
    (∀ stream, listener.places stream = if stream < listener.accepted then 1 else 0) ∧
    listener.refused.Pairwise (· < ·) ∧
    (∀ stream ∈ listener.refused,
      Runs.Happened (step setup) {} (Saturated setup stream) labels) ∧
    ∀ stream ∈ listener.dropped,
      Runs.Happened (step setup) {} (Saturated setup stream) labels ∨
        Runs.Happened (step setup) {} (Unspawned stream) labels := by
  obtain ⟨bounded,-,-,turnedAway,closed⟩ := run_told run
  have held := bounded.held
  have ceiling := bounded.ceiling
  refine ⟨by omega,bounded.room,?_,bounded.fates,?_,turnedAway,closed⟩
  · intro waiting
    rw [held,waiting]
    rfl
  · refine bounded.order.sublist ?_
    rw [line,List.append_assoc]
    exact List.sublist_append_left _ _

/-- One slot: the second peer is refused, the first ends, the third is served. -/
def oneSlot : List HttpListenerLabel :=
  [.accept,.load,.compare false,.spawn true,.accept,.load,.compare false,.refuse,.finish 0,
    .takeRefused,.accept,.load,.compare true,.compare false,.spawn true,.answerRefused]

def oneSlotAfter : HttpListener :=
  { live := 1, serving := [2], accepted := 3, served := [0], answered := [1] }

theorem listener_admits_one :
    oneSlotAfter.serving.length ≤ 1 ∧ oneSlotAfter.queue.length ≤ refusalBacklog ∧
    (oneSlotAfter.loop = .waiting → oneSlotAfter.live = oneSlotAfter.serving.length) ∧
    (∀ stream, oneSlotAfter.places stream = if stream < oneSlotAfter.accepted then 1 else 0) ∧
    oneSlotAfter.refused.Pairwise (· < ·) ∧
    (∀ stream ∈ oneSlotAfter.refused,
      Runs.Happened (step ⟨1,false,true⟩) {} (Saturated ⟨1,false,true⟩ stream) oneSlot) ∧
    ∀ stream ∈ oneSlotAfter.dropped,
      Runs.Happened (step ⟨1,false,true⟩) {} (Saturated ⟨1,false,true⟩ stream) oneSlot ∨
        Runs.Happened (step ⟨1,false,true⟩) {} (Unspawned stream) oneSlot :=
  listener_admits ⟨1,false,true⟩ oneSlot oneSlotAfter rfl

end HttpListener
end SmlMcps
