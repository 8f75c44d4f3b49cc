import SmlMcps.SessionState
import SmlMcps.Library.Runs

/-! Two requests of one session. Each works on a private server between its restore
and its absorb, so the second to absorb may write a stale value back. Per piece of
state: a change survives exactly when the merge records it and the other request did
not hold a recorded older value across it. -/
namespace SmlMcps

variable {C : Type}

/-- A piece of connection state that a merge takes over when it is `recorded`. -/
structure Piece (defaultLevel : LogLevel) where
  Value : Type
  read : ConnectionState → Value
  recorded : Value → Bool
  read_merge : ∀ held seen : ConnectionState, read (held.merge defaultLevel seen) =
    if recorded (read seen) then read seen else read held

inductive PieceName where
  | logLevel | clientCapabilities | negotiatedVersion | initialized
  deriving DecidableEq

def PieceName.piece (defaultLevel : LogLevel) : PieceName → Piece defaultLevel
  | .logLevel =>
    { Value := LogLevel
      read := ConnectionState.logLevel
      recorded := fun level => decide (level ≠ defaultLevel)
      read_merge := by simp [ConnectionState.merge] }
  | .clientCapabilities =>
    { Value := ClientCapabilities
      read := ConnectionState.clientCapabilities
      recorded := declaresSomething
      read_merge := by simp [ConnectionState.merge] }
  | .negotiatedVersion =>
    { Value := Option String
      read := ConnectionState.negotiatedVersion
      recorded := Option.isSome
      read_merge := by
        rintro ⟨_,_,held,_⟩ ⟨_,_,seen,_⟩
        cases seen <;> rfl }
  | .initialized =>
    { Value := Bool
      read := ConnectionState.initialized
      recorded := id
      read_merge := by
        rintro ⟨_,_,_,held⟩ ⟨_,_,_,seen⟩
        cases seen <;> simp [ConnectionState.merge] }

/-! ## The interleaving -/

/-- How far a request has come, with the step numbers of its restore and its absorb. -/
inductive Progress (C : Type) where
  | waiting
  | restored (restoredAt : Nat) (before : Server C)
  | processed (restoredAt : Nat) (before after : Server C)
  | absorbed (restoredAt absorbedAt : Nat) (before after : Server C)

inductive Action where
  | restore (store : Nat)
  | process (message : JsonRpcMessage) (around : Server.Surroundings)
  | absorb

structure Merging (C : Type) where
  session : Session
  first : Progress C
  second : Progress C
  clock : Nat

/-- One action of one request on the session. -/
def Progress.act (http : HttpServer C) (owner : Option String) (clock : Nat)
    (session : Session) (progress : Progress C) (action : Action) :
    Option (Session × Progress C) :=
  match action, progress with
  | .restore store, .waiting =>
    match http.build owner store with
    | .ok built => some ((session.restore built).1,.restored clock (session.restore built).2)
    | .error _ => none
  | .process message around, .restored restoredAt before =>
    some (session,.processed restoredAt before (before.handled around message))
  | .absorb, .processed restoredAt before after =>
    some (session.absorb after http.config.defaultLogLevel,
      .absorbed restoredAt clock before after)
  | _, _ => none

inductive MergeLabel where
  | first (action : Action)
  | second (action : Action)

def Merging.step (http : HttpServer C) (owner : Option String) (state : Merging C)
    (label : MergeLabel) : Option (Merging C) :=
  match label with
  | .first action =>
    (state.first.act http owner state.clock state.session action).map fun next =>
      ⟨next.1,next.2,state.second,state.clock + 1⟩
  | .second action =>
    (state.second.act http owner state.clock state.session action).map fun next =>
      ⟨next.1,state.first,next.2,state.clock + 1⟩

def Merging.start (session : Session) : Merging C := ⟨session,.waiting,.waiting,0⟩

namespace Progress

/-- When the request restored, and the server it got. -/
def restored? : Progress C → Option (Nat × Server C)
  | .waiting => none
  | .restored restoredAt before => some (restoredAt,before)
  | .processed restoredAt before _ => some (restoredAt,before)
  | .absorbed restoredAt _ before _ => some (restoredAt,before)

def absorbed? : Progress C → Option (Nat × Server C)
  | .absorbed _ absorbedAt _ after => some (absorbedAt,after)
  | _ => none

variable {defaultLevel : LogLevel}

/-- As far as it has come, the request did not change the piece. -/
def Unchanged (piece : Piece defaultLevel) : Progress C → Prop
  | .processed _ before after => piece.read after.connection = piece.read before.connection
  | .absorbed _ _ before after => piece.read after.connection = piece.read before.connection
  | _ => True

end Progress

/-- The effect of an action on the session's view of a piece and on the request. -/
inductive Acted (piece : Piece defaultLevel) (clock : Nat) (old new : piece.Value) :
    Progress C → Progress C → Prop where
  | restore (server : Server C) (seen : piece.read server.connection = old)
      (same : new = old) : Acted piece clock old new .waiting (.restored clock server)
  | process (restoredAt : Nat) (before after : Server C) (same : new = old) :
      Acted piece clock old new (.restored restoredAt before) (.processed restoredAt before after)
  | absorb (restoredAt : Nat) (before after : Server C)
      (merged : new = if piece.recorded (piece.read after.connection) then
        piece.read after.connection else old) :
      Acted piece clock old new (.processed restoredAt before after)
        (.absorbed restoredAt clock before after)

section Uniform

variable {http : HttpServer C} {owner : Option String} {start : ConnectionState}

theorem act_acted (piece : Piece http.config.defaultLogLevel)
    (uniform : ∀ store built, http.build owner store = .ok built → built.connection = start)
    {clock : Nat} {session later : Session} {progress next : Progress C} {action : Action}
    (taken : progress.act http owner clock session action = some (later,next)) :
    Acted piece clock (piece.read (session.view start)) (piece.read (later.view start))
      progress next := by
  unfold Progress.act at taken
  split at taken
  · rename_i store
    split at taken
    · rename_i built made
      simp only [Option.some.injEq,Prod.mk.injEq] at taken
      obtain ⟨rfl,rfl⟩ := taken
      refine .restore _ ?_ ?_
      · rw [Session.restore_connection,uniform store built made]
      · rw [Session.restore_view]
    · cases taken
  · cases taken
    exact .process _ _ _ rfl
  · cases taken
    refine .absorb _ _ _ ?_
    rw [Session.absorb_view,piece.read_merge]
  · cases taken

end Uniform

/-! ## The invariant -/

/-- What `value` is after the first request's absorb: its own value if recorded. -/
def written (piece : Piece defaultLevel) (before value : piece.Value) : piece.Value :=
  if piece.recorded value then value else before

/-- The session's value, step by step. Until the first request absorbs it is the
initial one; after that it is the first request's, unless the second one restored
before that absorb and absorbs after it. -/
structure MergeFacts (piece : Piece defaultLevel) (initial value : piece.Value)
    (clock : Nat) (first second : Progress C) : Prop where
  firstPast : ∀ restoredAt before, first.restored? = some (restoredAt,before) →
    restoredAt < clock ∧ piece.read before.connection = initial
  secondPast : ∀ restoredAt before, second.restored? = some (restoredAt,before) →
    restoredAt < clock
  untouched : first.absorbed? = none → value = initial ∧
    ∀ restoredAt before, second.restored? = some (restoredAt,before) →
      piece.read before.connection = initial
  firstDone : ∀ absorbedAt after, first.absorbed? = some (absorbedAt,after) →
    absorbedAt < clock
  secondDone : ∀ absorbedAt after, second.absorbed? = some (absorbedAt,after) →
    absorbedAt < clock
  reading : ∀ absorbedAt after restoredAt before,
    first.absorbed? = some (absorbedAt,after) → second.restored? = some (restoredAt,before) →
    piece.read before.connection = if restoredAt < absorbedAt then initial
      else written piece initial (piece.read after.connection)
  holding : ∀ absorbedAt after, first.absorbed? = some (absorbedAt,after) →
    second.absorbed? = none → value = written piece initial (piece.read after.connection)
  final : ∀ absorbedAt after secondAt seen restoredAt before,
    first.absorbed? = some (absorbedAt,after) → second.absorbed? = some (secondAt,seen) →
    second.restored? = some (restoredAt,before) →
    value = if restoredAt < absorbedAt ∧ absorbedAt < secondAt then
      written piece (written piece initial (piece.read after.connection)) initial
      else written piece initial (piece.read after.connection)

namespace MergeFacts

variable {defaultLevel : LogLevel} {piece : Piece defaultLevel} {initial old new : piece.Value}
  {clock : Nat} {first second next : Progress C}

theorem written_initial (piece : Piece defaultLevel) (initial : piece.Value) :
    written piece initial initial = initial := ite_self initial

theorem written_twice (piece : Piece defaultLevel) (initial value : piece.Value) :
    written piece (written piece initial value) (written piece initial value) =
      written piece initial value := written_initial piece _

theorem firstActs (facts : MergeFacts piece initial old clock first second)
    (acted : Acted piece clock old new first next) :
    MergeFacts piece initial new (clock + 1) next second := by
  have secondPast : ∀ restoredAt before, second.restored? = some (restoredAt,before) →
      restoredAt < clock + 1 := by
    intro restoredAt before found
    have past := facts.secondPast restoredAt before found
    omega
  have secondDone : ∀ absorbedAt after, second.absorbed? = some (absorbedAt,after) →
      absorbedAt < clock + 1 := by
    intro absorbedAt after found
    have past := facts.secondDone absorbedAt after found
    omega
  cases acted with
  | restore server seen same =>
    subst same
    obtain ⟨value,reads⟩ := facts.untouched rfl
    refine ⟨?_,secondPast,fun _ => ⟨value,reads⟩,?_,secondDone,?_,?_,?_⟩
    · intro restoredAt before found
      cases found
      exact ⟨by omega,seen.trans value⟩
    all_goals intros
    all_goals contradiction
  | process restoredAt before after same =>
    subst same
    obtain ⟨value,reads⟩ := facts.untouched rfl
    refine ⟨?_,secondPast,fun _ => ⟨value,reads⟩,?_,secondDone,?_,?_,?_⟩
    · intro moment server found
      have past := facts.firstPast moment server found
      exact ⟨by omega,past.2⟩
    all_goals intros
    all_goals contradiction
  | absorb restoredAt before after merged =>
    obtain ⟨value,reads⟩ := facts.untouched rfl
    have stored : new = written piece initial (piece.read after.connection) := by
      rw [merged,value]
      rfl
    refine ⟨?_,secondPast,?_,?_,secondDone,?_,?_,?_⟩
    · intro moment server found
      have past := facts.firstPast moment server found
      exact ⟨by omega,past.2⟩
    · intro absent
      cases absent
    · intro absorbedAt server found
      cases found
      omega
    · intro absorbedAt server secondRestored held found other
      cases found
      have past := facts.secondPast secondRestored held other
      rw [if_pos past]
      exact reads secondRestored held other
    · intro absorbedAt server found _
      cases found
      exact stored
    · intro absorbedAt server secondAt seen secondRestored held found done other
      cases found
      have past := facts.secondDone secondAt seen done
      rw [if_neg (by omega)]
      exact stored

theorem secondActs (facts : MergeFacts piece initial old clock first second)
    (unchanged : next.Unchanged piece) (acted : Acted piece clock old new second next) :
    MergeFacts piece initial new (clock + 1) first next := by
  have firstPast : ∀ restoredAt before, first.restored? = some (restoredAt,before) →
      restoredAt < clock + 1 ∧ piece.read before.connection = initial := by
    intro restoredAt before found
    have past := facts.firstPast restoredAt before found
    exact ⟨by omega,past.2⟩
  have firstDone : ∀ absorbedAt after, first.absorbed? = some (absorbedAt,after) →
      absorbedAt < clock + 1 := by
    intro absorbedAt after found
    have past := facts.firstDone absorbedAt after found
    omega
  cases acted with
  | restore server seen same =>
    subst same
    refine ⟨firstPast,?_,?_,firstDone,?_,?_,?_,?_⟩
    · intro restoredAt before found
      cases found
      omega
    · intro absent
      have value := (facts.untouched absent).1
      refine ⟨value,?_⟩
      intro restoredAt before found
      cases found
      exact seen.trans value
    · intro absorbedAt after found
      cases found
    · intro absorbedAt after restoredAt before done found
      cases found
      have past := facts.firstDone absorbedAt after done
      rw [if_neg (by omega),seen]
      exact facts.holding absorbedAt after done rfl
    · intro absorbedAt after done _
      exact facts.holding absorbedAt after done rfl
    · intro absorbedAt after secondAt seen restoredAt before _ found
      cases found
  | process restoredAt before after same =>
    subst same
    refine ⟨firstPast,?_,?_,firstDone,?_,?_,?_,?_⟩
    · intro moment server found
      have past := facts.secondPast moment server found
      omega
    · exact facts.untouched
    · intro absorbedAt after found
      cases found
    · exact facts.reading
    · intro absorbedAt after done _
      exact facts.holding absorbedAt after done rfl
    · intro absorbedAt after secondAt seen moment server _ found
      cases found
  | absorb restoredAt before after merged =>
    have stored : new = written piece old (piece.read before.connection) := by
      rw [merged,show piece.read after.connection = _ from unchanged]
      rfl
    refine ⟨firstPast,?_,?_,firstDone,?_,?_,?_,?_⟩
    · intro moment server found
      have past := facts.secondPast moment server found
      omega
    · intro absent
      obtain ⟨value,reads⟩ := facts.untouched absent
      refine ⟨?_,reads⟩
      rw [stored,value,reads restoredAt before rfl,written_initial]
    · intro absorbedAt server found
      cases found
      omega
    · exact facts.reading
    · intro absorbedAt server done absent
      cases absent
    · intro absorbedAt server secondAt seen moment held done found other
      cases found
      cases other
      have past := facts.firstDone absorbedAt server done
      have kept := facts.holding absorbedAt server done rfl
      have reads := facts.reading absorbedAt server restoredAt before done rfl
      rw [stored,kept,reads]
      by_cases across : restoredAt < absorbedAt
      · rw [if_pos across,if_pos ⟨across,past⟩]
      · rw [if_neg across,if_neg (fun both => across both.1),written_twice]

end MergeFacts

/-- A request that has not changed the piece had not changed it a step earlier. -/
theorem Acted.unchanged {piece : Piece defaultLevel} {clock : Nat} {old new : piece.Value}
    {progress next : Progress C} (acted : Acted piece clock old new progress next)
    (unchanged : next.Unchanged piece) : progress.Unchanged piece := by
  cases acted with
  | restore => trivial
  | process => trivial
  | absorb => exact unchanged

section Uniform

variable {http : HttpServer C} {owner : Option String} {start : ConnectionState}

def MergeInvariant (piece : Piece defaultLevel) (start : ConnectionState) (session : Session)
    (state : Merging C) : Prop :=
  state.second.Unchanged piece → MergeFacts piece (piece.read (session.view start))
    (piece.read (state.session.view start)) state.clock state.first state.second

theorem mergeInvariant_start (piece : Piece defaultLevel) (start : ConnectionState)
    (session : Session) : MergeInvariant (C := C) piece start session (.start session) := by
  intro _
  refine ⟨?_,?_,?untouched,?_,?_,?_,?_,?_⟩
  case untouched => exact fun _ => ⟨rfl,fun _ _ found => by cases found⟩
  all_goals intros
  all_goals contradiction

theorem mergeInvariant_preserved (piece : Piece http.config.defaultLogLevel)
    (uniform : ∀ store built, http.build owner store = .ok built → built.connection = start)
    {session : Session} {state next : Merging C} {label : MergeLabel}
    (valid : MergeInvariant piece start session state)
    (taken : state.step http owner label = some next) :
    MergeInvariant piece start session next := by
  intro unchanged
  cases label with
  | first action =>
    simp only [Merging.step,Option.map_eq_some_iff] at taken
    obtain ⟨⟨later,progress⟩,acting,rfl⟩ := taken
    exact (valid unchanged).firstActs (act_acted piece uniform acting)
  | second action =>
    simp only [Merging.step,Option.map_eq_some_iff] at taken
    obtain ⟨⟨later,progress⟩,acting,rfl⟩ := taken
    have acted := act_acted piece uniform acting
    exact (valid (acted.unchanged unchanged)).secondActs unchanged acted

/-- The second request restored before the first one's absorb and absorbs after it. -/
def Across (restoredAt absorbedAt secondAt : Nat) : Prop :=
  restoredAt < absorbedAt ∧ absorbedAt < secondAt

/-- The first request's change survives exactly when it is one the merge records, and
no recorded older value was held across it. -/
theorem change_survives_iff (http : HttpServer C) (owner : Option String)
    (start : ConnectionState)
    (uniform : ∀ store built, http.build owner store = .ok built → built.connection = start)
    (name : PieceName) (session : Session) (labels : List MergeLabel) (final : Merging C)
    (run : Runs.execute (Merging.step http owner) (.start session) labels = some final)
    (firstRestored firstAbsorbed secondRestored secondAbsorbed : Nat)
    (before after held kept : Server C)
    (first : final.first = .absorbed firstRestored firstAbsorbed before after)
    (second : final.second = .absorbed secondRestored secondAbsorbed held kept)
    (changed : (name.piece http.config.defaultLogLevel).read after.connection ≠
      (name.piece http.config.defaultLogLevel).read before.connection)
    (unchanged : (name.piece http.config.defaultLogLevel).read kept.connection =
      (name.piece http.config.defaultLogLevel).read held.connection) :
    (name.piece http.config.defaultLogLevel).read (final.session.view start) =
        (name.piece http.config.defaultLogLevel).read after.connection ↔
      (name.piece http.config.defaultLogLevel).recorded
        ((name.piece http.config.defaultLogLevel).read after.connection) = true ∧
      ¬(Across secondRestored firstAbsorbed secondAbsorbed ∧
        (name.piece http.config.defaultLogLevel).recorded
          ((name.piece http.config.defaultLogLevel).read (session.view start)) = true) := by
  generalize name.piece http.config.defaultLogLevel = piece at changed unchanged ⊢
  have valid : MergeInvariant piece start session final := Runs.invariant
    (fun _ _ _ holds taken => mergeInvariant_preserved piece uniform holds taken) run
    (mergeInvariant_start piece start session)
  have facts := valid (by rw [second]; exact unchanged)
  have initial := (facts.firstPast firstRestored before (by rw [first]; rfl)).2
  have value := facts.final firstAbsorbed after secondAbsorbed kept secondRestored held
    (by rw [first]; rfl) (by rw [second]; rfl) (by rw [second]; rfl)
  rw [initial] at changed
  rw [value]
  unfold Across
  cases own : piece.recorded (piece.read after.connection) with
  | false => simp [written,own,changed.symm]
  | true =>
    cases older : piece.recorded (piece.read (session.view start)) with
    | false => simp [written,own,older]
    | true => simp [written,own,older,changed.symm]

end Uniform

def levelRequest (level : String) : JsonRpcMessage :=
  .request ⟨.number 1,"logging/setLevel",some (.obj [("level",.str level)])⟩

def plainAround : Server.Surroundings := ⟨.new .default,0,""⟩

/-- A session whose client asked for `debug` earlier. -/
def debugSession : Session := ⟨some .debug,.default,none,true,none⟩

/-- A level change, and a ping wholly after it. -/
def apart : List MergeLabel :=
  [.first (.restore 0),.first (.process (levelRequest "notice") plainAround),.first .absorb,
    .second (.restore 1),.second (.process (.request ⟨.number 2,"ping",none⟩) plainAround),
    .second .absorb]

/-- A level change, and a ping that restores before it and absorbs after it. -/
def overlapping : List MergeLabel :=
  [.second (.restore 1),.first (.restore 0),
    .first (.process (levelRequest "notice") plainAround),.first .absorb,
    .second (.process (.request ⟨.number 2,"ping",none⟩) plainAround),.second .absorb]

theorem plain_starts (store : Nat) (built : Server Unit)
    (made : HttpServer.plain.build none store = .ok built) :
    built.connection = ⟨.info,.default,none,false⟩ := by
  cases made
  rfl

/-- The plain server as restored from a session, at a level. -/
def servedAt (level : LogLevel) : Server Unit :=
  { Server.new (ServerConfig.default "0.7.3" ⟨id,some⟩) with
    logLevel := level
    initialized := true
    taskContext := .anonymous }

theorem apart_survives :
    ((Session.mk (some .notice) .default none true none).view
        ⟨.info,.default,none,false⟩).logLevel = (servedAt .notice).connection.logLevel ↔
      decide ((servedAt .notice).connection.logLevel ≠ .info) = true ∧
        ¬(Across 3 2 5 ∧
          decide ((debugSession.view ⟨.info,.default,none,false⟩).logLevel ≠ .info) = true) :=
  change_survives_iff .plain none ⟨.info,.default,none,false⟩ plain_starts .logLevel debugSession
    apart ⟨⟨some .notice,.default,none,true,none⟩,
      .absorbed 0 2 (servedAt .debug) (servedAt .notice),
      .absorbed 3 5 (servedAt .notice) (servedAt .notice),6⟩ rfl 0 2 3 5
    (servedAt .debug) (servedAt .notice) (servedAt .notice) (servedAt .notice) rfl rfl
    (show LogLevel.notice ≠ LogLevel.debug by decide) rfl

/-- The ping writes `debug` back over the `notice` that was set meanwhile. -/
theorem overlapping_lost :
    ∃ final, Runs.execute (Merging.step (.plain : HttpServer Unit) none)
        (.start debugSession) overlapping = some final ∧
      final.first = .absorbed 1 3 (servedAt .debug) (servedAt .notice) ∧
      final.second = .absorbed 0 5 (servedAt .debug) (servedAt .debug) ∧
      (final.session.view ⟨.info,.default,none,false⟩).logLevel = .debug :=
  ⟨⟨debugSession,.absorbed 1 3 (servedAt .debug) (servedAt .notice),
    .absorbed 0 5 (servedAt .debug) (servedAt .debug),6⟩,rfl,rfl,rfl,rfl⟩

end SmlMcps
