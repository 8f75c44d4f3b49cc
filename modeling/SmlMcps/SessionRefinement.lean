import SmlMcps.SessionState

/-! A session against one long-lived server. Requests of a session handled one after
another should leave the state that a single server has after the same messages. They
do exactly when no message takes a value back: a level to the default, or declared
capabilities to none. -/
namespace SmlMcps

variable {C : Type}

/-- One message of a session, with what its handling draws on: over HTTP the store its
server would donate and the surroundings, and the surroundings of the single server. -/
structure Exchange where
  message : JsonRpcMessage
  store : Nat
  around : Server.Surroundings
  lineAround : Server.Surroundings

def Session.processRequest (http : HttpServer C) (owner : Option String) (session : Session)
    (exchange : Exchange) : Except McpError Session := do
  let built ← http.build owner exchange.store
  let (held,server) := session.restore built
  return held.absorb (server.handled exchange.around exchange.message)
    http.config.defaultLogLevel

def Server.handledAll (server : Server C) (exchanges : List Exchange) : Server C :=
  exchanges.foldl (fun server exchange => server.handled exchange.lineAround exchange.message)
    server

/-- After `front`, the server that is restored for the next request has the state of
the single server. Both are built by the same setup. -/
def Simulated (http : HttpServer C) (owner : Option String) (front : List Exchange)
    (first next : Nat) : Prop :=
  ∃ session single built,
    front.foldlM (Session.processRequest http owner) .default = .ok session ∧
    http.build owner first = .ok single ∧ http.build owner next = .ok built ∧
    (session.restore built).2.connection = (single.handledAll front).connection

/-- A change that `merge` does not lose: it does not go back to the default level, nor
from declared capabilities to none. -/
def Change.Recorded (defaultLevel : LogLevel) (state : ConnectionState) : Change → Prop
  | .none => True
  | .level asked => asked = defaultLevel → state.logLevel = defaultLevel
  | .handshake capabilities _ =>
    declaresSomething capabilities = false → declaresSomething state.clientCapabilities = false

def Recorded (config : ServerConfig) (defaultLevel : LogLevel) :
    ConnectionState → List JsonRpcMessage → Prop
  | _, [] => True
  | state, message :: rest =>
    let change := acceptedChange config state.initialized message
    change.Recorded defaultLevel state ∧ Recorded config defaultLevel (change.apply state) rest

theorem merge_level (defaultLevel asked : LogLevel) (state : ConnectionState) :
    state.merge defaultLevel { state with logLevel := asked } =
      { state with logLevel := if asked ≠ defaultLevel then asked else state.logLevel } := by
  obtain ⟨level,capabilities,version,initialized⟩ := state
  cases version <;> simp [ConnectionState.merge]

theorem merge_handshake (defaultLevel : LogLevel) (state : ConnectionState)
    (asked : ClientCapabilities) (agreed : String) :
    state.merge defaultLevel ((Change.handshake asked agreed).apply state) =
      (Change.handshake (if declaresSomething asked then asked else state.clientCapabilities)
        agreed).apply state := by
  refine ConnectionState.ext ?_ rfl rfl ?_
  · exact ite_self state.logLevel
  · exact Bool.or_true state.initialized

theorem merge_apply_iff (defaultLevel : LogLevel) (state : ConnectionState) (change : Change) :
    state.merge defaultLevel (change.apply state) = change.apply state ↔
      change.Recorded defaultLevel state := by
  cases change with
  | none =>
    have kept := merge_level defaultLevel state.logLevel state
    simpa [Change.apply,Change.Recorded] using kept
  | level asked =>
    rw [Change.apply,merge_level]
    by_cases same : asked = defaultLevel
    · subst same
      simp [Change.Recorded]
    · simp [Change.Recorded,same]
  | handshake asked agreed =>
    rw [merge_handshake]
    cases declared : declaresSomething asked with
    | true => simp [Change.Recorded,declared]
    | false =>
      rw [declaresSomething_eq_false] at declared
      subst declared
      have nothing : declaresSomething ClientCapabilities.default = false := rfl
      simp [Change.Recorded,Change.apply,nothing,declaresSomething_eq_false]

section Uniform

variable {http : HttpServer C} {owner : Option String} {start : ConnectionState}
  {config : ServerConfig}

theorem processRequest_view (session : Session) (exchange : Exchange)
    (uniform : ∀ store, ∃ built, http.build owner store = .ok built ∧
      built.connection = start ∧ built.config = config) :
    ∃ next, session.processRequest http owner exchange = .ok next ∧
      next.view start = (session.view start).merge http.config.defaultLogLevel
        ((acceptedChange config (session.view start).initialized exchange.message).apply
          (session.view start)) := by
  obtain ⟨built,made,state,configured⟩ := uniform exchange.store
  refine ⟨_,by simp [Session.processRequest,made,bind,Except.bind,pure,Except.pure]; rfl,?_⟩
  have restored := session.restore_connection built
  rw [state] at restored
  have initialized : (session.restore built).2.initialized = (session.view start).initialized :=
    congrArg ConnectionState.initialized restored
  rw [Session.absorb_view,Session.restore_view,Server.handled_eq,
    Server.connection_withConnection,restored,initialized,session.restore_config,configured]

/-- Sessions and the single server agree after every prefix exactly when they agree at
the start and every change is recorded: one request at a time. -/
theorem views_agree_iff (uniform : ∀ store, ∃ built, http.build owner store = .ok built ∧
      built.connection = start ∧ built.config = config)
    (exchanges : List Exchange) (session : Session) (single : Server C)
    (configured : single.config = config) :
    (∀ front back, exchanges = front ++ back →
      ∃ later, front.foldlM (Session.processRequest http owner) session = .ok later ∧
        later.view start = (single.handledAll front).connection) ↔
      session.view start = single.connection ∧
        Recorded config http.config.defaultLogLevel single.connection
          (exchanges.map Exchange.message) := by
  induction exchanges generalizing session single with
  | nil =>
    constructor
    · intro agree
      obtain ⟨later,same,view⟩ := agree [] [] rfl
      cases same
      exact ⟨view,trivial⟩
    · rintro ⟨view,_⟩ front back whole
      obtain ⟨rfl,rfl⟩ : front = [] ∧ back = [] := by simpa using whole.symm
      exact ⟨session,rfl,view⟩
  | cons exchange rest ih =>
    obtain ⟨next,served,merged⟩ := processRequest_view session exchange uniform
    have handled := single.handled_eq exchange.lineAround exchange.message
    have later := ih next (single.handled exchange.lineAround exchange.message) (by
      rw [handled]
      exact configured)
    rw [handled,Server.connection_withConnection,configured] at later
    constructor
    · intro agree
      obtain ⟨same,here,view⟩ := agree [] (exchange :: rest) rfl
      cases here
      have tail := later.mp (by
        intro front back whole
        obtain ⟨found,run,view⟩ := agree (exchange :: front) back (by rw [whole]; rfl)
        refine ⟨found,?_,?_⟩
        · simpa [List.foldlM_cons,served,bind,Except.bind] using run
        · rw [view,← configured,← handled]
          rfl)
      refine ⟨view,?_,tail.2⟩
      have kept := tail.1
      rw [merged,view] at kept
      exact (merge_apply_iff _ _ _).mp kept
    · rintro ⟨view,recorded,remaining⟩ front back whole
      cases front with
      | nil => exact ⟨session,rfl,view⟩
      | cons first front =>
        simp only [List.cons_append,List.cons.injEq] at whole
        obtain ⟨rfl,whole⟩ := whole
        have kept : next.view start = (acceptedChange config single.connection.initialized
            exchange.message).apply single.connection := by
          rw [merged,view]
          exact (merge_apply_iff _ _ _).mpr recorded
        obtain ⟨found,run,agreed⟩ := later.mpr ⟨kept,remaining⟩ front back whole
        refine ⟨found,?_,?_⟩
        · simpa [List.foldlM_cons,served,bind,Except.bind] using run
        · rw [agreed,← configured,← handled]
          rfl

end Uniform

/-- A session simulates one server along a sequence of messages exactly when a fresh
session says what the setup says and every message's change is recorded. -/
theorem session_simulates_iff (http : HttpServer C) (owner : Option String)
    (start : ConnectionState) (config : ServerConfig)
    (uniform : ∀ store, ∃ built, http.build owner store = .ok built ∧
      built.connection = start ∧ built.config = config)
    (exchanges : List Exchange) (first next : Nat) :
    (∀ front back, exchanges = front ++ back → Simulated http owner front first next) ↔
      start.clientCapabilities = .default ∧ start.initialized = false ∧
        Recorded config http.config.defaultLogLevel start (exchanges.map Exchange.message) := by
  obtain ⟨single,made,state,configured⟩ := uniform first
  obtain ⟨built,rebuilt,fresh,_⟩ := uniform next
  have opening : Session.default.view start = start ↔
      start.clientCapabilities = .default ∧ start.initialized = false := by
    obtain ⟨level,capabilities,version,initialized⟩ := start
    simp [Session.view,Session.default,eq_comm]
  have agree := views_agree_iff uniform exchanges .default single configured
  rw [state,opening,and_assoc] at agree
  rw [← agree]
  refine forall_congr' fun front => forall_congr' fun back => forall_congr' fun whole => ?_
  constructor
  · rintro ⟨session,other,remade,run,same,again,equal⟩
    rw [made] at same
    rw [rebuilt] at again
    cases same
    cases again
    rw [Session.restore_connection,fresh] at equal
    exact ⟨session,run,equal⟩
  · rintro ⟨session,run,equal⟩
    refine ⟨session,single,built,run,made,rebuilt,?_⟩
    rw [Session.restore_connection,fresh]
    exact equal

def forwardOnly : List Exchange :=
  [⟨.request ⟨.number 1,"initialize",some (.obj [("capabilities",.obj [("roots",.obj [])])])⟩,
      0,⟨.new .default,0,""⟩,⟨.new .default,0,""⟩⟩,
    ⟨.request ⟨.number 2,"logging/setLevel",some (.obj [("level",.str "debug")])⟩,
      1,⟨.new .default,0,""⟩,⟨.new .default,0,""⟩⟩]

theorem plain_uniform (owner : Option String) (store : Nat) :
    ∃ built, (.plain : HttpServer Unit).build owner store = .ok built ∧
      built.connection = ⟨.info,.default,none,false⟩ ∧
      built.config = HttpServer.plain.config (C := Unit) :=
  ⟨_,rfl,rfl,rfl⟩

theorem forwardOnly_simulated :
    (∀ front back, forwardOnly = front ++ back →
      Simulated (.plain : HttpServer Unit) none front 0 2) ↔
      (ConnectionState.mk .info .default none false).clientCapabilities = .default ∧
        (ConnectionState.mk .info .default none false).initialized = false ∧
        Recorded (HttpServer.plain (C := Unit)).config .info ⟨.info,.default,none,false⟩
          (forwardOnly.map Exchange.message) :=
  session_simulates_iff .plain none ⟨.info,.default,none,false⟩ _ (plain_uniform none)
    forwardOnly 0 2

/-- The default level asked for again after another one. -/
def backToDefault : List Exchange :=
  [⟨.request ⟨.number 1,"logging/setLevel",some (.obj [("level",.str "debug")])⟩,
      0,⟨.new .default,0,""⟩,⟨.new .default,0,""⟩⟩,
    ⟨.request ⟨.number 2,"logging/setLevel",some (.obj [("level",.str "info")])⟩,
      1,⟨.new .default,0,""⟩,⟨.new .default,0,""⟩⟩]

/-- The next request of the session is served at `debug`, the single server is back
at `info`. -/
theorem backToDefault_not_simulated :
    ¬Simulated (.plain : HttpServer Unit) none backToDefault 0 2 := by
  rintro ⟨session,single,built,run,made,rebuilt,same⟩
  cases made
  cases rebuilt
  have stored : session.logLevel = some .debug := by
    have ran : backToDefault.foldlM (Session.processRequest (.plain : HttpServer Unit) none)
        .default = .ok ⟨some .debug,.default,none,false,none⟩ := by rfl
    rw [ran] at run
    cases run
    rfl
  have level := congrArg ConnectionState.logLevel same
  rw [Session.restore_connection] at level
  simp only [Session.view,stored] at level
  revert level
  decide +kernel

end SmlMcps
