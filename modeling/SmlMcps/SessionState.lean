import SmlMcps.HttpSession

/-! The connection state a session stands for. `restore` puts a session's view into a
freshly built server, and `absorb` merges a server's state into the view: a value that
looks like "nothing to say" leaves what was there. -/
namespace SmlMcps

variable {C : Type}

theorem declaresSomething_eq_false {capabilities : ClientCapabilities} :
    declaresSomething capabilities = false ↔ capabilities = .default := by
  obtain ⟨experimental,sampling,elicitation,roots⟩ := capabilities
  simp [declaresSomething,ClientCapabilities.default,List.isEmpty_iff]
  tauto

/-- How a state absorbs another: the level unless it is the default one, the
capabilities if they declare something, a version if there is one, a handshake. -/
def ConnectionState.merge (defaultLevel : LogLevel) (held seen : ConnectionState) :
    ConnectionState where
  logLevel := if seen.logLevel ≠ defaultLevel then seen.logLevel else held.logLevel
  clientCapabilities :=
    if declaresSomething seen.clientCapabilities then seen.clientCapabilities
    else held.clientCapabilities
  negotiatedVersion := seen.negotiatedVersion <|> held.negotiatedVersion
  initialized := held.initialized || seen.initialized

namespace Session

/-- The connection state of a server that starts in `start`, once `session` has been
restored into it. -/
def view (session : Session) (start : ConnectionState) : ConnectionState where
  logLevel := session.logLevel.getD start.logLevel
  clientCapabilities := session.clientCapabilities
  negotiatedVersion := session.negotiatedVersion <|> start.negotiatedVersion
  initialized := session.initialized

theorem restore_connection (session : Session) (server : Server C) :
    (session.restore server).2.connection = session.view server.connection := by
  obtain ⟨level,capabilities,version,initialized,tasks⟩ := session
  cases level <;> cases version <;> cases tasks <;> rfl

theorem restore_config (session : Session) (server : Server C) :
    (session.restore server).2.config = server.config := by
  obtain ⟨level,capabilities,version,initialized,tasks⟩ := session
  cases level <;> cases version <;> cases tasks <;> rfl

/-- Restoring may give the session a task store; what it stands for stays. -/
theorem restore_view (session : Session) (server : Server C) (start : ConnectionState) :
    (session.restore server).1.view start = session.view start := by
  obtain ⟨level,capabilities,version,initialized,tasks⟩ := session
  cases tasks <;> rfl

theorem absorb_view (session : Session) (server : Server C) (defaultLevel : LogLevel)
    (start : ConnectionState) :
    (session.absorb server defaultLevel).view start =
      (session.view start).merge defaultLevel server.connection := by
  have level : (if server.logLevel ≠ defaultLevel then some server.logLevel
      else session.logLevel).getD start.logLevel =
      if server.logLevel ≠ defaultLevel then server.logLevel
      else session.logLevel.getD start.logLevel := by
    split <;> rfl
  unfold absorb view ConnectionState.merge Server.connection
  simp only [level]
  cases server.negotiatedVersion <;> rfl

end Session

end SmlMcps
