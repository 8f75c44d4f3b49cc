import SmlMcps.HarnessArgs
import SmlMcps.HttpAnswers

/-! `health --connect`: the harness asks a daemon on another machine who it is, as the client
half of a session: `initialize`, the notification that it is done, one `ping`. The probe takes a
peer for healthy exactly if it answers twice, and believes the first answer who it is. -/
namespace SmlMcps

/-! ## The probe -/

structure ProbeReport where
  address : String
  name : String
  version : String
  deriving DecidableEq, Repr

def ProbeReport.text (report : ProbeReport) : String :=
  "ok - " ++ report.address ++ " is serving " ++ report.name ++ " " ++ report.version

/-- Where the probe is: before its read deadline is set, before one of its three messages, or
waiting for the answer to one. -/
inductive ProbePhase where
  | arming
  | greeting
  | awaitingHandshake
  | notifying (handshake : Json)
  | pinging (handshake : Json)
  | awaitingPong (handshake : Json)
  | done (result : Except McpError ProbeReport)

inductive ProbeEvent where
  | armed (supported : Except McpError Bool)
  | wrote (failure : Option McpError)
  | read (event : Except McpError JsonRpcMessage)

/-- A member of an object, `null` if there is none. -/
def memberOf (value : Json) (key : String) : Json :=
  (value.asObject.bind (JsonMap.lookup key)).getD .null

/-- The result of a response, and `null` for one with neither result nor error. -/
def JsonRpcResponse.outcome (response : JsonRpcResponse) : Except JsonRpcError Json :=
  match response.result, response.error with
  | some result, _ => .ok result
  | none, some error => .error error
  | none, none => .ok .null

/-- `debug` is how a message is rendered that should not have come. -/
structure Probe where
  addr : RemoteAddr
  debug : JsonRpcMessage → String

namespace Probe

def initializeRequest : JsonRpcRequest :=
  ⟨.number 1,"initialize",some (.obj (JsonMap.ofMembers [
    ("protocolVersion",some (.str protocolVersion)),
    ("capabilities",some (.obj [])),
    ("clientInfo",some (.obj (JsonMap.ofMembers [
      ("name",some (.str "sml_mcps health")),
      ("version",some (.str "0.7.3"))])))]))⟩

def initializedNotification : JsonRpcNotification := ⟨"notifications/initialized",none⟩

def pingRequest : JsonRpcRequest := ⟨.number 2,"ping",none⟩

variable (probe : Probe)

/-- A write, after which the probe goes on to `next`. -/
def send (method : String) (failure : Option McpError) (next : ProbePhase) : ProbePhase :=
  match failure with
  | none => next
  | some error => .done (.error (.internal
      (probe.addr.text ++ " hung up while being sent `" ++ method ++ "`: " ++ error.text)))

/-- The result of the request just sent; a notification in between is skipped. -/
def answer (method : String) (event : Except McpError JsonRpcMessage) :
    Option (Except McpError Json) :=
  match event with
  | .ok (.response response) =>
    match response.outcome with
    | .ok result => some (.ok result)
    | .error error => some (.error (.internal
        (probe.addr.text ++ " answered `" ++ method ++ "` with an error: " ++ error.message)))
  | .ok (.notification _) => none
  | .ok other => some (.error (.internal (probe.addr.text ++ " answered `" ++ method ++
      "` with something that is not a response: " ++ probe.debug other)))
  | .error .transportClosed => some (.error (.internal
      (probe.addr.text ++ " hung up before answering `" ++ method ++ "`")))
  | .error (.timeout _) => some (.error (.internal
      (probe.addr.text ++ " did not answer `" ++ method ++ "` within 10s")))
  | .error error => some (.error error)

/-- A read, after which the probe waits on or goes on to `next`. -/
def hear (method : String) (event : Except McpError JsonRpcMessage) (waiting : ProbePhase)
    (next : Json → ProbePhase) : ProbePhase :=
  match probe.answer method event with
  | none => waiting
  | some (.ok result) => next result
  | some (.error error) => .done (.error error)

def report (handshake : Json) : ProbeReport where
  address := probe.addr.text
  name := (memberOf (memberOf handshake "serverInfo") "name").asString.getD "?"
  version := (memberOf (memberOf handshake "serverInfo") "version").asString.getD "?"

/-- The probe over one call on its transport. -/
def step (phase : ProbePhase) (event : ProbeEvent) : Option ProbePhase :=
  match phase, event with
  | .arming, .armed (.ok true) => some .greeting
  | .arming, .armed (.ok false) => some (.done (.error (.internal
      "remote health transport must support read deadlines")))
  | .arming, .armed (.error error) => some (.done (.error error))
  | .greeting, .wrote failure => some (probe.send "initialize" failure .awaitingHandshake)
  | .awaitingHandshake, .read event =>
    some (probe.hear "initialize" event .awaitingHandshake .notifying)
  | .notifying handshake, .wrote failure =>
    some (probe.send "initialized" failure (.pinging handshake))
  | .pinging handshake, .wrote failure =>
    some (probe.send "ping" failure (.awaitingPong handshake))
  | .awaitingPong handshake, .read event => some (probe.hear "ping" event
      (.awaitingPong handshake) fun _ => .done (.ok (probe.report handshake)))
  | _, _ => none

end Probe

def ProbePhase.writes : ProbePhase → Option JsonRpcMessage
  | .greeting => some (.request Probe.initializeRequest)
  | .notifying _ => some (.notification Probe.initializedNotification)
  | .pinging _ => some (.request Probe.pingRequest)
  | _ => none

/-! ## Any peer -/

namespace Probe

variable {probe : Probe} {events : List ProbeEvent} {report : ProbeReport} {method : String}

def told (notification : JsonRpcNotification) : ProbeEvent := .read (.ok (.notification notification))

/-- The answer to a request, behind any notifications, with what comes after it. -/
def Answered (events : List ProbeEvent) (result : Json) (rest : List ProbeEvent) : Prop :=
  ∃ (between : List JsonRpcNotification) (response : JsonRpcResponse),
    events = between.map told ++ .read (.ok (.response response)) :: rest ∧
      response.outcome = .ok result

theorem step_done (result : Except McpError ProbeReport) (event : ProbeEvent) :
    probe.step (.done result) event = none := by
  cases event <;> rfl

theorem execute_done {result : Except McpError ProbeReport} :
    Runs.execute probe.step (.done result) events = some (.done (.ok report)) ↔
      events = [] ∧ result = .ok report := by
  cases events with
  | nil => simp [Runs.execute_nil]
  | cons event rest => simp [Runs.execute_cons,step_done]

theorem answer_none {event : Except McpError JsonRpcMessage}
    (waited : probe.answer method event = none) :
    ∃ notification, event = .ok (.notification notification) := by
  rcases event with error | message
  · cases error <;> cases waited
  · cases message with
    | request request => cases waited
    | notification notification => exact ⟨notification,rfl⟩
    | response response =>
      simp only [answer] at waited
      split at waited <;> cases waited

theorem answer_ok {event : Except McpError JsonRpcMessage} {result : Json}
    (answered : probe.answer method event = some (.ok result)) :
    ∃ response, event = .ok (.response response) ∧ response.outcome = .ok result := by
  rcases event with error | message
  · cases error <;> cases answered
  · cases message with
    | request request => cases answered
    | notification notification => cases answered
    | response response =>
      simp only [answer] at answered
      split at answered
      · rename_i value outcome
        cases answered
        exact ⟨response,rfl,outcome⟩
      · cases answered

/-- What is to be written is written, if the probe is to succeed. -/
theorem execute_send {before next : ProbePhase}
    (writes : ∀ failure, probe.step before (.wrote failure) =
      some (probe.send method failure next))
    (deaf : ∀ event, probe.step before (.read event) = none)
    (armed : ∀ supported, probe.step before (.armed supported) = none)
    (begun : before ≠ .done (.ok report)) :
    Runs.execute probe.step before events = some (.done (.ok report)) ↔
      ∃ rest, events = .wrote none :: rest ∧
        Runs.execute probe.step next rest = some (.done (.ok report)) := by
  constructor
  · intro run
    cases events with
    | nil =>
      rw [Runs.execute_nil,Option.some.injEq] at run
      exact (begun run).elim
    | cons event rest =>
      rw [Runs.execute_cons] at run
      cases event with
      | wrote failure =>
        rw [writes failure,Option.bind_some] at run
        cases failure with
        | none => exact ⟨rest,rfl,run⟩
        | some error => cases (execute_done.mp run).2
      | armed supported =>
        rw [armed supported] at run
        cases run
      | read event =>
        rw [deaf event] at run
        cases run
  · rintro ⟨rest,rfl,run⟩
    rw [Runs.execute_cons,writes none]
    exact run

/-- A peer that is waited for answers with a result, if the probe is to succeed. -/
theorem execute_hear {waiting : ProbePhase} {next : Json → ProbePhase}
    (reads : ∀ event, probe.step waiting (.read event) =
      some (probe.hear method event waiting next))
    (mute : ∀ failure, probe.step waiting (.wrote failure) = none)
    (armed : ∀ supported, probe.step waiting (.armed supported) = none)
    (begun : waiting ≠ .done (.ok report)) :
    Runs.execute probe.step waiting events = some (.done (.ok report)) ↔
      ∃ result rest, Answered events result rest ∧
        Runs.execute probe.step (next result) rest = some (.done (.ok report)) := by
  constructor
  · intro run
    induction events with
    | nil =>
      rw [Runs.execute_nil,Option.some.injEq] at run
      exact (begun run).elim
    | cons event rest ih =>
      rw [Runs.execute_cons] at run
      cases event with
      | read event =>
        rw [reads event,Option.bind_some,hear] at run
        cases answered : probe.answer method event with
        | none =>
          obtain ⟨notification,rfl⟩ := answer_none answered
          simp only [answered] at run
          obtain ⟨result,later,⟨between,response,same,outcome⟩,onward⟩ := ih run
          exact ⟨result,later,⟨notification :: between,response,by rw [same]; rfl,outcome⟩,onward⟩
        | some outcome =>
          simp only [answered] at run
          cases outcome with
          | error error => cases (execute_done.mp run).2
          | ok result =>
            obtain ⟨response,rfl,outcome⟩ := answer_ok answered
            exact ⟨result,rest,⟨[],response,rfl,outcome⟩,run⟩
      | armed supported =>
        rw [armed supported] at run
        cases run
      | wrote failure =>
        rw [mute failure] at run
        cases run
  · rintro ⟨result,rest,⟨between,response,rfl,outcome⟩,run⟩
    induction between with
    | nil =>
      rw [List.map_nil,List.nil_append,Runs.execute_cons,reads,Option.bind_some]
      simpa [hear,answer,outcome] using run
    | cons notification between ih =>
      rw [List.map_cons,List.cons_append,Runs.execute_cons,told,reads,Option.bind_some]
      exact ih

theorem execute_arming :
    Runs.execute probe.step .arming events = some (.done (.ok report)) ↔
      ∃ rest, events = .armed (.ok true) :: rest ∧
        Runs.execute probe.step .greeting rest = some (.done (.ok report)) := by
  constructor
  · intro run
    cases events with
    | nil => cases run
    | cons event rest =>
      rw [Runs.execute_cons] at run
      cases event with
      | armed supported =>
        rcases supported with error | supported
        · cases (execute_done.mp run).2
        · cases supported with
          | false => cases (execute_done.mp run).2
          | true => exact ⟨rest,rfl,run⟩
      | wrote failure => cases run
      | read event => cases run
  · rintro ⟨rest,rfl,run⟩
    exact run

/-- The probe takes a peer for healthy exactly if its reads have a deadline, everything it says
goes out, and both its requests are answered with a result, whatever notifications come before;
it reports who the first answer says the peer is. -/
theorem probe_ok_iff (probe : Probe) (events : List ProbeEvent) (report : ProbeReport) :
    Runs.execute probe.step .arming events = some (.done (.ok report)) ↔
      ∃ early handshake late pong,
        events = .armed (.ok true) :: .wrote none :: early ∧
        Answered early handshake (.wrote none :: .wrote none :: late) ∧
        Answered late pong [] ∧ report = probe.report handshake := by
  have greeting (events : List ProbeEvent) := @execute_send probe events report "initialize"
    .greeting .awaitingHandshake (fun _ => rfl) (fun _ => rfl) (fun _ => rfl) nofun
  have shaking (events : List ProbeEvent) := @execute_hear probe events report "initialize"
    .awaitingHandshake .notifying (fun _ => rfl) (fun _ => rfl) (fun _ => rfl) nofun
  have notifying (handshake : Json) (events : List ProbeEvent) := @execute_send probe events report
    "initialized" (.notifying handshake) (.pinging handshake) (fun _ => rfl) (fun _ => rfl)
    (fun _ => rfl) nofun
  have pinging (handshake : Json) (events : List ProbeEvent) := @execute_send probe events report
    "ping" (.pinging handshake) (.awaitingPong handshake) (fun _ => rfl) (fun _ => rfl)
    (fun _ => rfl) nofun
  have ponging (handshake : Json) (events : List ProbeEvent) := @execute_hear probe events report
    "ping" (.awaitingPong handshake) (fun _ => .done (.ok (probe.report handshake)))
    (fun _ => rfl) (fun _ => rfl) (fun _ => rfl) nofun
  rw [execute_arming]
  constructor
  · rintro ⟨rest,rfl,run⟩
    obtain ⟨early,rfl,run⟩ := (greeting _).mp run
    obtain ⟨handshake,rest,first,run⟩ := (shaking _).mp run
    obtain ⟨rest,rfl,run⟩ := (notifying _ _).mp run
    obtain ⟨late,rfl,run⟩ := (pinging _ _).mp run
    obtain ⟨pong,rest,second,run⟩ := (ponging _ _).mp run
    obtain ⟨rfl,same⟩ := execute_done.mp run
    exact ⟨early,handshake,late,pong,rfl,first,second,(Except.ok.inj same).symm⟩
  · rintro ⟨early,handshake,late,pong,rfl,first,second,rfl⟩
    refine ⟨_,rfl,(greeting _).mpr ⟨early,rfl,(shaking _).mpr ⟨handshake,_,first,?_⟩⟩⟩
    refine (notifying _ _).mpr ⟨_,rfl,(pinging _ _).mpr ⟨late,rfl,?_⟩⟩
    exact (ponging _ _).mpr ⟨pong,[],second,rfl⟩

end Probe

end SmlMcps
