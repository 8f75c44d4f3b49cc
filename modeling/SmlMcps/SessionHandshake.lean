import SmlMcps.InitializationGate
import SmlMcps.SessionSteps
import SmlMcps.SessionState

/-! The initialization gate over HTTP, where every request has a server of its own: the
session carries the handshake from one request to the next. -/
namespace SmlMcps

variable {C : Type}

/-- The server is what an accepted first `initialize` made of one that had seen none. -/
def Server.Greeted (server : Server C) : Prop :=
  ∃ before around request result, before.initialized = false ∧ request.method = "initialize" ∧
    Server.dispatchRequest before around request = (server,around.store,.ready (.ok result))

namespace HttpWorld

variable {http : HttpServer C} {world next : HttpWorld C} {label : HttpLabel} {slot : Nat}

/-- The requests of a session are successive: none restores while another holds a server. -/
def Successive (slot : Nat) (world : HttpWorld C) (label : HttpLabel) : Prop :=
  ∀ index request, label = .restore index → world.requests[index]? = some request →
    request.session = slot → ∀ (other : Nat) busy, world.requests[other]? = some busy →
    busy.session = slot → busy.server? = none

/-- The server carries the session's handshake. -/
structure Carries (session : Session) (server : Server C) : Prop where
  initialized : server.initialized = session.initialized
  capabilities : server.clientCapabilities = session.clientCapabilities
  version : session.initialized = true → server.negotiatedVersion = session.negotiatedVersion

/-- What a request that has been handled has made of it. -/
structure Returns (session : Session) (server : Server C) : Prop where
  kept : session.initialized = true → server.initialized = true ∧
    server.clientCapabilities = session.clientCapabilities ∧
    server.negotiatedVersion = session.negotiatedVersion
  greeted : session.initialized = false → server.initialized = true → server.Greeted
  version : server.initialized = true → server.negotiatedVersion.isSome

/-- The handshake of the session in `slot` and of the request that works on it. -/
structure Handshake (slot : Nat) (world : HttpWorld C) : Prop where
  there : ∀ (index : Nat) request, world.requests[index]? = some request →
    request.session = slot → request.server?.isSome → slot < world.sessions.length
  single : ∀ (first second : Nat) one two, world.requests[first]? = some one →
    world.requests[second]? = some two → one.session = slot → two.session = slot →
    one.server?.isSome → two.server?.isSome → first = second
  restored : ∀ (index : Nat) request server session, world.requests[index]? = some request →
    request.session = slot → request.phase = .restored server →
    world.sessions[slot]? = some session →
    server.config.requireInitialization = true ∧ Carries session server
  processed : ∀ (index : Nat) request server session, world.requests[index]? = some request →
    request.session = slot → request.phase = .processed server →
    world.sessions[slot]? = some session → Returns session server
  version : ∀ session, world.sessions[slot]? = some session → session.initialized = true →
    session.negotiatedVersion.isSome

theorem handshake_empty : Handshake slot (HttpWorld.empty : HttpWorld C) where
  there index request found := by simp [HttpWorld.empty] at found
  single first second one two found := by simp [HttpWorld.empty] at found
  restored index request server session found := by simp [HttpWorld.empty] at found
  processed index request server session found := by simp [HttpWorld.empty] at found
  version session found := by simp [HttpWorld.empty] at found

theorem server_isSome {request : HttpRequest C} {server : Server C}
    (phase : request.phase = .restored server ∨ request.phase = .processed server) :
    request.server?.isSome = true := by
  rcases phase with restored | processed
  · simp [HttpRequest.server?,restored]
  · simp [HttpRequest.server?,processed]

/-- The session is as it was or new, and whoever works on it did so before. -/
theorem Handshake.fewer (handshake : Handshake slot world)
    (longer : world.sessions.length ≤ next.sessions.length)
    (sessions : ∀ session, next.sessions[slot]? = some session →
      world.sessions[slot]? = some session ∨
        (world.sessions.length ≤ slot ∧ session.initialized = false))
    (requests : ∀ (index : Nat) request, next.requests[index]? = some request →
      request.session = slot → request.server?.isSome → world.requests[index]? = some request) :
    Handshake slot next := by
  have same (index : Nat) (request : HttpRequest C) (session : Session)
      (known : next.requests[index]? = some request) (here : request.session = slot)
      (busy : request.server?.isSome = true) (found : next.sessions[slot]? = some session) :
      world.requests[index]? = some request ∧ world.sessions[slot]? = some session := by
    have before := requests index request known here busy
    refine ⟨before,?_⟩
    rcases sessions session found with old | ⟨new,_⟩
    · exact old
    · exact absurd (handshake.there index request before here busy) (Nat.not_lt.mpr new)
  constructor
  · intro index request known here busy
    exact Nat.lt_of_lt_of_le
      (handshake.there index request (requests index request known here busy) here busy) longer
  · intro first second one two left right atOne atTwo busy busyToo
    exact handshake.single first second one two (requests first one left atOne busy)
      (requests second two right atTwo busyToo) atOne atTwo busy busyToo
  · intro index request server session known here phase found
    obtain ⟨before,held⟩ :=
      same index request session known here (server_isSome (.inl phase)) found
    exact handshake.restored index request server session before here phase held
  · intro index request server session known here phase found
    obtain ⟨before,held⟩ :=
      same index request session known here (server_isSome (.inr phase)) found
    exact handshake.processed index request server session before here phase held
  · intro session found greeted
    rcases sessions session found with old | ⟨_,fresh⟩
    · exact handshake.version session old greeted
    · rw [fresh] at greeted
      cases greeted

theorem advance_cases {index other : Nat} {phase : Phase C} {request : HttpRequest C}
    (found : (world.advance index phase).requests[other]? = some request) :
    (∃ old, world.requests[other]? = some old ∧ other = index ∧
        request = { old with phase := phase }) ∨
      (other ≠ index ∧ world.requests[other]? = some request) := by
  simp only [advance,List.getElem?_modify] at found
  by_cases here : index = other
  · subst here
    obtain ⟨old,known,rfl⟩ := Option.map_eq_some_iff.mp found
    exact .inl ⟨old,known,rfl,by simp⟩
  · right
    exact ⟨Ne.symm here,by simpa [here] using found⟩

/-- A step of a request of another session leaves the requests of this one. -/
theorem advance_elsewhere {index other : Nat} {phase : Phase C} {request busy : HttpRequest C}
    (known : world.requests[index]? = some request) (here : request.session ≠ slot)
    (place : (world.advance index phase).requests[other]? = some busy)
    (same : busy.session = slot) : world.requests[other]? = some busy := by
  rcases advance_cases place with ⟨old,before,at_,rfl⟩ | ⟨_,before⟩
  · subst at_
    rw [known] at before
    cases before
    exact (here same).elim
  · exact before

/-- A request that lets go of its server, or has none, leaves the handshake alone. -/
theorem Handshake.advance (handshake : Handshake slot world) (index : Nat) {phase : Phase C}
    (free : ∀ server, phase ≠ .restored server ∧ phase ≠ .processed server)
    (longer : world.sessions.length ≤ next.sessions.length)
    (sessions : ∀ session, next.sessions[slot]? = some session →
      world.sessions[slot]? = some session)
    (requests : next.requests = (world.advance index phase).requests) : Handshake slot next := by
  refine handshake.fewer longer (fun session found => .inl (sessions session found)) ?_
  intro other request known _ busy
  rw [requests] at known
  rcases advance_cases known with ⟨old,_,_,rfl⟩ | ⟨_,before⟩
  · simp only [HttpRequest.server?] at busy
    split at busy
    · exact ((free _).1 rfl).elim
    · exact ((free _).2 rfl).elim
    · cases busy
  · exact before

/-! ### One request of the session -/

theorem restore_carries (session : Session) (built : Server C)
    (versioned : session.initialized = true → session.negotiatedVersion.isSome) :
    Carries (session.restore built).1 (session.restore built).2 := by
  obtain ⟨level,capabilities,version,initialized,tasks⟩ := session
  cases version with
  | some version =>
    cases level <;> cases tasks <;> exact ⟨rfl,rfl,fun _ => rfl⟩
  | none =>
    have never : initialized ≠ true := fun greeted => by simpa using versioned greeted
    cases level <;> cases tasks <;> exact ⟨rfl,rfl,fun greeted => (never greeted).elim⟩

theorem handled_kept {server : Server C} (required : server.config.requireInitialization = true)
    (greeted : server.initialized = true) (around : Server.Surroundings)
    (message : JsonRpcMessage) :
    (server.handled around message).initialized = true ∧
      (server.handled around message).clientCapabilities = server.clientCapabilities ∧
      (server.handled around message).negotiatedVersion = server.negotiatedVersion := by
  rw [server.handled_eq around message]
  cases message with
  | request asked =>
    simp only [acceptedChange,required,greeted]
    split
    · exact ⟨greeted,rfl,rfl⟩
    · split
      · simp only [Bool.not_true,Bool.and_false,Bool.false_eq_true,if_false]
        split <;> exact ⟨greeted,rfl,rfl⟩
      · exact ⟨greeted,rfl,rfl⟩
  | notification told => exact ⟨greeted,rfl,rfl⟩
  | response given => exact ⟨greeted,rfl,rfl⟩

/-- Before it, only an accepted `initialize` opens the gate. -/
theorem handled_greeted {server : Server C} (required : server.config.requireInitialization = true)
    (shut : server.initialized = false) {around : Server.Surroundings} {message : JsonRpcMessage}
    (opened : (server.handled around message).initialized = true) :
    (server.handled around message).Greeted ∧
      (server.handled around message).negotiatedVersion.isSome := by
  have handled := server.handled_eq around message
  cases message with
  | request asked =>
    by_cases method : asked.method = "initialize"
    · rcases Server.first_initialize shut method with ⟨problem,refused⟩ |
        ⟨after,result,_,_,dispatched⟩
      · rw [show server.handled around (.request asked) = server from
          congrArg Prod.fst (refused around),shut] at opened
        cases opened
      · have same : server.handled around (.request asked) = after :=
          congrArg Prod.fst (dispatched around)
        refine ⟨⟨server,around,asked,result,shut,method,same ▸ dispatched around⟩,?_⟩
        rw [handled] at opened ⊢
        simp only [acceptedChange,method,if_true,shut,Bool.and_false,Bool.false_eq_true,
          if_false] at opened ⊢
        split
        · rfl
        · rename_i failed
          simp only [failed,Change.apply,Server.withConnection,Server.connection,shut] at opened
          cases opened
    · have same : (server.handled around (.request asked)).initialized = false := by
        rw [handled]
        simp only [acceptedChange,method,if_false,required,shut,Bool.not_false,Bool.and_true]
        split <;> exact shut
      rw [same] at opened
      cases opened
  | notification told =>
    rw [show server.handled around (.notification told) = server from rfl,shut] at opened
    cases opened
  | response given =>
    rw [show server.handled around (.response given) = server from rfl,shut] at opened
    cases opened

theorem Carries.handled {session : Session} {server : Server C}
    (carries : Carries session server) (required : server.config.requireInitialization = true)
    (versioned : session.initialized = true → session.negotiatedVersion.isSome)
    (around : Server.Surroundings) (message : JsonRpcMessage) :
    Returns session (server.handled around message) := by
  cases greeted : session.initialized with
  | true =>
    obtain ⟨still,capabilities,version⟩ :=
      handled_kept required (carries.initialized.trans greeted) around message
    have agreed := version.trans (carries.version greeted)
    refine ⟨fun _ => ⟨still,capabilities.trans carries.capabilities,agreed⟩,?_,?_⟩
    · intro shut
      rw [greeted] at shut
      cases shut
    · intro _
      rw [agreed]
      exact versioned greeted
  | false =>
    have shut := carries.initialized.trans greeted
    refine ⟨?_,fun _ opened => (handled_greeted required shut opened).1,
      fun opened => (handled_greeted required shut opened).2⟩
    intro held
    rw [greeted] at held
    cases held

theorem Carries.unread {session : Session} {server : Server C} (carries : Carries session server)
    (versioned : session.initialized = true → session.negotiatedVersion.isSome) :
    Returns session server where
  kept greeted := ⟨carries.initialized.trans greeted,carries.capabilities,carries.version greeted⟩
  greeted shut opened := by
    rw [carries.initialized,shut] at opened
    cases opened
  version opened := by
    have greeted := carries.initialized.symm.trans opened
    rw [carries.version greeted]
    exact versioned greeted

/-- The absorbed session: the handshake is recorded once, and kept. -/
theorem Returns.absorb {session : Session} {server : Server C} (returns : Returns session server)
    (versioned : session.initialized = true → session.negotiatedVersion.isSome)
    (defaultLevel : LogLevel) :
    let later := session.absorb server defaultLevel
    (session.initialized = true → later.initialized = true ∧
      later.clientCapabilities = session.clientCapabilities ∧
      later.negotiatedVersion = session.negotiatedVersion) ∧
    (session.initialized = false → later.initialized = true → server.Greeted) ∧
    (later.initialized = true → later.negotiatedVersion.isSome) := by
  refine ⟨?_,?_,?_⟩
  · intro greeted
    obtain ⟨_,capabilities,version⟩ := returns.kept greeted
    obtain ⟨known,recorded⟩ := Option.isSome_iff_exists.mp (versioned greeted)
    refine ⟨?_,?_,?_⟩
    · simp [Session.absorb,greeted]
    · simp only [Session.absorb,capabilities]
      split <;> rfl
    · simp only [Session.absorb,version,recorded]
  · intro shut opened
    simp only [Session.absorb,shut,Bool.false_or] at opened
    exact returns.greeted shut opened
  · intro opened
    simp only [Session.absorb] at opened ⊢
    split
    · rfl
    · rename_i absent
      rcases Bool.or_eq_true_iff.mp opened with held | seen
      · exact versioned held
      · have present := returns.version seen
        rw [absent] at present
        cases present

/-! ### Every step of the world -/

theorem Handshake.arrived (handshake : Handshake slot world)
    (longer : world.sessions.length ≤ next.sessions.length)
    (sessions : ∀ session, next.sessions[slot]? = some session →
      world.sessions[slot]? = some session ∨
        (world.sessions.length ≤ slot ∧ session.initialized = false))
    {owner : Option String} {id : String} {session : Nat}
    (requests : next.requests = world.requests ++ [⟨owner,id,session,.checkedOut⟩]) :
    Handshake slot next := by
  refine handshake.fewer longer sessions ?_
  intro index request known _ busy
  rw [requests] at known
  rcases Nat.lt_or_ge index world.requests.length with inside | beyond
  · rwa [List.getElem?_append_left inside] at known
  · rw [List.getElem?_append_right beyond] at known
    have new := List.mem_singleton.mp (List.mem_of_getElem? known)
    rw [new] at busy
    cases busy

theorem Handshake.restore (handshake : Handshake slot world) {index : Nat}
    {request : HttpRequest C} {session : Session} {built : Server C} {stores : List TaskStore}
    (alone : Successive slot world (.restore index))
    (known : world.requests[index]? = some request)
    (there : world.sessions[request.session]? = some session)
    (required : built.config.requireInitialization = true) :
    Handshake slot (HttpWorld.advance { world with
      sessions := world.sessions.set request.session (session.restore built).1
      stores := stores } index (.restored (session.restore built).2)) := by
  have inside := (List.getElem?_eq_some_iff.mp there).1
  by_cases here : request.session = slot
  · have nobody := alone index request rfl known here
    subst here
    have versioned := handshake.version session there
    have now (later : Session) (found : (world.sessions.set request.session
        (session.restore built).1)[request.session]? = some later) :
        later = (session.restore built).1 := by
      rw [List.getElem?_set_self inside] at found
      exact (Option.some.inj found).symm
    have only (other : Nat) (busy : HttpRequest C) (place : (HttpWorld.advance { world with
          sessions := world.sessions.set request.session (session.restore built).1
          stores := stores } index (.restored (session.restore built).2)).requests[other]? =
          some busy) (same : busy.session = request.session) (holds : busy.server?.isSome = true) :
        other = index ∧ busy.phase = .restored (session.restore built).2 := by
      rcases advance_cases place with ⟨old,_,at_,rfl⟩ | ⟨_,before⟩
      · exact ⟨at_,rfl⟩
      · rw [nobody other busy before same] at holds
        cases holds
    constructor
    · intro other busy place same holds
      exact (List.length_set ▸ inside :)
    · intro first second one two left right atOne atTwo busy busyToo
      exact (only first one left atOne busy).1.trans (only second two right atTwo busyToo).1.symm
    · intro other busy server later place same phase found
      have restored := (only other busy place same (server_isSome (.inl phase))).2
      rw [phase] at restored
      cases restored
      rw [now later found]
      refine ⟨?_,restore_carries session built versioned⟩
      rw [Session.restore_config]
      exact required
    · intro other busy server later place same phase found
      have restored := (only other busy place same (server_isSome (.inr phase))).2
      rw [phase] at restored
      cases restored
    · intro later found greeted
      rw [now later found] at greeted ⊢
      obtain ⟨level,capabilities,version,initialized,tasks⟩ := session
      cases tasks <;> exact versioned greeted
  · refine handshake.fewer (Nat.le_of_eq List.length_set.symm) ?_ ?_
    · intro later found
      left
      rwa [show (HttpWorld.advance _ index _).sessions = world.sessions.set request.session
        (session.restore built).1 from rfl,List.getElem?_set_ne here] at found
    · intro other busy place same _
      exact advance_elsewhere (by exact known) here place same

/-- The request goes on to hold what its message made of the server. -/
theorem Handshake.process (handshake : Handshake slot world) {index : Nat}
    {request : HttpRequest C} {server after : Server C} {stores : List TaskStore}
    (known : world.requests[index]? = some request) (phase : request.phase = .restored server)
    (returns : ∀ session, server.config.requireInitialization = true → Carries session server →
      (session.initialized = true → session.negotiatedVersion.isSome) → Returns session after) :
    Handshake slot (HttpWorld.advance { world with stores := stores } index (.processed after)) := by
  by_cases here : request.session = slot
  · have holder := server_isSome (.inl phase)
    have inside := handshake.there index request known here holder
    have only (other : Nat) (busy : HttpRequest C) (place : (HttpWorld.advance
          { world with stores := stores } index (.processed after)).requests[other]? = some busy)
        (same : busy.session = slot) (holds : busy.server?.isSome = true) :
        other = index ∧ busy.phase = .processed after := by
      rcases advance_cases place with ⟨old,_,at_,rfl⟩ | ⟨apart,before⟩
      · exact ⟨at_,rfl⟩
      · exact (apart (handshake.single other index busy request before known same here holds
          holder)).elim
    constructor
    · intro other busy place same holds
      exact inside
    · intro first second one two left right atOne atTwo busy busyToo
      exact (only first one left atOne busy).1.trans (only second two right atTwo busyToo).1.symm
    · intro other busy held session place same restored found
      have processed := (only other busy place same (server_isSome (.inl restored))).2
      rw [restored] at processed
      cases processed
    · intro other busy held session place same processed found
      have same := (only other busy place same (server_isSome (.inr processed))).2
      rw [processed] at same
      cases same
      obtain ⟨required,carries⟩ := handshake.restored index request server session known here phase
        found
      exact returns session required carries (handshake.version session found)
    · exact handshake.version
  · refine handshake.fewer (Nat.le_refl _) (fun session found => .inl found) ?_
    intro other busy place same _
    exact advance_elsewhere (by exact known) here place same

theorem Handshake.absorb (handshake : Handshake slot world) {index : Nat}
    {request : HttpRequest C} {server : Server C} {session : Session} (defaultLevel : LogLevel)
    (known : world.requests[index]? = some request) (phase : request.phase = .processed server)
    (there : world.sessions[request.session]? = some session) :
    Handshake slot (HttpWorld.advance { world with
      sessions := world.sessions.set request.session (session.absorb server defaultLevel) }
      index .settled) := by
  have inside := (List.getElem?_eq_some_iff.mp there).1
  by_cases here : request.session = slot
  · subst here
    have returns := handshake.processed index request server session known rfl phase there
    obtain ⟨_,_,versioned⟩ := returns.absorb (handshake.version session there) defaultLevel
    have holder := server_isSome (.inr phase)
    have nobody (other : Nat) (busy : HttpRequest C) (place : (HttpWorld.advance { world with
          sessions := world.sessions.set request.session (session.absorb server defaultLevel) }
          index .settled).requests[other]? = some busy) (same : busy.session = request.session) :
        ¬busy.server?.isSome = true := by
      intro holds
      rcases advance_cases place with ⟨old,_,_,rfl⟩ | ⟨apart,before⟩
      · cases holds
      · exact apart (handshake.single other index busy request before known same rfl holds holder)
    constructor
    · intro other busy place same holds
      exact (nobody other busy place same holds).elim
    · intro first second one two left right atOne atTwo busy busyToo
      exact (nobody first one left atOne busy).elim
    · intro other busy held later place same restored found
      exact (nobody other busy place same (server_isSome (.inl restored))).elim
    · intro other busy held later place same processed found
      exact (nobody other busy place same (server_isSome (.inr processed))).elim
    · intro later found
      rw [show (HttpWorld.advance _ index _).sessions = world.sessions.set request.session
        (session.absorb server defaultLevel) from rfl,List.getElem?_set_self inside] at found
      cases found
      exact versioned
  · have other (later : Session) (found : (world.sessions.set request.session
        (session.absorb server defaultLevel))[slot]? = some later) :
        world.sessions[slot]? = some later := by
      rwa [List.getElem?_set_ne here] at found
    exact handshake.advance index (fun _ => ⟨by simp,by simp⟩) (Nat.le_of_eq List.length_set.symm)
      other rfl

theorem step_handshake
    (requires : ∀ owner store built, http.build owner store = .ok built →
      built.config.requireInitialization = true)
    (world : HttpWorld C) (label : HttpLabel) (next : HttpWorld C)
    (handshake : Handshake slot world) (alone : Successive slot world label)
    (taken : step http world label = some next) : Handshake slot next := by
  have same : ∀ session, world.sessions[slot]? = some session →
      world.sessions[slot]? = some session := fun _ => id
  have still : ∀ session, world.sessions[slot]? = some session →
      world.sessions[slot]? = some session ∨
        (world.sessions.length ≤ slot ∧ session.initialized = false) := fun _ => .inl
  cases step_taken taken with
  | elapse | setClock | storeChange | refused | deleted =>
    exact handshake.fewer (Nat.le_refl _) still fun _ _ known _ _ => known
  | arrived owner fresh =>
    refine handshake.arrived (by simp [arrive]) ?_ rfl
    intro session found
    simp only [arrive] at found
    rcases Nat.lt_or_ge slot world.sessions.length with inside | beyond
    · rw [List.getElem?_append_left inside] at found
      exact .inl found
    · rw [List.getElem?_append_right beyond] at found
      refine .inr ⟨beyond,?_⟩
      rw [List.mem_singleton.mp (List.mem_of_getElem? found)]
      rfl
  | found filed => exact handshake.arrived (Nat.le_refl _) still rfl
  | rejected known flying =>
    exact handshake.advance _ (fun _ => ⟨by simp,by simp⟩) (Nat.le_refl _) same rfl
  | unbuilt known phase =>
    exact handshake.advance _ (fun _ => ⟨by simp,by simp⟩) (Nat.le_refl _) same rfl
  | restored known phase there made =>
    exact handshake.restore alone known there (requires _ _ _ made)
  | unread known phase e freshId =>
    exact handshake.process known phase fun session _ carries versioned => carries.unread versioned
  | processed known phase reaches there message freshId =>
    exact handshake.process known phase fun session required carries versioned =>
      carries.handled required versioned _ message
  | storeless known phase message freshId =>
    exact handshake.process known phase fun session required carries versioned =>
      carries.handled required versioned _ message
  | absorbed known phase there => exact handshake.absorb _ known phase there
  | settled known flying =>
    exact handshake.advance _ (fun _ => ⟨by simp,by simp⟩) (Nat.le_refl _) same rfl
  | tested known phase there =>
    exact handshake.advance _ (fun _ => ⟨by simp,by simp⟩) (Nat.le_refl _) same rfl
  | updated known phase =>
    exact handshake.advance _ (fun _ => ⟨by simp,by simp⟩) (Nat.le_refl _) same rfl

/-- The gate as the requests of one session meet it. -/
structure SessionGate (http : HttpServer C) (slot : Nat) (world : HttpWorld C) : Prop where
  shut : ∀ (index : Nat) request server session asked, world.requests[index]? = some request →
    request.session = slot → request.phase = .restored server →
    world.sessions[slot]? = some session → session.initialized = false →
    exempt asked.method = false → server.Refuses asked
  first : ∀ (index : Nat) request server session asked, world.requests[index]? = some request →
    request.session = slot → request.phase = .restored server →
    world.sessions[slot]? = some session → session.initialized = false →
    asked.method = "initialize" → server.Refuses asked ∨
      ∃ after, (∀ around, (server.dispatchRequest around asked).1 = after) ∧ after.Greeted
  again : ∀ (index : Nat) request server session asked, world.requests[index]? = some request →
    request.session = slot → request.phase = .restored server →
    world.sessions[slot]? = some session → session.initialized = true →
    asked.method = "initialize" → server.Refuses asked
  kept : ∀ label next session, step http world label = some next →
    world.sessions[slot]? = some session → session.initialized = true →
    ∃ later, next.sessions[slot]? = some later ∧ later.initialized = true ∧
      later.clientCapabilities = session.clientCapabilities ∧
      later.negotiatedVersion = session.negotiatedVersion
  opened : ∀ label next session later, step http world label = some next →
    world.sessions[slot]? = some session → next.sessions[slot]? = some later →
    session.initialized = false → later.initialized = true →
    ∃ index request server, label = .absorb index ∧ world.requests[index]? = some request ∧
      request.session = slot ∧ request.phase = .processed server ∧ server.Greeted

/-- What a step does to one session: nothing, a task store, or an absorb. -/
theorem step_session {session : Session} (taken : step http world label = some next)
    (there : world.sessions[slot]? = some session) :
    ∃ later, next.sessions[slot]? = some later ∧
      ((later.initialized = session.initialized ∧
          later.clientCapabilities = session.clientCapabilities ∧
          later.negotiatedVersion = session.negotiatedVersion) ∨
        ∃ index request server, label = .absorb index ∧ world.requests[index]? = some request ∧
          request.session = slot ∧ request.phase = .processed server ∧
          later = session.absorb server http.config.defaultLogLevel) := by
  have inside := (List.getElem?_eq_some_iff.mp there).1
  cases step_taken taken with
  | arrived owner fresh =>
    refine ⟨session,?_,.inl ⟨rfl,rfl,rfl⟩⟩
    simp only [arrive]
    rw [List.getElem?_append_left inside]
    exact there
  | @restored index request held built known phase found made =>
    by_cases here : request.session = slot
    · subst here
      rw [there] at found
      cases found
      refine ⟨(session.restore built).1,List.getElem?_set_self inside,.inl ?_⟩
      obtain ⟨level,capabilities,version,initialized,tasks⟩ := session
      cases tasks <;> exact ⟨rfl,rfl,rfl⟩
    · exact ⟨session,(List.getElem?_set_ne here).trans there,.inl ⟨rfl,rfl,rfl⟩⟩
  | @absorbed index request server held known phase found =>
    by_cases here : request.session = slot
    · subst here
      rw [there] at found
      cases found
      exact ⟨_,List.getElem?_set_self inside,.inr ⟨index,request,server,rfl,known,rfl,phase,rfl⟩⟩
    · exact ⟨session,(List.getElem?_set_ne here).trans there,.inl ⟨rfl,rfl,rfl⟩⟩
  | _ => exact ⟨session,there,.inl ⟨rfl,rfl,rfl⟩⟩

theorem Handshake.gate (handshake : Handshake slot world) : SessionGate http slot world := by
  constructor
  · intro index request server session asked known here phase there shut other
    obtain ⟨required,carries⟩ :=
      handshake.restored index request server session known here phase there
    exact Server.shut_refuses required (carries.initialized.trans shut) other
  · intro index request server session asked known here phase there shut method
    obtain ⟨_,carries⟩ := handshake.restored index request server session known here phase there
    have fresh := carries.initialized.trans shut
    rcases Server.first_initialize fresh method with refuses | ⟨after,result,_,_,dispatched⟩
    · exact .inl refuses
    · refine .inr ⟨after,fun around => congrArg Prod.fst (dispatched around),?_⟩
      exact ⟨server,⟨.new .default,0,""⟩,asked,result,fresh,method,dispatched _⟩
  · intro index request server session asked known here phase there greeted method
    obtain ⟨required,carries⟩ :=
      handshake.restored index request server session known here phase there
    exact Server.again_refuses required (carries.initialized.trans greeted) method
  · intro label next session taken there greeted
    obtain ⟨later,found,same | ⟨index,request,server,_,known,here,phase,rfl⟩⟩ :=
      step_session taken there
    · exact ⟨later,found,same.1.trans greeted,same.2⟩
    · have returns := handshake.processed index request server session known here phase there
      exact ⟨_,found,(returns.absorb (handshake.version session there) _).1 greeted⟩
  · intro label next session later taken there found shut opened
    obtain ⟨after,reached,same | ⟨index,request,server,absorbs,known,here,phase,rfl⟩⟩ :=
      step_session taken there
    · rw [reached] at found
      cases found
      rw [same.1,shut] at opened
      cases opened
    · rw [reached] at found
      cases found
      have returns := handshake.processed index request server session known here phase there
      exact ⟨index,request,server,absorbs,known,here,phase,
        (returns.absorb (handshake.version session there) _).2.1 shut opened⟩

end HttpWorld

/-! ## The gate -/

theorem ServerLoop.step_config {loop next : ServerLoop C} {label : LoopLabel}
    (taken : loop.step label = some next) : next.server.config = loop.server.config := by
  rcases step_server taken with same | ⟨request,broker,freshId,_,_,rfl⟩
  · rw [same]
  · rw [dispatch_server,Server.handled_eq]
    rfl

/-- The gate holds for whoever reads: in every run of the loop until the handshake, in
every step of the loop before and after it, and over the requests of a session. -/
theorem initialization_gate (server : Server C) (context : C) (store : TaskStore)
    (now : SystemTime) (instant : Nat) (http : HttpServer C)
    (required : server.config.requireInitialization = true)
    (requires : ∀ owner store built, http.build owner store = .ok built →
      built.config.requireInitialization = true) :
    (∀ labels loop,
      Runs.execute ServerLoop.step (.start server context store now instant) labels = some loop →
      (loop.server.initialized = false →
        ServerLoop.Ungreeted (.start server context store now instant) loop) ∧
      ∀ label next, loop.step label = some next → ServerLoop.Gated loop label next) ∧
    (∀ (loop : ServerLoop C) label next, loop.server.config.requireInitialization = true →
      loop.step label = some next → ServerLoop.Gated loop label next) ∧
    (∀ slot labels world,
      Runs.Guarded (HttpWorld.step http) (HttpWorld.Successive slot) .empty labels →
      Runs.execute (HttpWorld.step http) .empty labels = some world →
      HttpWorld.SessionGate http slot world) := by
  refine ⟨?_,fun loop label next needed taken => ServerLoop.step_gated needed taken,?_⟩
  · intro labels loop run
    have kept := @Runs.invariant (ServerLoop C) LoopLabel ServerLoop.step (fun reached =>
      reached.server.config = server.config ∧ (reached.server.initialized = false →
        ServerLoop.Ungreeted (.start server context store now instant) reached)) ?_
      (.start server context store now instant) loop labels run
      ⟨rfl,fun _ => ⟨rfl,rfl,rfl,rfl,trivial,nofun⟩⟩
    · refine ⟨kept.2,?_⟩
      intro label next taken
      exact ServerLoop.step_gated (kept.1 ▸ required) taken
    · intro reached label next ⟨config,ungreeted⟩ taken
      refine ⟨(ServerLoop.step_config taken).trans config,?_⟩
      intro still
      have needed : reached.server.config.requireInitialization = true := config ▸ required
      have shut : reached.server.initialized = false := by
        cases greeted : reached.server.initialized with
        | false => rfl
        | true =>
          rw [((ServerLoop.step_gated needed taken).kept greeted).1] at still
          cases still
      exact ServerLoop.step_ungreeted needed shut (ungreeted shut) taken still
  · intro slot labels world guarded run
    exact (Runs.guarded_invariant (HttpWorld.step_handshake requires) guarded run
      HttpWorld.handshake_empty).gate

def gatedConfig : ServerConfig :=
  { ServerConfig.default "0.7.3" ⟨id,some⟩ with requireInitialization := true }

/-- A server that insists on the handshake, asked for its tools and pinged. -/
def tooEarly : List LoopLabel :=
  [.read (.ok (.request ⟨.number 1,"tools/list",none⟩)) "",.reply,
    .read (.ok (.request ⟨.number 2,"ping",none⟩)) "",.reply]

theorem too_early_refused :
    ∃ loop, Runs.execute ServerLoop.step
        (.start (Server.new gatedConfig) () (.new .default) 0 0) tooEarly = some loop ∧
      loop.shared.written =
        [.error (.number 1) (McpError.invalidMessage "`tools/list` before `initialize`").toJsonrpcError,
          .answer (.number 2) (.obj [])] ∧
      ServerLoop.Ungreeted (.start (Server.new gatedConfig) () (.new .default) 0 0) loop := by
  have requires : ∀ owner store built,
      HttpServer.build ⟨gatedConfig,fun _ server => .ok server⟩ owner store = .ok built →
      (built : Server Unit).config.requireInitialization = true := by
    intro owner store built made
    cases made
    rfl
  have gate := initialization_gate (Server.new gatedConfig) () (.new .default) 0 0
    ⟨gatedConfig,fun _ server => .ok server⟩ rfl requires
  exact ⟨_,rfl,rfl,(gate.1 tooEarly _ rfl).1 rfl⟩

end SmlMcps
