import SmlMcps.CliRefusals
import SmlMcps.InstallSettles

/-! From the line that installs a server to the process a client starts: what is written into a
client's configuration, read back as the client reads it, and given to the dispatch of the
harness and to that of the daemon. -/
namespace SmlMcps

/-! ## The daemon's dispatch -/

def daemonFlag : String := "--daemon"
def foregroundFlag : String := "--foreground"
/-- Names the socket the daemon owns. -/
def socketFlag : String := "--socket"

/-- Which of the four jobs this process was launched to do. -/
inductive Mode where
  /-- Detach from the terminal and serve. -/
  | daemon
  | foreground
  /-- Proxy stdio to a daemon, starting one if none is up. -/
  | shim
  /-- Proxy stdio to a daemon on another machine. -/
  | remote (addr : RemoteAddr)
  deriving DecidableEq

/-- Which of the local modes the arguments ask for, first mode flag winning. -/
def localMode : List String → Mode
  | [] => .shim
  | arg :: rest =>
    if arg = daemonFlag then .daemon
    else if arg = foregroundFlag then .foreground
    else localMode rest

/-- The same of a whole command line: the name of the program is not read. -/
def modeFromArgs (args : List String) : Mode := localMode (args.drop 1)

/-- The first local flag there is, which `--connect` cannot be combined with. -/
def localConflict (args : List String) : Option String :=
  args.findSome? fun arg => [daemonFlag,foregroundFlag,socketFlag].find? fun flag =>
    arg == flag || startsWith arg (flag ++ "=")

/-- Which mode a command line asks for, or why it cannot be answered. -/
def launchMode (args : List String) : Except McpError Mode :=
  match connectFromArgs (args.drop 1) with
  | .error message => .error (.invalidParams message)
  | .ok none => .ok (modeFromArgs args)
  | .ok (some addr) =>
    match localConflict (args.drop 1) with
    | some flag => .error (.invalidParams ("`" ++ connectFlag ++ "` cannot be combined with `" ++
        flag ++ "`: a remote shim neither runs a daemon nor uses a local socket"))
    | none => .ok (.remote addr)

/-- What a process comes to do. -/
inductive Job where
  | remoteShim (addr : RemoteAddr)
  | shim | transformedShim
  | daemon | foreground
  deriving DecidableEq

/-- The dispatch: a remote shim has no business with the socket's directory, which the others
need to be private. -/
def serveDaemonFrom (ensurePrivateParentDir : Except McpError Unit) (shimTransform : Bool)
    (args : List String) : Except McpError Job :=
  match launchMode args with
  | .error e => .error e
  | .ok (.remote addr) => .ok (.remoteShim addr)
  | .ok mode =>
    match ensurePrivateParentDir with
    | .error e => .error e
    | .ok () => .ok (match mode with
      | .shim => if shimTransform then .transformedShim else .shim
      | .daemon => .daemon
      | _ => .foreground)

/-- The command line a shim starts a daemon with. -/
def relaunch (exe socket : String) : List String := [exe,daemonFlag,socketFlag,socket]

/-! ## What a client reads of its configuration -/

/-- The program and the arguments a client starts for the server of this name. -/
def JsonClient.launched (text : JsonText) (client : JsonClient) (name : String) (files : Files) :
    Option (String × List String) :=
  match client.readConfig text files with
  | .error _ => none
  | .ok config => do
    let existing ← (config.get client.serversKey).bind (·.get name)
    let command ← (existing.get "command").bind Json.asString
    match ← existing.get "args" with
    | .arr items => return (command,← items.mapM Json.asString)
    | _ => none

def CodexClient.launched (text : TomlText) (client : CodexClient) (name : String) (files : Files) :
    Option (String × List String) :=
  match client.readConfig text files with
  | .error _ => none
  | .ok document => do
    let existing ← ((document.lookup serversTable).bind Toml.asTableLike).bind (·.lookup name)
    let table ← existing.asTableLike
    let command ← (table.lookup "command").bind Toml.asStr
    let items ← (table.lookup "args").bind Toml.asArray
    return (command,← items.mapM Toml.asStr)

/-- What the clients under a home directory start for the server of this name. -/
inductive Starts (machine : Machine) (home : Path) (name : String) (files : Files) :
    McpClient → String × List String → Prop where
  | json {client : JsonClient} {line : String × List String}
      (known : client ∈ jsonClientsUnder machine.platform home)
      (reads : client.launched machine.json name files = some line) :
      Starts machine home name files (client.mcp machine.json machine.currentExe) line
  | codex {line : String × List String}
      (reads : (codexUnder home).launched machine.toml name files = some line) :
      Starts machine home name files ((codexUnder home).mcp machine.toml machine.currentExe) line

/-! ## An installed entry is what is started -/

section
variable {files : Files} {entry : ServerEntry} {currentExe : Option String}

/-- Of a config whose entry is current, the entry that is there. -/
theorem ConfigClient.current {D E : Type} {client : ConfigClient D E}
    (status : client.checkExisting files = .installed) : ∃ config existing,
      client.read files = .ok config ∧ client.existing config = some existing ∧
        client.matchesEntry existing = true := by
  unfold ConfigClient.checkExisting at status
  split at status
  · cases status
  · split at status
    · cases status
    · rename_i config read
      split at status
      · cases status
      · rename_i existing found
        split at status
        · cases status
        · split at status
          · rename_i matched
            exact ⟨config,existing,read,found,matched⟩
          · cases status

theorem jsonEntry_args : (entry.jsonEntry currentExe).get "args" =
    some (.arr (entry.arguments.map .str)) := by
  have distinct : ((entry.jsonMembers currentExe).map Prod.fst).Nodup :=
    (by decide : ["command","args","env"].Nodup)
  exact JsonMap.lookup_ofMembers distinct "args"

theorem mapM_asString (arguments : List String) :
    (arguments.map Json.str).mapM Json.asString = some arguments := by
  induction arguments with
  | nil => rfl
  | cons argument rest ih => simp [ih,Json.asString]

theorem JsonClient.launched_installed {text : JsonText} {client : JsonClient}
    (status : client.checkExisting text currentExe entry files = .installed) :
    client.launched text entry.name files = some (entry.command currentExe,entry.arguments) := by
  obtain ⟨config,existing,read,found,matched⟩ := ConfigClient.current status
  obtain rfl : existing = entry.jsonEntry currentExe := of_decide_eq_true matched
  have read' : client.readConfig text files = .ok config := read
  have found' : (config.get client.serversKey).bind (·.get entry.name) =
      some (entry.jsonEntry currentExe) := found
  rw [launched,read']
  simp only [found',jsonEntry_command,jsonEntry_args,Option.bind_eq_bind,Option.bind_some,
    Json.asString,mapM_asString]
  rfl

theorem CodexClient.launched_installed {text : TomlText} {client : CodexClient}
    (status : client.checkExisting text currentExe entry files = .installed) :
    client.launched text entry.name files = some (entry.command currentExe,entry.arguments) := by
  obtain ⟨document,existing,read,found,matched⟩ := ConfigClient.current status
  have read' : client.readConfig text files = .ok document := read
  have found' : ((document.lookup serversTable).bind Toml.asTableLike).bind
      (·.lookup entry.name) = some existing := found
  have matched' : matchesEntry currentExe entry existing = true := matched
  rw [launched,read']
  unfold matchesEntry at matched'
  cases table : existing.asTableLike with
  | none =>
    rw [table] at matched'
    cases matched'
  | some entries =>
    rw [table] at matched'
    simp only [Bool.and_eq_true,beq_iff_eq] at matched'
    obtain ⟨⟨⟨command,arguments⟩,-⟩,-⟩ := matched'
    obtain ⟨items,array,each⟩ := Option.bind_eq_some_iff.mp arguments
    simp only [found',table,command,array,each,Option.bind_eq_bind,Option.bind_some]
    rfl

theorem starts_installed {machine : Machine} {home : Path} {client : McpClient}
    (known : client ∈ clientsUnder machine home)
    (status : client.checkExisting entry files = .installed) :
    Starts machine home entry.name files client
      (entry.command machine.currentExe,entry.arguments) := by
  rcases List.mem_append.mp known with json | codex
  · obtain ⟨client,member,rfl⟩ := List.mem_map.mp json
    exact .json member (JsonClient.launched_installed status)
  · rw [List.mem_singleton.mp codex] at status ⊢
    exact .codex (CodexClient.launched_installed status)

end

/-! ## An address behind the arguments -/

/-- The arguments a daemon's address is written as. -/
def connectPair (connect : Option RemoteAddr) : List String :=
  match connect with
  | some addr => [connectFlag,addr.text]
  | none => []

theorem written_arguments (cli : Cli) (connect : Option RemoteAddr)
    (fresh : cli.entry.connect = none) :
    (cli.written connect).arguments = cli.entry.args ++ connectPair connect := by
  cases connect with
  | none => simp [Cli.written,ServerEntry.arguments,connectPair,fresh]
  | some addr => rfl

/-- A scan that ended well goes on behind the arguments it read. -/
theorem connectFrom_append {found next : Option RemoteAddr} {args : List String}
    (ok : connectFrom found args = .ok next) (more : List String) :
    connectFrom found (args ++ more) = connectFrom next more := by
  fun_induction connectFrom found args with
  | case1 found =>
    cases ok
    rfl
  | case2 => cases ok
  | case3 found value args next' took ih =>
    rw [List.cons_append,List.cons_append,connectFrom,if_pos rfl]
    simp only [took]
    exact ih ok
  | case4 => cases ok
  | case5 found arg args apart value joined next' took ih =>
    rw [List.cons_append,connectFrom.eq_def]
    simp only [if_neg apart,joined,took]
    exact ih ok
  | case6 => cases ok
  | case7 found arg args apart unjoined ih =>
    rw [List.cons_append,connectFrom.eq_def]
    simp only [if_neg apart,unjoined]
    exact ih ok

theorem RemoteAddr.parse_eq (addr : RemoteAddr) : RemoteAddr.parse addr.text = .ok addr := by
  unfold RemoteAddr.parse
  split
  · rfl
  · rename_i e failed
    have passed := addr.checked
    rw [failed] at passed
    cases passed

theorem RemoteAddr.text_colon (addr : RemoteAddr) : ':' ∈ addr.text.toList := by
  obtain ⟨-,host,port,number,whole,-⟩ := RemoteAddr.check_iff.mp addr.checked
  rw [whole]
  simp

theorem connectFrom_pair (connect : Option RemoteAddr) :
    connectFrom none (connectPair connect) = .ok connect := by
  cases connect with
  | none => rfl
  | some addr =>
    have filled : ¬addr.text.isEmpty = true := by
      intro empty
      have colon := addr.text_colon
      rw [String.isEmpty_iff.mp empty] at colon
      cases colon
    have found : foundAddr none addr.text = .ok (some addr) := by
      rw [foundAddr,if_neg filled,addr.parse_eq]
      rfl
    rw [connectPair,connectFrom,if_pos rfl]
    simp only [found]
    rfl

/-- Arguments that say nothing of where the daemon is or of what this process is to be. -/
structure Quiet (args : List String) : Prop where
  connect : connectFromArgs args = .ok none
  conflict : localConflict args = none

theorem localConflict_append {args more : List String} :
    localConflict (args ++ more) = (localConflict args).or (localConflict more) := by
  rw [localConflict,List.findSome?_append]
  rfl

/-- Without a local flag the mode is that of a shim. -/
theorem localMode_quiet {args : List String} (quiet : localConflict args = none) :
    localMode args = .shim := by
  induction args with
  | nil => rfl
  | cons arg rest ih =>
    rw [localConflict,List.findSome?_cons] at quiet
    split at quiet
    · cases quiet
    · rename_i unspelt
      have no (flag : String) (member : flag ∈ [daemonFlag,foregroundFlag,socketFlag]) :
          arg ≠ flag := by
        rintro rfl
        have spelt := List.find?_eq_none.mp unspelt arg member
        simp at spelt
      rw [localMode,if_neg (no _ (by simp)),if_neg (no _ (by simp))]
      exact ih quiet

/-- The shim that dials an address, or the one that looks for a daemon on this machine. -/
def shimMode : Option RemoteAddr → Mode
  | some addr => .remote addr
  | none => .shim

/-- An address that is not spelt like a local flag. -/
def PlainAddr (connect : Option RemoteAddr) : Prop := localConflict (connectPair connect) = none

theorem launchMode_quiet {args : List String} {connect : Option RemoteAddr} {exe : String}
    (quiet : Quiet args) (plain : PlainAddr connect) :
    launchMode (exe :: (args ++ connectPair connect)) = .ok (shimMode connect) := by
  have connected : connectFromArgs (args ++ connectPair connect) = .ok connect := by
    rw [connectFromArgs,connectFrom_append quiet.connect,connectFrom_pair]
  have apart : localConflict (args ++ connectPair connect) = none := by
    rw [localConflict_append,quiet.conflict,plain]
    rfl
  rw [launchMode,List.drop_one,List.tail_cons,connected]
  cases connect with
  | none =>
    simp only
    rw [modeFromArgs,List.drop_one,List.tail_cons,localMode_quiet apart]
    rfl
  | some addr =>
    simp only [apart]
    rfl

/-! ## The harness's dispatch -/

theorem not_help (addr : RemoteAddr) : isHelpFlag addr.text = false := by
  rw [isHelpFlag,Bool.or_eq_false_iff,beq_eq_false_iff_ne,beq_eq_false_iff_ne]
  constructor <;>
  · intro same
    have colon := addr.text_colon
    rw [same] at colon
    exact absurd colon (by decide)

theorem pair_unhelped (connect : Option RemoteAddr) :
    (connectPair connect).any isHelpFlag = false := by
  cases connect with
  | none => rfl
  | some addr =>
    have flag : isHelpFlag connectFlag = false := by decide
    simp [connectPair,flag,not_help]

/-- An entry that starts `serve` starts it with the address too. -/
theorem plan_serves {cli : Cli} {given : List String}
    (serves : cli.plan cli.entry.args = .builtin .serve given) (connect : Option RemoteAddr) :
    cli.plan (cli.entry.args ++ connectPair connect) =
      .builtin .serve (given ++ connectPair connect) := by
  cases listed : cli.entry.args with
  | nil =>
    have empty : cli.entry.args.isEmpty = true := by rw [listed]; rfl
    rw [listed,Cli.plan,empty,Bool.true_and] at serves
    cases there : cli.serve.isSome with
    | false => simp [there] at serves
    | true =>
      rw [there,if_pos rfl] at serves
      cases serves
      cases connect with
      | none => simp [connectPair,Cli.plan,empty,there]
      | some addr =>
        have flag : isConnectFlag connectFlag = true := by decide
        simp [connectPair,Cli.plan,empty,there,flag]
  | cons first rest =>
    have filled : cli.entry.args.isEmpty = false := by rw [listed]; rfl
    rw [listed] at serves
    rw [List.cons_append]
    rw [Cli.plan.eq_def] at serves ⊢
    simp only [filled,Bool.false_and,Bool.false_eq_true,if_false] at serves ⊢
    by_cases asks : (isHelpFlag first || first == "help") = true
    · rw [if_pos asks] at serves
      split at serves
      · split at serves <;> cases serves
      · cases serves
    · rw [if_neg asks] at serves ⊢
      cases found : cli.find first with
      | none =>
        rw [found] at serves
        cases serves
      | some target =>
        rw [found] at serves
        simp only [List.any_append,pair_unhelped,Bool.or_false] at serves ⊢
        by_cases helped : rest.any isHelpFlag = true
        · rw [if_pos helped] at serves
          cases serves
        · rw [if_neg helped] at serves ⊢
          cases target with
          | custom index => cases serves
          | builtin command =>
            cases serves
            rfl

/-- What the arguments behind `serve` are, in an entry that starts it. -/
theorem serves_given {cli : Cli} {given : List String}
    (serves : cli.plan cli.entry.args = .builtin .serve given) :
    cli.entry.args = given ∨ ∃ first, isConnectFlag first = false ∧
      cli.entry.args = first :: given := by
  cases listed : cli.entry.args with
  | nil =>
    rw [listed,Cli.plan] at serves
    split at serves
    · cases serves
      exact .inl rfl
    · cases serves
  | cons first rest =>
    have filled : cli.entry.args.isEmpty = false := by rw [listed]; rfl
    rw [listed,Cli.plan.eq_def] at serves
    simp only [filled,Bool.false_and,Bool.false_eq_true,if_false] at serves
    split at serves
    · split at serves
      · split at serves <;> cases serves
      · cases serves
    · split at serves
      · cases serves
      · rename_i target found
        split at serves
        · cases serves
        · cases target with
          | custom index => cases serves
          | builtin command =>
            cases serves
            -- Only one name selects the `serve` of the harness.
            have named : first = "serve" := by
              unfold Cli.find at found
              grind
            exact .inr ⟨first,by rw [named]; decide,rfl⟩

theorem Quiet.tail {first : String} {rest : List String} (other : isConnectFlag first = false)
    (quiet : Quiet (first :: rest)) : Quiet rest := by
  obtain ⟨connected,apart⟩ := quiet
  constructor
  · have unspelt : first ≠ connectFlag := by
      rintro rfl
      cases other
    have unjoined : (stripPrefix connectFlag first).bind (stripPrefix "=") = none := by
      rw [Option.eq_none_iff_forall_not_mem]
      intro value joined
      obtain ⟨tail,one,two⟩ := Option.bind_eq_some_iff.mp joined
      rw [stripPrefix_eq_some] at one two
      have spelt : isConnectFlag first = true := isConnectFlag_iff.mpr
        (.inr ⟨value,by rw [one,two,String.append_assoc]⟩)
      rw [spelt] at other
      cases other
    rw [connectFromArgs,connectFrom.eq_def] at connected
    simp only [if_neg unspelt,unjoined] at connected
    exact connected
  · rw [localConflict,List.findSome?_cons] at apart
    split at apart
    · cases apart
    · exact apart

theorem localFlag_quiet {args : List String} (apart : localConflict args = none) :
    args.any Cli.localFlag = false := by
  rw [List.any_eq_false]
  intro arg member spelt
  have unspelt := List.findSome?_eq_none_iff.mp apart arg member
  have no := List.find?_eq_none.mp unspelt
  have daemon := no daemonFlag (by simp)
  have foreground := no foregroundFlag (by simp)
  have socket := no socketFlag (by simp)
  simp only [Bool.or_eq_true,beq_iff_eq,not_or] at daemon foreground socket
  simp only [Cli.localFlag,Bool.or_eq_true,beq_iff_eq] at spelt
  rcases spelt with ((same | same) | same) | same
  · exact daemon.1 same
  · exact foreground.1 same
  · exact socket.1 same
  · exact socket.2 same

/-! ## The whole way -/

/-- How a command line starts the server: the harness serves it, and the daemon's dispatch finds
in it the address that was given, or none. -/
structure Launches (cli : Cli) (host : Host) (connect : Option RemoteAddr)
    (line : String × List String) : Prop where
  harness : ∃ given, cli.plan line.2 = .builtin .serve given ∧
    ∀ addr connector, connect = some addr → cli.remoteConnector = some connector →
      ∀ files, cli.runServe host given files = Cli.dialed (connector.bridge addr.text) files
  daemon : launchMode (line.1 :: line.2) = .ok (shimMode connect)

theorem launches_written {cli : Cli} {host : Host} {given : List String} {exe : String}
    {connect : Option RemoteAddr} (serves : cli.plan cli.entry.args = .builtin .serve given)
    (quiet : Quiet cli.entry.args) (plain : PlainAddr connect) :
    Launches cli host connect (exe,cli.entry.args ++ connectPair connect) where
  harness := by
    refine ⟨_,plan_serves serves connect,?_⟩
    rintro addr connector rfl dials files
    have quiet : Quiet given := by
      rcases serves_given serves with same | ⟨first,other,same⟩
      · rwa [same] at quiet
      · rw [same] at quiet
        exact quiet.tail other
    have connected : connectFromArgs (given ++ connectPair (some addr)) = .ok (some addr) := by
      rw [connectFromArgs,connectFrom_append quiet.connect,connectFrom_pair]
    have apart : localConflict (given ++ connectPair (some addr)) = none := by
      rw [localConflict_append,quiet.conflict,plain]
      rfl
    simp only [Cli.runServe,dials,connected,localFlag_quiet apart,Bool.false_eq_true,if_false]
  daemon := launchMode_quiet quiet plain

/-- After an `install` that succeeds, each chosen client that is there starts the server by a
line that leads to the address the install was given, and to the local daemon if to none. -/
theorem installed_launches (cli : Cli) (host : Host) (home : Path) (args given : List String)
    (asked : HarnessArgs) (files : Files) (lives : host.home = some home)
    (fresh : cli.entry.connect = none)
    (serves : cli.plan cli.entry.args = .builtin .serve given) (quiet : Quiet cli.entry.args)
    (parsed : HarnessArgs.parse args = .ok asked) (plain : PlainAddr asked.connect)
    (lossless : host.toMachine.Lossless home (cli.written asked.connect)
      (runHook cli.beforeInstall args files).2)
    (worked : (cli.install host args files).exit = .success) :
    ∀ client ∈ clientsUnder host.toMachine home, chosen asked.selectors client = true →
      client.checkExisting (cli.written asked.connect) (runHook cli.beforeInstall args files).2 ≠
        .clientNotFound →
      ∃ line, Starts host.toMachine home cli.entry.name (cli.install host args files).files
        client line ∧ Launches cli host asked.connect line := by
  intro client known picked there
  have clients : host.allClients = clientsUnder host.toMachine home := by
    rw [Host.allClients,lives]
    rfl
  have name : (cli.written asked.connect).name = cli.entry.name := by
    cases asked.connect <;> rfl
  refine ⟨((cli.written asked.connect).command host.currentExe,
    cli.entry.args ++ connectPair asked.connect),?_,launches_written serves quiet plain⟩
  rw [← written_arguments cli asked.connect fresh,← name]
  simp only [Cli.install,parsed,clients] at worked ⊢
  cases accepted : selectorError (clientsUnder host.toMachine home) asked.selectors with
  | some message =>
    simp only [accepted] at worked
    cases worked
  | none =>
    simp only [accepted] at worked ⊢
    rcases hooked : runHook cli.beforeInstall args files with ⟨_ | _,after⟩
    · simp [hooked] at worked
    · simp only [hooked] at worked lossless there ⊢
      generalize ran : SmlMcps.install host.toMachine (cli.written asked.connect)
        (clientsUnder host.toMachine home) asked.selectors after = result at worked
      obtain ⟨⟨text,outcome⟩,last⟩ := result
      cases outcome with
      | done =>
        have repeats := install_repeats lossless (by rw [ran])
        have status := repeats.settled client known picked
        rw [if_neg there] at status
        rw [ran] at status
        exact starts_installed known status
      | failed => cases worked
      | usage => cases worked

/-! ### A daemon on another machine -/

def remoteConfig : JsonMap := [("mcpServers",.obj [("my-mcp",.obj [
  ("args",.arr [.str "serve",.str "--connect",.str "jetson:7211"]),
  ("command",.str "/bin/my-mcp"),("env",.obj [])])])]

def remoteText : JsonText := .ofWholeLine (.obj remoteConfig)
  ("\x7b\n  \"mcpServers\": \x7b\n    \"my-mcp\": \x7b\n      \"args\": [\n        \"serve\",\n" ++
    "        \"--connect\",\n        \"jetson:7211\"\n      ],\n" ++
    "      \"command\": \"/bin/my-mcp\",\n      \"env\": \x7b\x7d\n    \x7d\n  \x7d\n\x7d")

def remoteHost : Host := { Cli.cursorHost with json := remoteText }

/-- A server that reaches other machines by a transport of its own. -/
def remoteCli : Cli where
  entry := .new "my-mcp" ["serve"]
  serve := some fun _ files => (.ok (),files)
  remoteConnector := some ⟨fun _ => .ok (),fun _ => .ok "healthy"⟩

def jetson : RemoteAddr := ⟨"jetson:7211",by decide⟩

theorem remoteText_faithful : remoteText.FaithfulLine remoteConfig where
  lossless := by simp only [remoteText,JsonText.ofWholeLine,if_true]
  opening := by
    simp only [remoteText,JsonText.ofWholeLine,if_true,String.toList_append,List.head?_append]
    rfl

theorem remoteHost_lossless : remoteHost.toMachine.Lossless ["home","u"]
    (remoteCli.written (some jetson)) JsonClient.freshFiles where
  json := by
    intro client member detected fields written
    have only : client = JsonClient.cursor := by
      have sole : ∀ client ∈ jsonClientsUnder .linux ["home","u"],
          client.detect JsonClient.freshFiles = true → client = JsonClient.cursor := by decide
      exact sole client member detected
    subst only
    obtain ⟨before,read,changed⟩ := written
    obtain rfl : before = .obj [] := (Except.ok.inj read).symm
    rcases changed with changed | changed
    · have written : JsonClient.cursor.withEntry (some "/bin/my-mcp")
          (remoteCli.written (some jetson)) (.obj []) = .ok (some (.obj remoteConfig)) := by decide
      obtain rfl : fields = remoteConfig :=
        Json.obj.inj (Option.some.inj (Except.ok.inj (changed.symm.trans written)))
      exact remoteText_faithful
    · cases changed
  toml detected := by
    have absent : (codexUnder ["home","u"]).detect JsonClient.freshFiles = false := by decide
    have detected' : (codexUnder ["home","u"]).detect JsonClient.freshFiles = true := detected
    rw [absent] at detected'
    cases detected'

theorem remoteHost_cursor : JsonClient.cursor.mcp remoteText (some "/bin/my-mcp") ∈
    clientsUnder remoteHost.toMachine ["home","u"] := by
  have listed : JsonClient.cursor ∈ jsonClientsUnder .linux ["home","u"] := by decide
  exact List.mem_append_left _ (List.mem_map_of_mem listed)

theorem installed_launches_jetson : ∃ line,
    Starts remoteHost.toMachine ["home","u"] "my-mcp"
      (remoteCli.install remoteHost ["--connect","jetson:7211"] JsonClient.freshFiles).files
      (JsonClient.cursor.mcp remoteText (some "/bin/my-mcp")) line ∧
    Launches remoteCli remoteHost (some jetson) line :=
  installed_launches remoteCli remoteHost ["home","u"] ["--connect","jetson:7211"] []
    ⟨[],some jetson⟩ JsonClient.freshFiles rfl rfl (by decide) ⟨by decide,by decide⟩ (by decide)
    rfl remoteHost_lossless (by decide +kernel) _ remoteHost_cursor rfl (by decide +kernel)

/-! ## The daemon a shim starts -/

theorem launchMode_relaunch {exe socket : String} :
    launchMode (relaunch exe socket) = .ok .daemon ↔ isConnectFlag socket = false := by
  have reads : connectFromArgs ((relaunch exe socket).drop 1) = connectFrom none [socket] := rfl
  have local_ : localConflict ((relaunch exe socket).drop 1) = some daemonFlag := rfl
  have mode : modeFromArgs (relaunch exe socket) = .daemon := rfl
  rw [launchMode,reads,local_,mode]
  by_cases flag : socket = connectFlag
  · have spelt : isConnectFlag socket = true := isConnectFlag_iff.mpr (.inl flag)
    rw [connectFrom,if_pos flag,spelt]
    simp
  · rw [connectFrom.eq_def]
    simp only [if_neg flag]
    cases joined : (stripPrefix connectFlag socket).bind (stripPrefix "=") with
    | none =>
      have unspelt : isConnectFlag socket = false := by
        rw [Bool.eq_false_iff,ne_eq,isConnectFlag_iff]
        rintro (same | ⟨value,same⟩)
        · exact flag same
        · have spelt := connect_joined.mpr
            ((HarnessFlag.spelling.joined socket .connect value).mpr same)
          rw [joined] at spelt
          cases spelt
      simp [connectFrom,unspelt]
    | some value =>
      have spelt : isConnectFlag socket = true := by
        obtain ⟨tail,one,two⟩ := Option.bind_eq_some_iff.mp joined
        rw [stripPrefix_eq_some] at one two
        exact isConnectFlag_iff.mpr (.inr ⟨value,by rw [one,two,String.append_assoc]⟩)
      rw [spelt]
      simp only
      cases taken : foundAddr none value with
      | error message => simp
      | ok next =>
        obtain ⟨-,-,-,one⟩ := foundAddr_ok taken
        cases next with
        | none => simp at one
        | some addr => simp [connectFrom]

/-- A local flag is no command of the harness. -/
theorem plan_local {cli : Cli} {flag : String} (spelt : flag ∈ [daemonFlag,foregroundFlag,socketFlag])
    (unnamed : ∀ command ∈ cli.custom, command.1.name ≠ flag) (rest : List String) :
    cli.plan (flag :: rest) = .unknown flag := by
  have words : ∀ flag ∈ [daemonFlag,foregroundFlag,socketFlag], isConnectFlag flag = false ∧
      isHelpFlag flag = false ∧ flag ∉ ["help","install","uninstall","serve","health"] := by decide
  obtain ⟨notConnect,notHelp,notNamed⟩ := words flag spelt
  have notListed : cli.find flag = none := by
    have none_ : (cli.custom.map Prod.fst).findIdx? (fun command => command.name == flag) = none := by
      simpa using fun command handler member => unnamed (command,handler) member
    simp only [List.mem_cons,List.not_mem_nil,or_false,not_or] at notNamed
    simp [Cli.find,none_,notNamed]
  have notAsked : (flag == "help") = false := by
    rw [beq_eq_false_iff_ne]
    rintro rfl
    simp at notNamed
  rw [Cli.plan.eq_def]
  simp [notConnect,notHelp,notAsked,notListed]

/-- The process a shim starts is the daemon, by the daemon's own dispatch, unless its socket is
spelt like an address; but where the command line is the harness's it is refused, and so is every
line that begins with a local flag. -/
theorem relaunched (cli : Cli) (host : Host) (parent : Except McpError Unit) (transform : Bool)
    (exe socket : String) (files : Files)
    (unnamed : ∀ command ∈ cli.custom, command.1.name ∉ [daemonFlag,foregroundFlag,socketFlag]) :
    (serveDaemonFrom parent transform (relaunch exe socket) = .ok .daemon ↔
      parent = .ok () ∧ isConnectFlag socket = false) ∧
    ∀ flag ∈ [daemonFlag,foregroundFlag,socketFlag], ∀ rest,
      cli.runFrom host (exe :: flag :: rest) files =
        (cli.namedBy (exe :: flag :: rest)).unknown host flag files := by
  constructor
  · rw [← @launchMode_relaunch exe socket,serveDaemonFrom]
    generalize launchMode (relaunch exe socket) = mode
    rcases mode with e | mode
    · simp
    · rcases mode with _ | _ | _ | addr <;> cases parent <;> simp
      split <;> simp
  · intro flag spelt rest
    have named : ∀ command ∈ (cli.namedBy (exe :: flag :: rest)).custom, command.1.name ≠ flag := by
      rintro command member rfl
      exact unnamed command member spelt
    have planned := plan_local spelt named rest
    simp only [Cli.runFrom,List.drop_one,List.tail_cons,planned]
    rfl

/-- A server whose own command line is the harness's. -/
theorem relaunched_jetson :
    (serveDaemonFrom (.ok ()) false (relaunch "/bin/my-mcp" "/run/my-mcp.sock") = .ok .daemon ↔
      (Except.ok () : Except McpError Unit) = .ok () ∧ isConnectFlag "/run/my-mcp.sock" = false) ∧
    ∀ flag ∈ [daemonFlag,foregroundFlag,socketFlag], ∀ rest,
      remoteCli.runFrom remoteHost ("/bin/my-mcp" :: flag :: rest) JsonClient.freshFiles =
        (remoteCli.namedBy ("/bin/my-mcp" :: flag :: rest)).unknown remoteHost flag
          JsonClient.freshFiles :=
  relaunched remoteCli remoteHost (.ok ()) false "/bin/my-mcp" "/run/my-mcp.sock"
    JsonClient.freshFiles nofun

end SmlMcps
