import SmlMcps.HarnessArgs
import SmlMcps.InstallIsolation

/-! The command line of a server: what it asks for, what is printed and what is run. The author's
closures are any functions of their arguments and of the files. -/
namespace SmlMcps

/-! ## Commands and their help -/

def columnWidth (lengths : List Nat) : Nat := lengths.foldl max 0 + 4

def columned (text : String) (width : Nat) : String :=
  text ++ String.ofList (List.replicate (width - text.length) ' ')

/-- One command, and the help it prints. Its flags are there to be printed only. -/
structure SubCommand where
  name : String
  description : String
  flags : List (String × String) := []
  deriving DecidableEq, Repr

def SubCommand.help (command : SubCommand) (program : String) : String :=
  let out := command.description ++ "\n\n"
  if command.flags.isEmpty then out ++ "USAGE: " ++ program ++ " " ++ command.name ++ "\n"
  else
    let width := columnWidth (command.flags.map fun flag => flag.1.utf8ByteSize)
    out ++ "USAGE: " ++ program ++ " " ++ command.name ++ " [OPTIONS]\n\nOPTIONS:\n" ++
      String.join (command.flags.map fun flag =>
        "    " ++ columned flag.1 width ++ flag.2 ++ "\n")

inductive Builtin where
  | install | uninstall | serve | health
  deriving DecidableEq, Repr

def Builtin.subcommand : Builtin → SubCommand
  | .install => ⟨"install","Install this server into MCP client configs",
      [("--client <name>","Only configure the named client (repeatable)"),
        ("--connect <host:port>","Point clients at a daemon on another machine, over TCP")]⟩
  | .uninstall => ⟨"uninstall","Remove this server from MCP client configs",
      [("--client <name>","Only remove from the named client (repeatable)")]⟩
  | .serve => ⟨"serve","Start the MCP server",[]⟩
  | .health => ⟨"health","Run health checks",
      [("--connect <host:port>","Probe a daemon on another machine instead of checking locally")]⟩

/-- An author's closure: what it does to the files, and whether it failed. -/
abbrev Handler := List String → Files → Except String Unit × Files

/-- The author's way to another machine: what dialing an address and serving over it, or
asking it for its health, comes to. -/
structure Connector where
  bridge : String → Except String Unit
  probe : String → Except String String

structure Cli where
  /-- What gets written into client configs. -/
  entry : ServerEntry
  description : Option String := none
  /-- What to call this program, when the command line does not say. -/
  binName : Option String := none
  serve : Option Handler := none
  health : Option Handler := none
  /-- The author's own work, before any config is written. -/
  beforeInstall : Option Handler := none
  /-- The author's own cleanup, after every config has been edited. -/
  afterUninstall : Option Handler := none
  /-- Commands the author added, in the order they were added. -/
  custom : List (SubCommand × Handler) := []
  remoteConnector : Option Connector := none

inductive Target where
  | builtin (command : Builtin)
  /-- The author's command at this index. -/
  | custom (index : Nat)
  deriving DecidableEq, Repr

/-- What a command line asks for, worked out before anything is run. -/
inductive Plan where
  | help
  | commandHelp (name : String)
  | builtin (command : Builtin) (args : List String)
  | custom (index : Nat) (args : List String)
  | unknown (name : String)
  deriving DecidableEq, Repr

def isHelpFlag (argument : String) : Bool := argument == "--help" || argument == "-h"

def fileStem (path : String) : Option String :=
  let components := (path.toList.splitOn '/').filter fun name => name != [] && name != ['.']
  components.getLast?.bind fun name =>
    if name = ['.','.'] then none
    else match Marks.rsplitOnce '.' name with
      -- A dot in front is part of the name, and not before an extension.
      | some (stem,_) => some (String.ofList (if stem.isEmpty then name else stem))
      | none => some (String.ofList name)

namespace Cli

/-! ## What a line asks for -/

section
variable (cli : Cli)

/-- Every command, in the order help lists them: an author's command takes the place of the
one of the harness that is called the same. -/
def commandList : List SubCommand :=
  let builtins := [Builtin.install,.uninstall] ++ (if cli.serve.isSome then [.serve] else []) ++
    (if cli.health.isSome then [.health] else [])
  ((builtins.map Builtin.subcommand).filter fun builtin =>
      !(cli.custom.map Prod.fst).any fun command => command.name == builtin.name) ++
    cli.custom.map Prod.fst

def find (name : String) : Option Target :=
  match (cli.custom.map Prod.fst).findIdx? (fun command => command.name == name) with
  | some index => some (.custom index)
  | none =>
    if name = "install" then some (.builtin .install)
    else if name = "uninstall" then some (.builtin .uninstall)
    else if name = "serve" ∧ cli.serve.isSome then some (.builtin .serve)
    else if name = "health" ∧ cli.health.isSome then some (.builtin .health)
    else none

def plan : List String → Plan
  | [] =>
    -- Clients launch a server without arguments bare, so bare has to mean `serve`.
    if cli.entry.args.isEmpty && cli.serve.isSome then .builtin .serve [] else .help
  | first :: rest =>
    if cli.entry.args.isEmpty && cli.serve.isSome && isConnectFlag first then
      .builtin .serve (first :: rest)
    else if isHelpFlag first || first == "help" then
      match rest with
      | name :: _ => if (cli.find name).isSome then .commandHelp name else .help
      | [] => .help
    else match cli.find first with
      | none => .unknown first
      | some target =>
        if rest.any isHelpFlag then .commandHelp first
        else match target with
          | .builtin command => .builtin command rest
          | .custom index => .custom index rest

/-! ## What is printed -/

def program (currentExe : Option String) : String :=
  (cli.binName.or (currentExe.bind fileStem)).getD cli.entry.name

def help (currentExe : Option String) : String :=
  let program := cli.program currentExe
  let width := columnWidth (cli.commandList.map fun command => command.name.utf8ByteSize)
  (match cli.description with
    | some description => program ++ " — " ++ description ++ "\n\n"
    | none => program ++ "\n\n") ++
  "USAGE: " ++ program ++ " <COMMAND>\n\nCOMMANDS:\n" ++
  String.join (cli.commandList.map fun command =>
    "    " ++ columned command.name width ++ command.description ++ "\n")

def commandHelp (currentExe : Option String) (name : String) : Option String :=
  (cli.commandList.find? fun command => command.name == name).map fun command =>
    command.help (cli.program currentExe)

end

end Cli

/-! ## What is run -/

inductive Exit where
  | success | failure
  /-- The command line was not understood: status 2. -/
  | usage
  deriving DecidableEq, Repr

structure Ran where
  exit : Exit
  out : String := ""
  err : String := ""
  files : Files

def Ran.finish (result : Except String Unit × Files) : Ran :=
  match result with
  | (.ok (),files) => { exit := .success, files }
  | (.error e,files) => { exit := .failure, err := "error: " ++ e ++ "\n", files }

/-- Print what a command had to say. A line that was wrong has no report to pipe anywhere. -/
def Ran.report (result : Report × Files) : Ran :=
  match result with
  | (report,files) => match report.outcome with
    | .done => { exit := .success, out := report.text, files }
    | .failed => { exit := .failure, out := report.text, files }
    | .usage => { exit := .usage, err := "error: " ++ report.text, files }

def runHook (hook : Option Handler) (args : List String) (files : Files) :
    Except String Unit × Files :=
  match hook with
  | some hook => hook args files
  | none => (.ok (),files)

/-- Where the process runs: the machine, its user's home directory, and what its own probe of an
address over TCP comes to. -/
structure Host extends Machine where
  home : Option Path
  probe : RemoteAddr → Except String String

def Host.allClients (host : Host) : List McpClient := clientsFor host.toMachine host.home

namespace Cli

section
variable (cli : Cli) (host : Host)

def unknown (name : String) (files : Files) : Ran where
  exit := .usage
  err := "error: unknown command `" ++ name ++ "`\n\n" ++ cli.help host.currentExe
  files := files

def usageError (message command : String) (files : Files) : Ran where
  exit := .usage
  err := "error: " ++ message ++ "\n" ++ match cli.commandHelp host.currentExe command with
    | some help => "\n" ++ help
    | none => ""
  files := files

def written (connect : Option RemoteAddr) : ServerEntry :=
  match connect with
  | some addr => cli.entry.withConnect addr.text
  | none => cli.entry

/-- The built-in `install`, and the author's own work before it. Every way the line can be
refused is settled before the hook runs. -/
def install (args : List String) (files : Files) : Ran :=
  match HarnessArgs.parse args with
  | .error message => cli.usageError host message "install" files
  | .ok asked =>
    match selectorError host.allClients asked.selectors with
    | some message => .report (.of .usage message,files)
    | none =>
      match runHook cli.beforeInstall args files with
      | (.error e,files) => { exit := .failure, err := "error: " ++ e ++ "\n", files }
      | (.ok (),files) => .report (SmlMcps.install host.toMachine (cli.written asked.connect)
          host.allClients asked.selectors files)

/-- The built-in `uninstall`, and the author's own cleanup after it, whatever the removals
came to. An address decides nothing: an entry is removed by its name. -/
def uninstall (args : List String) (files : Files) : Ran :=
  match HarnessArgs.parse args with
  | .error message => cli.usageError host message "uninstall" files
  | .ok asked =>
    match selectorError host.allClients asked.selectors with
    | some message => .report (.of .usage message,files)
    | none =>
      let removals := Ran.report
        (SmlMcps.uninstall cli.entry host.allClients asked.selectors files)
      match runHook cli.afterUninstall args removals.files with
      | (.ok (),files) => { removals with files }
      | (.error e,files) =>
        { removals with exit := .failure, err := removals.err ++ "error: " ++ e ++ "\n", files }

def dialed (result : Except String Unit) (files : Files) : Ran := .finish (result,files)

def probed (result : Except String String) (files : Files) : Ran :=
  match result with
  | .ok report => { exit := .success, out := report ++ "\n", files }
  | .error e => { exit := .failure, err := "error: " ++ e ++ "\n", files }

/-- `health`: the author's check, or the probe of another machine if the line asks for one. -/
def runHealth (handler : Handler) (args : List String) (files : Files) : Ran :=
  match connectFromArgs args with
  | .ok (some addr) => probed (match cli.remoteConnector with
      | none => host.probe addr
      | some connector => connector.probe addr.text) files
  | .ok none => .finish (handler args files)
  | .error message => cli.usageError host message "health" files

def localFlag (argument : String) : Bool :=
  argument == "--daemon" || argument == "--foreground" || argument == "--socket" ||
    startsWith argument "--socket="

def localServe (args : List String) (files : Files) : Ran :=
  match cli.serve with
  | some handler => .finish (handler args files)
  | none => cli.unknown host "serve" files

/-- `serve`: with a connector, `--connect` goes past the author's closure. -/
def runServe (args : List String) (files : Files) : Ran :=
  match cli.remoteConnector with
  | none => cli.localServe host args files
  | some connector => match connectFromArgs args with
    | .ok (some addr) =>
      if args.any localFlag then
        cli.usageError host "--connect cannot be combined with daemon or socket flags" "serve" files
      else dialed (connector.bridge addr.text) files
    | .error message => cli.usageError host message "serve" files
    | .ok none => cli.localServe host args files

def runPlan (plan : Plan) (files : Files) : Ran :=
  match plan with
  | .help => { exit := .success, out := cli.help host.currentExe, files }
  | .commandHelp name => match cli.commandHelp host.currentExe name with
    | some help => { exit := .success, out := help, files }
    | none => cli.unknown host name files
  | .builtin .install args => cli.install host args files
  | .builtin .uninstall args => cli.uninstall host args files
  | .builtin .serve args => cli.runServe host args files
  | .builtin .health args => match cli.health with
    | some handler => cli.runHealth host handler args files
    | none => cli.unknown host "health" files
  | .custom index args => match cli.custom[index]? with
    | some (_,handler) => .finish (handler args files)
    -- A plan's index is that of a command.
    | none => cli.unknown host "" files
  | .unknown name => cli.unknown host name files

/-- The program is called what it was called by, unless a name was set by hand. -/
def namedBy (argv : List String) : Cli :=
  { cli with binName := cli.binName.or (argv.head?.bind fileStem) }

def runFrom (argv : List String) (files : Files) : Ran :=
  let cli := cli.namedBy argv
  cli.runPlan host (cli.plan (argv.drop 1)) files

end
end Cli
end SmlMcps
