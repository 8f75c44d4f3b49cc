import SmlMcps.CodexClient
import SmlMcps.JsonClient
import SmlMcps.Library.Independence

/-! The `install` and `uninstall` commands: which clients a command line names, what is done
to each of them, and the report of it. -/
namespace SmlMcps

/-! ## The clients -/

structure McpClient where
  name : String
  /-- The name it is selected by on a command line. -/
  slug : String
  configPath : Path
  checkExisting : ServerEntry → Files → InstallStatus
  install : ServerEntry → Files → Except InstallError Unit × Files
  uninstall : ServerEntry → Files → Except InstallError Unit × Files

/-- A name reduced to the letters and digits in it, lowercased. -/
def squashed (name : String) : List Char :=
  (name.toList.filter Char.isAlphanum).map Char.toLower

/-- Lowercased with spaces hyphenated; the names are ASCII. -/
def defaultSlug (name : String) : String :=
  String.ofList (name.toList.map fun c => if c = ' ' then '-' else c.toLower)

def McpClient.matchesSelector (client : McpClient) (selector : String) : Bool :=
  let wanted := squashed selector
  !wanted.isEmpty && (squashed client.name == wanted || squashed client.slug == wanted)

def JsonClient.mcp (text : JsonText) (currentExe : Option String) (client : JsonClient) :
    McpClient where
  name := client.name
  slug := defaultSlug client.name
  configPath := client.configPath
  checkExisting := client.checkExisting text currentExe
  install := client.install text currentExe
  uninstall := client.uninstall text currentExe

def CodexClient.mcp (text : TomlText) (currentExe : Option String) (client : CodexClient) :
    McpClient where
  name := "Codex"
  slug := defaultSlug "Codex"
  configPath := client.configPath
  checkExisting := client.checkExisting text currentExe
  install := client.install text currentExe
  uninstall := client.uninstall text currentExe

inductive Platform where
  | macos | linux
  deriving DecidableEq, Repr

/-- Where a system keeps the settings of an application. -/
def Platform.settings : Platform → Path
  | .macos => ["Library","Application Support"]
  | .linux => [".config"]

/-- The clients with JSON configs under a home directory. -/
def jsonClientsUnder (platform : Platform) (home : Path) : List JsonClient := [
  .new "Claude Desktop" (home ++ (platform.settings ++ ["Claude","claude_desktop_config.json"]))
    "mcpServers",
  (JsonClient.new "Claude Code" (home ++ [".claude.json"]) "mcpServers").withDetectPath
    (home ++ [".claude"]),
  .new "Cursor" (home ++ [".cursor","mcp.json"]) "mcpServers",
  .new "Windsurf" (home ++ [".codeium","windsurf","mcp_config.json"]) "mcpServers",
  .new "VS Code" (home ++ (platform.settings ++ ["Code","User","mcp.json"])) "servers"]

def codexUnder (home : Path) : CodexClient := ⟨home ++ [".codex","config.toml"]⟩

/-- The printers and parsers of the config files, the running binary and the system. -/
structure Machine where
  json : JsonText
  toml : TomlText
  currentExe : Option String
  platform : Platform

def clientsUnder (machine : Machine) (home : Path) : List McpClient :=
  (jsonClientsUnder machine.platform home).map (JsonClient.mcp machine.json machine.currentExe) ++
    [(codexUnder home).mcp machine.toml machine.currentExe]

/-- No home directory, no clients; an empty `$HOME` counts as unset. -/
def clientsFor (machine : Machine) (home : Option Path) : List McpClient :=
  (home.map (clientsUnder machine)).getD []

/-! ## Reports -/

inductive CommandOutcome where
  | done | failed | usage
  deriving DecidableEq, Repr

structure Report where
  text : String
  outcome : CommandOutcome
  deriving DecidableEq, Repr

def Report.of (outcome : CommandOutcome) (text : String) : Report :=
  ⟨if text.toList.getLast? = some '\n' then text else text ++ "\n",outcome⟩

/-! ## Selecting clients -/

def known (clients : List McpClient) : String :=
  ", ".intercalate (clients.map McpClient.slug)

/-- What is wrong with the selectors, before anything has been attempted. -/
def selectorError (clients : List McpClient) (selectors : List String) : Option String :=
  if clients.isEmpty then none
  else (selectors.find? fun selector => !clients.any fun client =>
      client.matchesSelector selector).map fun selector =>
    "unknown client `" ++ selector ++ "`. Known clients: " ++ known clients

/-- Whether the selectors name the client, or name none. -/
def chosen (selectors : List String) (client : McpClient) : Bool :=
  selectors.isEmpty || selectors.any fun selector => client.matchesSelector selector

def select (clients : List McpClient) (selectors : List String) :
    Except String (List McpClient) :=
  if selectors.isEmpty then .ok clients
  else match selectorError clients selectors with
    | some message => .error message
    | none => .ok (clients.filter fun client =>
        selectors.any fun selector => client.matchesSelector selector)

/-! ## install -/

structure ClientTurn where
  line : String
  detected : Bool
  changed : Bool
  failed : Bool
  deriving DecidableEq, Repr

namespace ClientTurn

def text (turns : List ClientTurn) : String := String.join (turns.map ClientTurn.line)

def anyFailed (turns : List ClientTurn) : Bool := turns.any ClientTurn.failed

def outcome (turns : List ClientTurn) : CommandOutcome := if anyFailed turns then .failed else .done

end ClientTurn

def changedLine (name : String) (status : InstallStatus) (configPath : Path) : String :=
  match status with
  | .needsUpdate currentCommand => "  " ++ name ++ ": updated — was pointing at " ++
      currentCommand ++ " (" ++ configPath.display ++ ")\n"
  | .needsRefresh => "  " ++ name ++ ": updated (" ++ configPath.display ++ ")\n"
  | _ => "  " ++ name ++ ": configured (" ++ configPath.display ++ ")\n"

/-- The body of the loop of `install`. -/
def installTurn (entry : ServerEntry) (client : McpClient) (files : Files) : ClientTurn × Files :=
  let status := client.checkExisting entry files
  if status = .clientNotFound then
    (⟨"  " ++ client.name ++ ": not installed\n",false,false,false⟩,files)
  else if !status.wantsInstall then
    (⟨"  " ++ client.name ++ ": up to date (" ++ client.configPath.display ++ ")\n",
      true,false,false⟩,files)
  else match client.install entry files with
    | (.ok (),after) => (⟨changedLine client.name status client.configPath,true,true,false⟩,after)
    | (.error e,after) => (⟨"  " ++ client.name ++ ": could not be configured - " ++ e.text ++ "\n",
        true,false,true⟩,after)

section
variable (machine : Machine) (entry : ServerEntry)

/-- The block a user pastes into a client that could not be configured. -/
def ServerEntry.snippet : String :=
  machine.json.print (.obj [("mcpServers",.obj [(entry.name,entry.jsonEntry machine.currentExe)])])

/-- What to print when nothing could be configured automatically. -/
def fallback : String :=
  "\nAdd this to your client's MCP configuration by hand:\n\n" ++ entry.snippet machine ++ "\n"

def installSummary (selectors : List String) (turns : List ClientTurn) : String :=
  let detected := turns.countP ClientTurn.detected
  let changed := turns.countP ClientTurn.changed
  if detected = 0 then
    (if selectors.isEmpty then "No supported MCP clients detected.\n"
      else "None of the named MCP clients are installed.\n") ++ fallback machine entry
  else if 0 < changed then
    "Detected " ++ toString detected ++ " client(s), changed " ++ toString changed ++ ".\n" ++
      "Restart your MCP client to pick up the change.\n"
  else if ClientTurn.anyFailed turns then
    "Detected " ++ toString detected ++ " client(s), changed 0.\n"
  else "Detected " ++ toString detected ++ " client(s), all up to date.\n"

def installOpening : String :=
  "Installing " ++ entry.command machine.currentExe ++ " as `" ++ entry.name ++ "`.\n\n"

def installReport (selectors : List String) (turns : List ClientTurn) : Report where
  text := installOpening machine entry ++ "MCP clients:\n" ++ ClientTurn.text turns ++ "\n" ++
    installSummary machine entry selectors turns
  outcome := ClientTurn.outcome turns

def install (clients : List McpClient) (selectors : List String) (files : Files) :
    Report × Files :=
  if clients.isEmpty then
    (⟨installOpening machine entry ++
      "MCP clients: could not look for them - no home directory.\n" ++
      fallback machine entry,.failed⟩,files)
  else match select clients selectors with
    | .error message => (.of .usage message,files)
    | .ok clients =>
      let (turns,after) := Independence.runEach (installTurn entry) clients files
      (installReport machine entry selectors turns,after)

/-! ## uninstall -/

/-- The body of the loop of `uninstall`. It asks even where the status sees no entry: that
is also what a config that cannot be parsed comes to. -/
def uninstallTurn (client : McpClient) (files : Files) : ClientTurn × Files :=
  let status := client.checkExisting entry files
  if status = .clientNotFound then (⟨"",false,false,false⟩,files)
  else match client.uninstall entry files, status.hasEntry with
    | (.ok (),after), true => (⟨"  " ++ client.name ++ ": removed (" ++
        client.configPath.display ++ ")\n",true,true,false⟩,after)
    | (.ok (),after), false => (⟨"",true,false,false⟩,after)
    | (.error e,after), _ => (⟨"  " ++ client.name ++ ": could not be changed - " ++ e.text ++
        "\n",true,false,true⟩,after)

def uninstallSummary (turns : List ClientTurn) : String :=
  let removed := turns.countP ClientTurn.changed
  if removed = 0 ∧ ClientTurn.anyFailed turns = false then
    "Nothing to remove - no client had an entry for `" ++ entry.name ++ "`.\n"
  else "Removed from " ++ toString removed ++ " client(s).\n"

def uninstallReport (turns : List ClientTurn) : Report where
  text := "Removing `" ++ entry.name ++ "` from MCP clients:\n" ++ ClientTurn.text turns ++ "\n" ++
    uninstallSummary entry turns
  outcome := ClientTurn.outcome turns

def uninstall (clients : List McpClient) (selectors : List String) (files : Files) :
    Report × Files :=
  if clients.isEmpty then
    (.of .failed "MCP clients: could not look for them - no home directory.",files)
  else match select clients selectors with
    | .error message => (.of .usage message,files)
    | .ok clients =>
      let (turns,after) := Independence.runEach (uninstallTurn entry) clients files
      (uninstallReport entry turns,after)

end

end SmlMcps
