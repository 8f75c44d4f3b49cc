import SmlMcps.Library.IndexMap
import SmlMcps.ConfigFiles

/-! The client that keeps its servers in TOML. A document is its keys and values here: a table
is the same table whether it stands under a header, under dotted keys or inline. -/

inductive Toml where
  | string (value : String)
  | integer (value : Int)
  | float (text : String)
  | boolean (value : Bool)
  | datetime (text : String)
  | array (items : List Toml)
  | table (entries : List (String × Toml))
  /-- An array of tables, under headers of its own. -/
  | tables (items : List Toml)

abbrev TomlTable := List (String × Toml)

namespace Toml

def asTableLike : Toml → Option TomlTable
  | .table entries => some entries
  | _ => none

def asStr : Toml → Option String
  | .string value => some value
  | _ => none

def asArray : Toml → Option (List Toml)
  | .array items => some items
  | _ => none

end Toml

namespace SmlMcps

/-- The printer and the parser of TOML documents. -/
structure TomlText where
  print : TomlTable → String
  parse : String → Except String TomlTable

namespace CodexClient

/-- Top-level table holding the servers. -/
def serversTable : String := "mcp_servers"

/-- Key on a server entry that says whether its tools run without asking. -/
def approvalModeKey : String := "default_tools_approval_mode"

/-- The approval mode that means "do not ask". -/
def approvalModeAuto : String := "auto"

end CodexClient

structure CodexClient where
  /-- The client's configuration file. -/
  configPath : Path
  deriving DecidableEq, Repr

namespace CodexClient

def detect (client : CodexClient) (files : Files) : Bool :=
  files.pathExists client.configPath || client.configPath.parent.any files.pathExists

/-- The approval mode already written on an entry, if it has one. -/
def approvalModeOf (existing : Toml) : Option String :=
  (existing.asTableLike.bind (·.lookup approvalModeKey)).bind Toml.asStr

/-- What an entry about to be written should say about approval, if anything: asking for
auto-approval overwrites what the entry it replaces said, and not asking keeps it. -/
def wantedApprovalMode (entry : ServerEntry) (theirMode : Option String) : Option String :=
  if entry.autoApprove then some approvalModeAuto else theirMode

section
variable (text : TomlText) (currentExe : Option String) (client : CodexClient)
  (entry : ServerEntry)

/-- Parse the config file, treating "missing" and "empty" as "no settings". -/
def readConfig (files : Files) : Except InstallError TomlTable :=
  files.readParsed client.configPath [] text.parse

/-- The entry in a document, if it has one. -/
def existingEntry (document : TomlTable) : Option Toml :=
  ((document.lookup serversTable).bind Toml.asTableLike).bind (·.lookup entry.name)

/-- The variables pinned in an entry, as the table they are written as. -/
def buildEnv (env : List (String × String)) : TomlTable :=
  env.foldl (fun table pinned => IndexMap.insert pinned.1 (.string pinned.2) table) []

/-- The table an entry is written as, given the approval mode on the one it replaces. -/
def buildEntry (theirMode : Option String) : TomlTable :=
  let table := IndexMap.insert "command" (.string (entry.command currentExe)) []
  let table := IndexMap.insert "args" (.array (entry.arguments.map .string)) table
  let table := match wantedApprovalMode entry theirMode with
    | some mode => IndexMap.insert approvalModeKey (.string mode) table
    | none => table
  IndexMap.insert "env" (.table (buildEnv entry.env)) table

/-- Whether what is already in the file is exactly what would be written, field by field. -/
def matchesEntry (existing : Toml) : Bool :=
  match existing.asTableLike with
  | none => false
  | some table =>
    let commandMatches := (table.lookup "command").bind Toml.asStr == some (entry.command currentExe)
    -- An argument that is no string fails the comparison instead of being left out of it.
    let arguments := ((table.lookup "args").bind Toml.asArray).bind fun array => array.mapM Toml.asStr
    let argumentsMatch := arguments == some entry.arguments
    -- Against the map, for a table cannot hold a variable twice.
    let wanted := entry.envMap
    let environmentMatches := ((table.lookup "env").bind Toml.asTableLike).any fun environment =>
      environment.length == KeyedTable.size wanted && wanted.entries.all fun pinned =>
        (environment.lookup pinned.1).bind Toml.asStr == some pinned.2
    -- An entry that never asked for a mode has no opinion about one.
    let approvalMatches := !entry.autoApprove || approvalModeOf existing == some approvalModeAuto
    commandMatches && argumentsMatch && environmentMatches && approvalMatches

/-- The document with the entry in it; `none` where it is already exactly right. -/
def withEntry (document : TomlTable) : Except InstallError (Option TomlTable) :=
  if (existingEntry entry document).any (matchesEntry currentExe entry) then .ok none
  else
    let theirMode := (existingEntry entry document).bind approvalModeOf
    let document := if (document.lookup serversTable).isSome then document
      else IndexMap.insert serversTable (.table []) document
    match (document.lookup serversTable).bind Toml.asTableLike with
    | none => .error (.parse
        (client.configPath.display ++ ": `" ++ serversTable ++ "` is not a table"))
    | some servers =>
      let servers := IndexMap.insert entry.name (.table (buildEntry currentExe entry theirMode)) servers
      .ok (some (IndexMap.insert serversTable (.table servers) document))

/-- The document without the entry; `none` where there is none to remove. -/
def withoutEntry (document : TomlTable) : Option TomlTable := do
  let servers ← (document.lookup serversTable).bind Toml.asTableLike
  let _ ← servers.lookup entry.name
  return IndexMap.insert serversTable (.table (IndexMap.remove entry.name servers)) document

/-- The client as it reads and edits its config for one server. -/
def config : ConfigClient TomlTable Toml where
  path := client.configPath
  detect := client.detect
  read := client.readConfig text
  print := text.print
  existing := existingEntry entry
  commandOf existing := ((existing.asTableLike.bind (·.lookup "command")).bind Toml.asStr).getD ""
  command := entry.command currentExe
  matchesEntry := matchesEntry currentExe entry
  withEntry := client.withEntry currentExe entry
  withoutEntry := withoutEntry entry

def checkExisting (files : Files) : InstallStatus :=
  (client.config text currentExe entry).checkExisting files

def install (files : Files) : Except InstallError Unit × Files :=
  (client.config text currentExe entry).install files

def uninstall (files : Files) : Except InstallError Unit × Files :=
  (client.config text currentExe entry).uninstall files

end

/-! ## What is written matches -/

variable {text : TomlText} {currentExe : Option String} {client : CodexClient}
  {entry : ServerEntry} {document edited again : TomlTable}

theorem buildEntry_mode (theirMode : Option String) :
    approvalModeOf (.table (buildEntry currentExe entry theirMode)) =
      wantedApprovalMode entry theirMode := by
  cases wanted : wantedApprovalMode entry theirMode with
  | none =>
    simp [approvalModeOf,buildEntry,wanted,Toml.asTableLike,IndexMap.lookup_insert,approvalModeKey]
  | some mode =>
    simp [approvalModeOf,buildEntry,wanted,Toml.asTableLike,IndexMap.lookup_insert,approvalModeKey,
      Toml.asStr]

/-- The members every entry is written with. -/
theorem buildEntry_members (theirMode : Option String) :
    (buildEntry currentExe entry theirMode).lookup "command" =
        some (.string (entry.command currentExe)) ∧
      (buildEntry currentExe entry theirMode).lookup "args" =
        some (.array (entry.arguments.map .string)) ∧
      (buildEntry currentExe entry theirMode).lookup "env" = some (.table (buildEnv entry.env)) := by
  cases wanted : wantedApprovalMode entry theirMode with
  | none => simp [buildEntry,wanted,IndexMap.lookup_insert]
  | some mode => simp [buildEntry,wanted,IndexMap.lookup_insert,approvalModeKey]

theorem mapM_asStr (arguments : List String) :
    (arguments.map Toml.string).mapM Toml.asStr = some arguments := by
  induction arguments with
  | nil => rfl
  | cons argument rest ih => simp [ih,Toml.asStr]

/-- The environment is written as the map it is compared as. -/
theorem buildEnv_mirrors (entry : ServerEntry) :
    IndexMap.Mirrors Toml.string (buildEnv entry.env) entry.envMap :=
  (IndexMap.Mirrors.empty Toml.string).foldl entry.env

theorem buildEnv_pinned (entry : ServerEntry) :
    (entry.envMap.entries.all fun pinned =>
      ((buildEnv entry.env).lookup pinned.1).bind Toml.asStr == some pinned.2) = true := by
  rw [List.all_eq_true]
  intro pinned member
  have found : entry.envMap.lookup pinned.1 = some pinned.2 :=
    KeyedTable.lookup_eq_some_iff.mpr member
  rw [(buildEnv_mirrors entry).lookup,found,beq_iff_eq]
  rfl

/-- What is written is what is looked for, whatever the approval mode it replaces. -/
theorem matchesEntry_build (theirMode : Option String) :
    matchesEntry currentExe entry (.table (buildEntry currentExe entry theirMode)) = true := by
  obtain ⟨command,arguments,environment⟩ := @buildEntry_members currentExe entry theirMode
  have mode := @buildEntry_mode currentExe entry theirMode
  have approved : (!entry.autoApprove || approvalModeOf (.table
      (buildEntry currentExe entry theirMode)) == some approvalModeAuto) = true := by
    rw [mode,wantedApprovalMode]
    cases entry.autoApprove <;> simp
  have length := (buildEnv_mirrors entry).length
  have pinned := buildEnv_pinned entry
  simp only [matchesEntry,Toml.asTableLike,command,arguments,environment,Option.bind_some,
    Toml.asStr,Toml.asArray,mapM_asStr,approved,Option.any_some,length,beq_self_eq_true,
    Bool.and_true,Bool.true_and]
  exact pinned

/-- An entry that matches names the command, and the mode that is asked for. -/
theorem matchesEntry_command {existing : Toml}
    (current : matchesEntry currentExe entry existing = true) :
    (existing.asTableLike.bind (·.lookup "command")).bind Toml.asStr =
        some (entry.command currentExe) ∧
      (entry.autoApprove = true → approvalModeOf existing = some approvalModeAuto) := by
  cases table : existing.asTableLike with
  | none => simp [matchesEntry,table] at current
  | some entries =>
    simp only [matchesEntry,table,Bool.and_eq_true,beq_iff_eq] at current
    obtain ⟨⟨⟨command,-⟩,-⟩,approved⟩ := current
    refine ⟨command,fun asked => ?_⟩
    simpa [asked] using approved

/-! ## The edits -/

/-- What is under a name in the servers table. -/
def serverIn (document : TomlTable) (name : String) : Option Toml :=
  ((document.lookup serversTable).bind Toml.asTableLike).bind (·.lookup name)

/-- Documents that differ in one server's entry only, or in having a table for it. -/
structure SameBut (name : String) (before after : TomlTable) : Prop where
  keys : ∀ key, key ≠ serversTable → after.lookup key = before.lookup key
  servers : ∀ other, other ≠ name → serverIn after other = serverIn before other
  /-- What is in the place of the table stays there. -/
  table : ∀ value, before.lookup serversTable = some value → value.asTableLike = none →
    after.lookup serversTable = some value

/-- Documents that read the same; a table that is left empty may be left out. -/
structure Alike (document again : TomlTable) : Prop where
  keys : ∀ key, key ≠ serversTable → again.lookup key = document.lookup key
  servers : ∀ name, serverIn again name = serverIn document name

theorem SameBut.refl (name : String) (document : TomlTable) : SameBut name document document :=
  ⟨fun _ _ => rfl,fun _ _ => rfl,fun _ found _ => found⟩

/-- Another table of servers, with the same other entries. -/
theorem SameBut.edit {name : String} {servers : TomlTable}
    (same : ∀ other, other ≠ name → servers.lookup other = serverIn document other)
    (table : ∀ value, document.lookup serversTable = some value → value.asTableLike ≠ none)
    (alike : Alike (IndexMap.insert serversTable (.table servers) document) again) :
    SameBut name document again where
  keys key different := by
    rw [alike.keys key different,IndexMap.lookup_insert_ne different]
  servers other different := by
    rw [alike.servers,← same other different,serverIn,IndexMap.lookup_insert_self]
    rfl
  table value found none := absurd none (table value found)

/-- What installing writes, where there is something to do. -/
theorem withEntry_changed (changed : client.withEntry currentExe entry document = .ok (some edited)) :
    ∃ servers, edited = IndexMap.insert serversTable (.table (IndexMap.insert entry.name
          (.table (buildEntry currentExe entry
            ((existingEntry entry document).bind approvalModeOf))) servers)) document ∧
      (∀ other, servers.lookup other = serverIn document other) ∧
      ∀ value, document.lookup serversTable = some value → value.asTableLike ≠ none := by
  unfold withEntry at changed
  split at changed
  · cases changed
  · cases found : document.lookup serversTable with
    | none =>
      simp only [found,Option.isSome_none,Bool.false_eq_true,if_false,IndexMap.lookup_insert_self,
        Option.bind_some,Toml.asTableLike,Except.ok.injEq,Option.some.injEq,
        IndexMap.insert_insert] at changed
      exact ⟨[],changed.symm,fun other => by simp [serverIn,found],fun _ none => by cases none⟩
    | some value =>
      simp only [found,Option.isSome_some,if_true,Option.bind_some] at changed
      cases table : value.asTableLike with
      | none => simp [table] at changed
      | some servers =>
        simp only [table,Except.ok.injEq,Option.some.injEq] at changed
        refine ⟨servers,changed.symm,fun other => by simp [serverIn,found,table],?_⟩
        intro other here none
        cases here
        cases table.symm.trans none

theorem withEntry_idle : client.withEntry currentExe entry document = .ok none ↔
    ∃ existing, existingEntry entry document = some existing ∧
      matchesEntry currentExe entry existing = true := by
  rw [← Option.any_eq_true]
  unfold withEntry
  split
  · rename_i current
    simp [current]
  · rename_i stale
    simp only [stale]
    split <;> simp

/-- What was written has the entry, with the approval mode kept or asked for. -/
theorem withEntry_written (changed : client.withEntry currentExe entry document = .ok (some edited))
    (alike : Alike edited again) :
    existingEntry entry again = some (.table (buildEntry currentExe entry
      ((existingEntry entry document).bind approvalModeOf))) ∧ SameBut entry.name document again := by
  obtain ⟨servers,rfl,same,table⟩ := withEntry_changed changed
  constructor
  · change serverIn again entry.name = _
    rw [alike.servers,serverIn,IndexMap.lookup_insert_self]
    exact IndexMap.lookup_insert_self _ _ _
  · apply SameBut.edit _ table alike
    intro other different
    rw [IndexMap.lookup_insert_ne different,same]

theorem withoutEntry_absent :
    withoutEntry entry document = none ↔ existingEntry entry document = none := by
  unfold withoutEntry existingEntry
  cases (document.lookup serversTable).bind Toml.asTableLike with
  | none => simp
  | some servers =>
    cases found : servers.lookup entry.name with
    | none => simp [found]
    | some existing => simp [found]

theorem withoutEntry_removed (changed : withoutEntry entry document = some edited)
    (alike : Alike edited again) :
    existingEntry entry again = none ∧ SameBut entry.name document again := by
  unfold withoutEntry at changed
  cases found : document.lookup serversTable with
  | none => simp [found] at changed
  | some value =>
    cases table : value.asTableLike with
    | none => simp [found,table] at changed
    | some servers =>
      simp only [found,table,Option.bind_eq_bind,Option.bind_some,Option.bind_eq_some_iff,
        Option.pure_def,Option.some.injEq] at changed
      obtain ⟨-,-,rfl⟩ := changed
      constructor
      · change serverIn again entry.name = _
        rw [alike.servers,serverIn,IndexMap.lookup_insert_self]
        exact (IndexMap.lookup_remove _ _ _).trans (if_pos rfl)
      · apply SameBut.edit _ _ alike
        · intro other different
          rw [IndexMap.lookup_remove,if_neg different,serverIn,found,Option.bind_some,table]
          rfl
        · intro other here none
          cases found.symm.trans here
          cases table.symm.trans none

theorem lawful (text : TomlText) (currentExe : Option String) (client : CodexClient)
    (entry : ServerEntry) :
    (client.config text currentExe entry).Lawful Alike (SameBut entry.name) where
  command existing current := by simp [config,(matchesEntry_command current).1]
  idle document := withEntry_idle
  written document edited changed :=
    ⟨_,(withEntry_written changed ⟨fun _ _ => rfl,fun _ => rfl⟩).1,matchesEntry_build _⟩
  absent document := withoutEntry_absent
  removed document edited changed :=
    (withoutEntry_removed changed ⟨fun _ _ => rfl,fun _ => rfl⟩).1
  reread document again alike := alike.servers entry.name
  detected document files := by
    have present := files.pathExists_write client.configPath (text.print document)
    simp [config,detect,ConfigClient.writeConfig,present]
  unchanged := .refl _
  changed document edited again alike changed := by
    obtain changed | changed := changed
    · exact (withEntry_written changed alike).2
    · exact (withoutEntry_removed changed alike).2

/-! ## What is read back -/

/-- What is printed is parsed as something alike, and a blank text as the empty document. -/
structure Lossless (text : TomlText) (document : TomlTable) : Prop where
  reads : ∃ again, text.parse (text.print document) = .ok again ∧ Alike document again
  blank : (Http1.trim (text.print document).toList).isEmpty = true →
    text.parse (text.print document) = .ok []

theorem readsBack {files : Files} (lossless : Lossless text edited)
    (written : (client.config text currentExe entry).Writes files edited) :
    (client.config text currentExe entry).ReadsBack Alike files edited := by
  obtain ⟨before,read,-⟩ := written
  obtain ⟨again,parsed,alike⟩ := lossless.reads
  have blank : (Http1.trim (text.print edited).toList).isEmpty = true → again = [] :=
    fun blank => Except.ok.inj (parsed.symm.trans (lossless.blank blank))
  exact ⟨again,Files.readParsed_write read parsed blank,alike⟩

/-- What installing and uninstalling come to. -/
structure Settles (text : TomlText) (currentExe : Option String) (client : CodexClient)
    (entry : ServerEntry) (files : Files) : Prop where
  agrees : (client.config text currentExe entry).Agrees (SameBut entry.name) files
  /-- An install leaves an entry that matches. -/
  current : (client.install text currentExe entry files).1 = .ok () → ∃ after existing,
    client.readConfig text (client.install text currentExe entry files).2 = .ok after ∧
      existingEntry entry after = some existing ∧ matchesEntry currentExe entry existing = true
  /-- Its approval mode is the one asked for, or else the one that was there. -/
  mode : ∀ document after, client.readConfig text files = .ok document →
    (client.install text currentExe entry files).1 = .ok () →
    client.readConfig text (client.install text currentExe entry files).2 = .ok after →
      (existingEntry entry after).bind approvalModeOf =
        if entry.autoApprove then some approvalModeAuto
        else (existingEntry entry document).bind approvalModeOf

/-- Whatever is in the config file, an install leaves an entry that matches and keeps or sets
the approval mode, and status, installing and uninstalling agree. -/
theorem config_settles {files : Files} (detected : client.detect files = true)
    (lossless : ∀ edited, (client.config text currentExe entry).Writes files edited →
      Lossless text edited) : Settles text currentExe client entry files := by
  have lawful := lawful text currentExe client entry
  have readBack : ∀ edited, (client.config text currentExe entry).Writes files edited →
      (client.config text currentExe entry).ReadsBack Alike files edited :=
    fun edited written => readsBack (lossless edited written) written
  constructor
  case agrees => exact lawful.agrees detected readBack
  case current =>
    intro succeeded
    obtain ⟨-,-,after,existing,-,reread,found,current,-⟩ :=
      lawful.installed detected readBack succeeded
    exact ⟨after,existing,reread,found,current⟩
  case mode =>
    intro document after read succeeded reread
    obtain ⟨document',read',⟨idle,same⟩ | ⟨edited,changed,same⟩⟩ :=
      ConfigClient.install_ok succeeded
    all_goals obtain rfl : document = document' := Except.ok.inj (read.symm.trans read')
    · obtain rfl : document = after := by
        rw [install,same] at reread
        exact Except.ok.inj (read.symm.trans reread)
      obtain ⟨existing,found,current⟩ := withEntry_idle.mp idle
      rw [found,Option.bind_some]
      cases asked : entry.autoApprove with
      | false => rfl
      | true => exact (matchesEntry_command current).2 asked
    · obtain ⟨again,reread',alike⟩ := readBack edited ⟨document,read,.inl changed⟩
      rw [install,same] at reread
      obtain rfl : again = after := Except.ok.inj (reread'.symm.trans reread)
      rw [(withEntry_written changed alike).1,Option.bind_some,buildEntry_mode]
      rfl

/-! ### An entry of a moved binary -/

def codex : CodexClient := ⟨["home","u",".codex","config.toml"]⟩

def movedEntry : ServerEntry := (ServerEntry.new "my-mcp" ["serve"]).withEnv "HOME" "/srv"

def movedText : String :=
  "[mcp_servers.my-mcp]\ncommand = \"/old/my-mcp\"\nargs = [\"serve\"]\n" ++
    "default_tools_approval_mode = \"prompt\"\n"

def movedDocument : TomlTable := [("mcp_servers",.table [("my-mcp",.table [
  ("command",.string "/old/my-mcp"),("args",.array [.string "serve"]),
  ("default_tools_approval_mode",.string "prompt")])])]

def refreshedText : String :=
  "[mcp_servers.my-mcp]\ncommand = \"/bin/my-mcp\"\nargs = [\"serve\"]\n" ++
    "default_tools_approval_mode = \"prompt\"\n\n[mcp_servers.my-mcp.env]\nHOME = \"/srv\"\n"

def refreshedDocument : TomlTable := [("mcp_servers",.table [("my-mcp",.table [
  ("command",.string "/bin/my-mcp"),("args",.array [.string "serve"]),
  ("default_tools_approval_mode",.string "prompt"),
  ("env",.table [("HOME",.string "/srv")])])])]

/-- A table that is left empty has no header of its own, and is not printed. -/
def codexText : TomlText where
  print document := if (serverIn document "my-mcp").isSome then refreshedText else ""
  parse contents :=
    if contents = refreshedText then .ok refreshedDocument
    else if contents = movedText then .ok movedDocument
    else if contents = "" then .ok [] else .error "expected `=`"

theorem movedText_opening : movedText.toList.head? = some '[' := by
  delta movedText
  rw [String.toList_append,List.head?_append]
  rfl

theorem refreshedText_opening : refreshedText.toList.head? = some '[' := by
  delta refreshedText
  rw [String.toList_append,List.head?_append]
  rfl

def movedFiles : Files :=
  Files.writeAtomically ⟨fun _ => none,fun path => path = ["home","u",".codex"],0⟩ codex.configPath
    movedText

theorem movedFiles_read : codex.readConfig codexText movedFiles = .ok movedDocument := by
  have fresh : Files.readParsed ⟨fun _ => none,fun path => path = ["home","u",".codex"],0⟩
      codex.configPath [] codexText.parse = .ok [] := rfl
  have other : movedText ≠ refreshedText := by decide
  have parsed : codexText.parse movedText = .ok movedDocument := by
    simp only [codexText,other,if_false,if_true]
  have visible := Files.trim_visible movedText_opening (by decide)
  exact Files.readParsed_write fresh parsed fun blank => by simp [visible] at blank

theorem refreshed_lossless : Lossless codexText refreshedDocument := by
  have printed : codexText.print refreshedDocument = refreshedText := rfl
  have parsed : codexText.parse refreshedText = .ok refreshedDocument := by
    simp only [codexText,if_true]
  have visible := Files.trim_visible refreshedText_opening (by decide)
  constructor
  · rw [printed]
    exact ⟨refreshedDocument,parsed,⟨fun _ _ => rfl,fun _ => rfl⟩⟩
  · rw [printed]
    exact fun blank => by simp [visible] at blank

theorem emptied_lossless : Lossless codexText [("mcp_servers",.table [])] := by
  have printed : codexText.print [("mcp_servers",.table [])] = "" := rfl
  have refreshed : "" ≠ refreshedText := fun same => by
    have opening := refreshedText_opening
    rw [← same] at opening
    cases opening
  have moved : "" ≠ movedText := fun same => by
    have opening := movedText_opening
    rw [← same] at opening
    cases opening
  have parsed : codexText.parse "" = .ok [] := by
    simp only [codexText,refreshed,moved,if_false,if_true]
  constructor
  · rw [printed,parsed]
    refine ⟨[],rfl,fun key different => ?_,fun name => rfl⟩
    have other : (key == "mcp_servers") = false := beq_false_of_ne different
    rw [List.lookup_cons,other]
  · rw [printed]
    exact fun _ => parsed

theorem config_settles_moved :
    Settles codexText (some "/bin/my-mcp") codex movedEntry movedFiles := by
  apply config_settles
  · decide
  · rintro edited ⟨document,read,changed⟩
    obtain rfl : movedDocument = document := Except.ok.inj (movedFiles_read.symm.trans read)
    obtain changed | changed := changed
    · have written : codex.withEntry (some "/bin/my-mcp") movedEntry movedDocument =
        .ok (some refreshedDocument) := rfl
      obtain rfl : refreshedDocument = edited :=
        Option.some.inj (Except.ok.inj (written.symm.trans changed))
      exact refreshed_lossless
    · have written : withoutEntry movedEntry movedDocument = some [("mcp_servers",.table [])] := rfl
      obtain rfl : [("mcp_servers",.table [])] = edited :=
        Option.some.inj (written.symm.trans changed)
      exact emptied_lossless

end CodexClient
end SmlMcps
