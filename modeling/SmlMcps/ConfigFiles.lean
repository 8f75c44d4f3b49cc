import SmlMcps.Library.KeyedTable
import SmlMcps.Http1Head
import SmlMcps.JsonRpcCodec
import Mathlib.Data.List.TakeWhile

/-! The configuration files of the clients, and what is written into them. Files are a plain
store here: a read gives what was written last, and a write succeeds. -/
namespace SmlMcps

/-! ## Paths -/

/-- The components of an absolute path. -/
abbrev Path := List String

namespace Path

def parent (path : Path) : Option Path := if path = [] then none else some path.dropLast

/-- `path` with `suffix` stuck on the end. -/
def appended (path : Path) (suffix : String) : Path :=
  path.dropLast ++ [path.getLast?.getD "" ++ suffix]

def backupPath (path : Path) : Path := appended path ".bak"

def display (path : Path) : String := "/" ++ "/".intercalate path

theorem appended_ne (path : Path) {suffix : String} (some : suffix ≠ "") :
    appended path suffix ≠ path := by
  intro same
  have last := congrArg List.getLast? same
  rw [appended,List.getLast?_concat] at last
  cases found : path.getLast? with
  | none =>
    rw [found] at last
    cases last
  | some name =>
    rw [found,Option.getD_some,Option.some.injEq] at last
    have length := congrArg String.length last
    rw [String.length_append] at length
    have empty : suffix.length = 0 := by omega
    exact some (String.length_eq_zero_iff.mp empty)

end Path

/-! ## What gets written -/

/-- What a server calls itself in a client's configuration. -/
structure ServerEntry where
  /-- The key the entry is stored under. -/
  name : String
  args : List String
  /-- The environment pinned in the entry, which may name a variable twice. -/
  env : List (String × String) := []
  autoApprove : Bool := false
  /-- A daemon on another machine to dial, as `host:port`. -/
  connect : Option String := none
  deriving DecidableEq, Repr

namespace ServerEntry

def new (name : String) (args : List String) : ServerEntry := { name, args }

def withEnv (entry : ServerEntry) (key value : String) : ServerEntry :=
  { entry with env := entry.env ++ [(key,value)] }

def withConnect (entry : ServerEntry) (addr : String) : ServerEntry :=
  { entry with connect := some addr }

def withAutoApprove (entry : ServerEntry) : ServerEntry := { entry with autoApprove := true }

/-- The path of the running binary; the name of the server where it is unknowable. -/
def command (currentExe : Option String) (entry : ServerEntry) : String :=
  currentExe.getD entry.name

def connectFlag : String := "--connect"

/-- The arguments, and behind them the flag and the address of a remote daemon. -/
def arguments (entry : ServerEntry) : List String :=
  entry.args ++ match entry.connect with
    | some addr => [connectFlag,addr]
    | none => []

/-- The environment as a map: the last value of a variable wins. -/
def envMap (entry : ServerEntry) : KeyedTable String String :=
  entry.env.foldl (fun map pinned => AList.insert pinned.1 pinned.2 map) ∅

def jsonMembers (currentExe : Option String) (entry : ServerEntry) :
    List (String × Option Json) :=
  let env := entry.env.foldl (fun fields pinned =>
    JsonMap.insert pinned.1 (.str pinned.2) fields) []
  [("command",some (.str (entry.command currentExe))),
    ("args",some (.arr (entry.arguments.map .str))),
    ("env",some (.obj env))]

/-- The entry as the object every JSON-configured client stores. -/
def jsonEntry (currentExe : Option String) (entry : ServerEntry) : Json :=
  .obj (JsonMap.ofMembers (entry.jsonMembers currentExe))

end ServerEntry

inductive InstallStatus where
  /-- The client is installed and has no entry for this server. -/
  | notInstalled
  /-- The client points at this binary, and the rest of the entry is current. -/
  | installed
  /-- The entry points at this binary, but other config is stale. -/
  | needsRefresh
  /-- The entry names a different binary. -/
  | needsUpdate (currentCommand : String)
  /-- The client does not appear to be installed. -/
  | clientNotFound
  deriving DecidableEq, Repr

namespace InstallStatus

def wantsInstall : InstallStatus → Bool
  | .notInstalled | .needsRefresh | .needsUpdate _ => true
  | _ => false

def hasEntry : InstallStatus → Bool
  | .installed | .needsRefresh | .needsUpdate _ => true
  | _ => false

end InstallStatus

inductive InstallError where
  | io (source : String)
  | parse (detail : String)
  | serialize (detail : String)
  deriving DecidableEq, Repr

def InstallError.text : InstallError → String
  | .io source => source
  | .parse detail => detail ++ " - it was left untouched. Fix or move it and try again, or " ++
    "add the entry by hand."
  | .serialize detail => "could not serialize the config: " ++ detail

/-! ## Files -/

/-- The files and directories there are, and how many times a config was written. -/
structure Files where
  contents : Path → Option ByteArray
  directory : Path → Bool
  writes : Nat := 0

namespace Files

def pathExists (files : Files) (path : Path) : Bool :=
  (files.contents path).isSome || files.directory path

/-- Read a whole text; `none` where there is no file. -/
def readToString (files : Files) (path : Path) : Except InstallError (Option String) :=
  if files.directory path then .error (.io "Is a directory (os error 21)")
  else match files.contents path with
    | none => .ok none
    | some bytes =>
      match String.fromUTF8? bytes with
      | some contents => .ok (some contents)
      | none => .error (.io "stream did not contain valid UTF-8")

/-- Read a config file, treating "missing" and "empty" as "no settings". -/
def readConfigText (files : Files) (path : Path) : Except InstallError (Option String) := do
  match ← files.readToString path with
  | none => return none
  | some contents =>
    if (Http1.trim contents.toList).isEmpty then return none else return some contents

/-- Write `contents` to `path`, keeping a copy of what was there before, and making the
directories above it. -/
def writeAtomically (files : Files) (path : Path) (contents : String) : Files where
  contents := fun other =>
    if other = path then some contents.toUTF8
    else if other = path.backupPath ∧ (files.contents path).isSome then files.contents path
    else files.contents other
  directory := fun other => files.directory other || (other.isPrefixOf path && other != path)
  writes := files.writes + 1

/-- Parse a config file; `empty` is a config without settings. -/
def readParsed {D : Type} (files : Files) (path : Path) (empty : D)
    (parse : String → Except String D) : Except InstallError D := do
  match ← files.readConfigText path with
  | none => return empty
  | some contents =>
    match parse contents with
    | .ok config => return config
    | .error source => throw (.parse (path.display ++ ": " ++ source))

/-- What was written is what is read, wherever something could be read before. -/
theorem readConfigText_write {files : Files} {path : Path} {before : Option String}
    (readable : files.readConfigText path = .ok before) (contents : String) :
    (files.writeAtomically path contents).readConfigText path =
      .ok (if (Http1.trim contents.toList).isEmpty then none else some contents) := by
  have file : files.directory path = false := by
    cases place : files.directory path with
    | false => rfl
    | true =>
      rw [readConfigText,readToString,if_pos place] at readable
      cases readable
  have file' : (files.writeAtomically path contents).directory path = false := by
    simp [writeAtomically,file]
  have written : (files.writeAtomically path contents).contents path = some contents.toUTF8 :=
    if_pos rfl
  have decoded : String.fromUTF8? contents.toUTF8 = some contents := dif_pos contents.isValidUTF8
  rw [readConfigText,readToString,if_neg (by simp [file']),written]
  simp only [decoded,bind,Except.bind]
  split <;> rfl

/-- A text that opens visibly is not blank. -/
theorem trim_visible {contents : List Char} {c : Char} (opening : contents.head? = some c)
    (visible : JsonRpcMessage.isWhitespace c = false) : (Http1.trim contents).isEmpty = false := by
  obtain ⟨rest,rfl⟩ := List.head?_eq_some_iff.mp opening
  have kept : (c :: rest).dropWhile JsonRpcMessage.isWhitespace = c :: rest :=
    List.dropWhile_cons_of_neg (by simp [visible])
  rw [List.isEmpty_eq_false_iff,Http1.trim,kept]
  intro blank
  have all := List.dropWhile_eq_nil_iff.mp (List.reverse_eq_nil_iff.mp blank)
  have white := all c (by simp)
  rw [visible] at white
  cases white

/-- A blank text is read as no settings, and another one is parsed. -/
theorem readParsed_write {D : Type} {files : Files} {path : Path} {empty before : D}
    {parse : String → Except String D} (read : files.readParsed path empty parse = .ok before)
    {contents : String} {config : D} (parsed : parse contents = .ok config)
    (blank : (Http1.trim contents.toList).isEmpty = true → config = empty) :
    (files.writeAtomically path contents).readParsed path empty parse = .ok config := by
  cases readable : files.readConfigText path with
  | error e =>
    simp only [readParsed,readable,bind,Except.bind] at read
    cases read
  | ok text =>
    rw [readParsed,readConfigText_write readable contents]
    cases none : (Http1.trim contents.toList).isEmpty with
    | true =>
      rw [blank none]
      rfl
    | false =>
      simp only [bind,Except.bind,Bool.false_eq_true,if_false,parsed]
      rfl

theorem write_ne (files : Files) (path : Path) (contents : String) :
    files.writeAtomically path contents ≠ files := by
  intro same
  have writes := congrArg Files.writes same
  simp [writeAtomically] at writes

theorem pathExists_write (files : Files) (path : Path) (contents : String) :
    (files.writeAtomically path contents).pathExists path = true := by
  simp [pathExists,writeAtomically]

end Files

/-! ## Clients -/

/-- What the clients have in common: where their config is and how it is read, and what is
asked of it and done to it for one server. -/
structure ConfigClient (D E : Type) where
  path : Path
  detect : Files → Bool
  read : Files → Except InstallError D
  print : D → String
  /-- The server's entry in a config, if it has one. -/
  existing : D → Option E
  /-- The command an entry names, or nothing. -/
  commandOf : E → String
  /-- The command the entry should name. -/
  command : String
  /-- Whether an entry is exactly what would be written. -/
  matchesEntry : E → Bool
  /-- The config with the entry written; `none` where there is nothing to do. -/
  withEntry : D → Except InstallError (Option D)
  /-- The config with the entry removed; `none` where there is none. -/
  withoutEntry : D → Option D

namespace ConfigClient

variable {D E : Type}

/-- What the config currently says about the entry. -/
def checkExisting (client : ConfigClient D E) (files : Files) : InstallStatus :=
  if client.detect files = false then .clientNotFound
  else match client.read files with
    -- A config that cannot be parsed has no entry that can be seen.
    | .error _ => .notInstalled
    | .ok config =>
      match client.existing config with
      | none => .notInstalled
      | some existing =>
        if client.commandOf existing ≠ client.command then
          .needsUpdate (client.commandOf existing)
        else if client.matchesEntry existing then .installed
        else .needsRefresh

def writeConfig (client : ConfigClient D E) (config : D) (files : Files) : Files :=
  files.writeAtomically client.path (client.print config)

def install (client : ConfigClient D E) (files : Files) : Except InstallError Unit × Files :=
  match client.read files with
  | .error e => (.error e,files)
  | .ok config =>
    match client.withEntry config with
    | .error e => (.error e,files)
    | .ok none => (.ok (),files)
    | .ok (some edited) => (.ok (),client.writeConfig edited files)

def uninstall (client : ConfigClient D E) (files : Files) : Except InstallError Unit × Files :=
  match client.read files with
  | .error e => (.error e,files)
  | .ok config =>
    match client.withoutEntry config with
    | none => (.ok (),files)
    | some edited => (.ok (),client.writeConfig edited files)

/-- The four readings of one config agree: what is current is what `install` leaves alone and
what it writes, and what `uninstall` leaves has no entry. `alike` are configs that read the
same, and `sameBut` those that differ in the entry only. -/
structure Lawful (client : ConfigClient D E) (alike sameBut : D → D → Prop) : Prop where
  command : ∀ existing, client.matchesEntry existing = true →
    client.commandOf existing = client.command
  idle : ∀ config, client.withEntry config = .ok none ↔
    ∃ existing, client.existing config = some existing ∧ client.matchesEntry existing = true
  written : ∀ config edited, client.withEntry config = .ok (some edited) →
    ∃ existing, client.existing edited = some existing ∧ client.matchesEntry existing = true
  absent : ∀ config, client.withoutEntry config = none ↔ client.existing config = none
  removed : ∀ config edited, client.withoutEntry config = some edited →
    client.existing edited = none
  reread : ∀ config again, alike config again → client.existing again = client.existing config
  detected : ∀ config files, client.detect (client.writeConfig config files) = true
  unchanged : ∀ config, sameBut config config
  changed : ∀ config edited again, alike edited again →
    (client.withEntry config = .ok (some edited) ∨ client.withoutEntry config = some edited) →
    sameBut config again

def Writes (client : ConfigClient D E) (files : Files) (edited : D) : Prop :=
  ∃ config, client.read files = .ok config ∧
    (client.withEntry config = .ok (some edited) ∨ client.withoutEntry config = some edited)

/-- What is written is read back, as something alike. -/
def ReadsBack (client : ConfigClient D E) (alike : D → D → Prop) (files : Files) (edited : D) :
    Prop :=
  ∃ again, client.read (client.writeConfig edited files) = .ok again ∧ alike edited again

/-- What status, installing and uninstalling come to. -/
structure Agrees (client : ConfigClient D E) (sameBut : D → D → Prop) (files : Files) :
    Prop where
  /-- The status wants install exactly when `install` would write or fail. -/
  wants : (client.checkExisting files).wantsInstall = true ↔
    client.install files ≠ (.ok (),files)
  /-- After installing, the status is current and there is nothing left to do. -/
  installed : (client.install files).1 = .ok () →
    client.checkExisting (client.install files).2 = .installed ∧
      client.install (client.install files).2 = (.ok (),(client.install files).2)
  /-- There is an entry exactly when `uninstall` would write. -/
  entry : (client.checkExisting files).hasEntry = true ↔
    (client.uninstall files).1 = .ok () ∧ (client.uninstall files).2 ≠ files
  /-- After uninstalling, there is no entry and nothing left to do. -/
  uninstalled : (client.uninstall files).1 = .ok () →
    client.checkExisting (client.uninstall files).2 = .notInstalled ∧
      client.uninstall (client.uninstall files).2 = (.ok (),(client.uninstall files).2)
  /-- Nothing but the entry changes. -/
  others : ∀ config, client.read files = .ok config →
    ((client.install files).1 = .ok () →
      ∃ after, client.read (client.install files).2 = .ok after ∧ sameBut config after) ∧
    ((client.uninstall files).1 = .ok () →
      ∃ after, client.read (client.uninstall files).2 = .ok after ∧ sameBut config after)
  /-- An error leaves every file as it was. -/
  errors : (∀ e, (client.install files).1 = .error e → (client.install files).2 = files) ∧
    ∀ e, (client.uninstall files).1 = .error e → (client.uninstall files).2 = files

variable {client : ConfigClient D E} {files : Files}

/-! ### One call -/

theorem checkExisting_installed (detected : client.detect files = true) {config : D} {existing : E}
    (read : client.read files = .ok config) (found : client.existing config = some existing)
    (command : client.commandOf existing = client.command)
    (current : client.matchesEntry existing = true) :
    client.checkExisting files = .installed := by
  simp [checkExisting,detected,read,found,command,current]

theorem checkExisting_absent (detected : client.detect files = true) {config : D}
    (read : client.read files = .ok config) (absent : client.existing config = none) :
    client.checkExisting files = .notInstalled := by
  simp [checkExisting,detected,read,absent]

theorem install_error {e : InstallError} (failed : (client.install files).1 = .error e) :
    (client.install files).2 = files := by
  revert failed
  unfold install
  split
  · exact fun _ => rfl
  · split
    · exact fun _ => rfl
    · exact fun _ => rfl
    · intro failed
      cases failed

theorem uninstall_error {e : InstallError} (failed : (client.uninstall files).1 = .error e) :
    (client.uninstall files).2 = files := by
  revert failed
  unfold uninstall
  split
  · exact fun _ => rfl
  · split
    · exact fun _ => rfl
    · intro failed
      cases failed

theorem install_idle_iff : client.install files = (.ok (),files) ↔
    ∃ config, client.read files = .ok config ∧ client.withEntry config = .ok none := by
  unfold install
  cases client.read files with
  | error e => simp
  | ok config =>
    cases edited : client.withEntry config with
    | error e => simp [edited]
    | ok changed =>
      cases changed with
      | none => simp [edited]
      | some changed => simpa [edited,writeConfig] using files.write_ne client.path _

theorem uninstall_idle_iff : client.uninstall files = (.ok (),files) ↔
    ∃ config, client.read files = .ok config ∧ client.withoutEntry config = none := by
  unfold uninstall
  cases client.read files with
  | error e => simp
  | ok config =>
    cases edited : client.withoutEntry config with
    | none => simp [edited]
    | some changed => simpa [edited,writeConfig] using files.write_ne client.path _

/-- A successful install either had nothing to do or wrote what it changed. -/
theorem install_ok (succeeded : (client.install files).1 = .ok ()) :
    ∃ config, client.read files = .ok config ∧
      (client.withEntry config = .ok none ∧ (client.install files).2 = files ∨
        ∃ edited, client.withEntry config = .ok (some edited) ∧
          (client.install files).2 = client.writeConfig edited files) := by
  revert succeeded
  unfold install
  cases client.read files with
  | error e =>
    intro failed
    cases failed
  | ok config =>
    intro succeeded
    refine ⟨config,rfl,?_⟩
    cases edited : client.withEntry config with
    | error e =>
      simp only [edited] at succeeded
      cases succeeded
    | ok changed =>
      cases changed with
      | none => exact .inl ⟨rfl,by simp only [edited]⟩
      | some changed => exact .inr ⟨changed,rfl,by simp only [edited]⟩

theorem uninstall_ok (succeeded : (client.uninstall files).1 = .ok ()) :
    ∃ config, client.read files = .ok config ∧
      (client.withoutEntry config = none ∧ (client.uninstall files).2 = files ∨
        ∃ edited, client.withoutEntry config = some edited ∧
          (client.uninstall files).2 = client.writeConfig edited files) := by
  revert succeeded
  unfold uninstall
  cases client.read files with
  | error e =>
    intro failed
    cases failed
  | ok config =>
    intro succeeded
    refine ⟨config,rfl,?_⟩
    cases edited : client.withoutEntry config with
    | none => exact .inl ⟨rfl,by simp only [edited]⟩
    | some changed => exact .inr ⟨changed,rfl,by simp only [edited]⟩

/-! ### The calls together -/

namespace Lawful

variable {alike sameBut : D → D → Prop}

theorem checkExisting_eq (lawful : client.Lawful alike sameBut)
    (detected : client.detect files = true) {config : D} (read : client.read files = .ok config) :
    client.checkExisting files =
      match client.existing config with
      | none => .notInstalled
      | some existing =>
        if client.matchesEntry existing = true then .installed
        else if client.commandOf existing = client.command then .needsRefresh
        else .needsUpdate (client.commandOf existing) := by
  unfold checkExisting
  rw [if_neg (by simp [detected]),read]
  simp only
  cases found : client.existing config with
  | none => simp only
  | some existing =>
    simp only
    by_cases current : client.matchesEntry existing = true
    · rw [if_neg (not_not.mpr (lawful.command existing current)),if_pos current,if_pos current]
    · by_cases command : client.commandOf existing = client.command
      · rw [if_neg (not_not.mpr command),if_neg current,if_neg current,if_pos command]
      · rw [if_pos command,if_neg current,if_neg command]

theorem wants_iff (lawful : client.Lawful alike sameBut) (detected : client.detect files = true) :
    (client.checkExisting files).wantsInstall = true ↔ client.install files ≠ (.ok (),files) := by
  rw [ne_eq,install_idle_iff]
  cases read : client.read files with
  | error e => simp [checkExisting,detected,read,InstallStatus.wantsInstall]
  | ok config =>
    have status := lawful.checkExisting_eq detected read
    simp only [Except.ok.injEq,exists_eq_left',lawful.idle]
    rw [status]
    cases client.existing config with
    | none => simp [InstallStatus.wantsInstall]
    | some existing =>
      by_cases current : client.matchesEntry existing = true
      · simp [current,InstallStatus.wantsInstall]
      · by_cases command : client.commandOf existing = client.command
        · simp [current,command,InstallStatus.wantsInstall]
        · simp [current,command,InstallStatus.wantsInstall]

theorem entry_iff (lawful : client.Lawful alike sameBut) (detected : client.detect files = true) :
    (client.checkExisting files).hasEntry = true ↔
      (client.uninstall files).1 = .ok () ∧ (client.uninstall files).2 ≠ files := by
  cases read : client.read files with
  | error e => simp [checkExisting,detected,read,InstallStatus.hasEntry,uninstall]
  | ok config =>
    have status := lawful.checkExisting_eq detected read
    have succeeded : (client.uninstall files).1 = .ok () := by
      unfold uninstall
      rw [read]
      cases edited : client.withoutEntry config <;> simp only [edited]
    have idle : (client.uninstall files).2 = files ↔ client.existing config = none := by
      rw [← lawful.absent]
      have idle := @uninstall_idle_iff D E client files
      simpa [Prod.ext_iff,succeeded,read] using idle
    rw [status,ne_eq,idle]
    simp only [succeeded,true_and]
    cases client.existing config with
    | none => simp [InstallStatus.hasEntry]
    | some existing =>
      by_cases current : client.matchesEntry existing = true
      · simp [current,InstallStatus.hasEntry]
      · by_cases command : client.commandOf existing = client.command
        · simp [current,command,InstallStatus.hasEntry]
        · simp [current,command,InstallStatus.hasEntry]

/-- After a successful install the config is detected, and has a current entry. -/
theorem installed (lawful : client.Lawful alike sameBut) (detected : client.detect files = true)
    (readBack : ∀ edited, client.Writes files edited → client.ReadsBack alike files edited)
    (succeeded : (client.install files).1 = .ok ()) :
    client.detect (client.install files).2 = true ∧ ∃ config after existing,
      client.read files = .ok config ∧ client.read (client.install files).2 = .ok after ∧
      client.existing after = some existing ∧ client.matchesEntry existing = true ∧
      sameBut config after := by
  obtain ⟨config,read,⟨idle,same⟩ | ⟨edited,changed,same⟩⟩ := install_ok succeeded
  · obtain ⟨existing,found,current⟩ := (lawful.idle config).mp idle
    rw [same]
    exact ⟨detected,config,config,existing,read,read,found,current,lawful.unchanged config⟩
  · obtain ⟨existing,found,current⟩ := lawful.written config edited changed
    obtain ⟨again,reread,alike⟩ := readBack edited ⟨config,read,.inl changed⟩
    rw [same]
    exact ⟨lawful.detected edited files,config,again,existing,read,reread,
      (lawful.reread edited again alike).trans found,current,
      lawful.changed config edited again alike (.inl changed)⟩

/-- After a successful uninstall the config is detected, and has no entry. -/
theorem uninstalled (lawful : client.Lawful alike sameBut) (detected : client.detect files = true)
    (readBack : ∀ edited, client.Writes files edited → client.ReadsBack alike files edited)
    (succeeded : (client.uninstall files).1 = .ok ()) :
    client.detect (client.uninstall files).2 = true ∧ ∃ config after,
      client.read files = .ok config ∧ client.read (client.uninstall files).2 = .ok after ∧
      client.existing after = none ∧ sameBut config after := by
  obtain ⟨config,read,⟨idle,same⟩ | ⟨edited,changed,same⟩⟩ := uninstall_ok succeeded
  · rw [same]
    exact ⟨detected,config,config,read,read,(lawful.absent config).mp idle,lawful.unchanged config⟩
  · obtain ⟨again,reread,alike⟩ := readBack edited ⟨config,read,.inr changed⟩
    rw [same]
    exact ⟨lawful.detected edited files,config,again,read,reread,
      (lawful.reread edited again alike).trans (lawful.removed config edited changed),
      lawful.changed config edited again alike (.inr changed)⟩

/-- A lawful client that reads back what it writes agrees on its config. -/
theorem agrees (lawful : client.Lawful alike sameBut) (detected : client.detect files = true)
    (readBack : ∀ edited, client.Writes files edited → client.ReadsBack alike files edited) :
    client.Agrees sameBut files := by
  constructor
  case wants => exact lawful.wants_iff detected
  case entry => exact lawful.entry_iff detected
  case errors => exact ⟨fun e failed => install_error failed,fun e failed => uninstall_error failed⟩
  case installed =>
    intro succeeded
    obtain ⟨seen,config,after,existing,-,read,found,current,-⟩ :=
      lawful.installed detected readBack succeeded
    refine ⟨checkExisting_installed seen read found (lawful.command existing current) current,?_⟩
    apply install_idle_iff.mpr
    exact ⟨after,read,(lawful.idle after).mpr ⟨existing,found,current⟩⟩
  case uninstalled =>
    intro succeeded
    obtain ⟨seen,config,after,-,read,absent,-⟩ := lawful.uninstalled detected readBack succeeded
    refine ⟨checkExisting_absent seen read absent,?_⟩
    apply uninstall_idle_iff.mpr
    exact ⟨after,read,(lawful.absent after).mpr absent⟩
  case others =>
    intro config read
    constructor
    · intro succeeded
      obtain ⟨-,config',after,existing,read',reread,-,-,same⟩ :=
        lawful.installed detected readBack succeeded
      obtain rfl : config = config' := Except.ok.inj (read.symm.trans read')
      exact ⟨after,reread,same⟩
    · intro succeeded
      obtain ⟨-,config',after,read',reread,-,same⟩ :=
        lawful.uninstalled detected readBack succeeded
      obtain rfl : config = config' := Except.ok.inj (read.symm.trans read')
      exact ⟨after,reread,same⟩

end Lawful

end ConfigClient

end SmlMcps
