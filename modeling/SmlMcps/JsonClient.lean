import SmlMcps.ConfigFiles
import SmlMcps.BridgeDownstream

/-! The clients that keep their server list in a JSON file: an object with a map of named
servers under one key, which is read, edited in one place, and written back whole. -/

/-- The member of an object; other values have none. -/
def Json.get (value : Json) (key : String) : Option Json :=
  value.asObject.bind (JsonMap.lookup key)

@[simp] theorem Json.get_obj (fields : JsonMap) (key : String) :
    (Json.obj fields).get key = JsonMap.lookup key fields := rfl

namespace SmlMcps

/-- A client that stores its server list in a JSON file. -/
structure JsonClient where
  name : String
  /-- The client's configuration file. -/
  configPath : Path
  /-- Top-level key holding the server map. -/
  serversKey : String
  /-- Path whose existence means the client is installed, in place of the parent directory. -/
  detectPath : Option Path
  deriving DecidableEq, Repr

namespace JsonClient

def new (name : String) (configPath : Path) (serversKey : String) : JsonClient :=
  ⟨name,configPath,serversKey,none⟩

def withDetectPath (client : JsonClient) (path : Path) : JsonClient :=
  { client with detectPath := some path }

def detect (client : JsonClient) (files : Files) : Bool :=
  match client.detectPath with
  | some path => files.pathExists path || files.pathExists client.configPath
  | none => files.pathExists client.configPath || client.configPath.parent.any files.pathExists

section
variable (text : JsonText) (currentExe : Option String) (client : JsonClient)
  (entry : ServerEntry)

/-- Parse the config file, treating "missing" and "empty" as "no settings". -/
def readConfig (files : Files) : Except InstallError Json :=
  files.readParsed client.configPath (.obj []) text.fromStr

/-- The entry in a config, if it has one. -/
def existingEntry (config : Json) : Option Json :=
  (config.get client.serversKey).bind (·.get entry.name)

/-- Whether what is already in the file is exactly what would be written. -/
def matchesEntry (existing : Json) : Bool := existing = entry.jsonEntry currentExe

/-- The config with the entry in it; `none` where it is already exactly right. -/
def withEntry (config : Json) : Except InstallError (Option Json) :=
  match config.asObject with
  | none => .error (.parse (client.configPath.display ++ ": the top level is not a JSON object"))
  | some object =>
    let object := if (JsonMap.lookup client.serversKey object).isSome then object
      else JsonMap.insert client.serversKey (.obj []) object
    match (JsonMap.lookup client.serversKey object).bind Json.asObject with
    | none => .error (.parse
        (client.configPath.display ++ ": `" ++ client.serversKey ++ "` is not a JSON object"))
    | some servers =>
      if (JsonMap.lookup entry.name servers).any (matchesEntry currentExe entry) then .ok none
      else
        let servers := JsonMap.insert entry.name (entry.jsonEntry currentExe) servers
        .ok (some (.obj (JsonMap.insert client.serversKey (.obj servers) object)))

/-- The config without the entry; `none` where there is none to remove. -/
def withoutEntry (config : Json) : Option Json := do
  let object ← config.asObject
  let servers ← (JsonMap.lookup client.serversKey object).bind Json.asObject
  let _ ← JsonMap.lookup entry.name servers
  return .obj (JsonMap.insert client.serversKey (.obj (JsonMap.remove entry.name servers)) object)

/-- The client as it reads and edits its config for one server. -/
def config : ConfigClient Json Json where
  path := client.configPath
  detect := client.detect
  read := client.readConfig text
  print config := text.print config ++ "\n"
  existing := client.existingEntry entry
  commandOf existing := ((existing.get "command").bind Json.asString).getD ""
  command := entry.command currentExe
  matchesEntry := matchesEntry currentExe entry
  withEntry := client.withEntry currentExe entry
  withoutEntry := client.withoutEntry entry

def checkExisting (files : Files) : InstallStatus :=
  (client.config text currentExe entry).checkExisting files

def install (files : Files) : Except InstallError Unit × Files :=
  (client.config text currentExe entry).install files

def uninstall (files : Files) : Except InstallError Unit × Files :=
  (client.config text currentExe entry).uninstall files

end

/-! ## The edits -/

variable {text : JsonText} {currentExe : Option String} {client : JsonClient}
  {entry : ServerEntry} {config edited : Json}

/-- Configs that differ in one server's entry only, or in having a map for it. -/
structure SameBut (serversKey name : String) (before after : Json) : Prop where
  keys : ∀ key, key ≠ serversKey → after.get key = before.get key
  servers : ∀ other, other ≠ name → (after.get serversKey).bind (·.get other) =
    (before.get serversKey).bind (·.get other)
  object : after.asObject.isSome = before.asObject.isSome
  map : after.get serversKey = before.get serversKey ∨
    (∃ fields, after.get serversKey = some (.obj fields)) ∧
      ∀ value, before.get serversKey = some value → value.asObject.isSome = true

theorem SameBut.refl (serversKey name : String) (config : Json) :
    SameBut serversKey name config config :=
  ⟨fun _ _ => rfl,fun _ _ => rfl,rfl,.inl rfl⟩

/-- Another map under the servers key, with the same other entries. -/
theorem SameBut.edit {serversKey name : String} {object servers : JsonMap}
    (same : ∀ other, other ≠ name → JsonMap.lookup other servers =
      ((JsonMap.lookup serversKey object).bind (·.get other)))
    (map : ∀ value, JsonMap.lookup serversKey object = some value → value.asObject.isSome = true) :
    SameBut serversKey name (.obj object) (.obj (JsonMap.insert serversKey (.obj servers) object)) where
  keys key different := by simp [different]
  servers other different := by simp [same other different]
  object := rfl
  map := .inr ⟨⟨servers,by simp⟩,map⟩

theorem jsonEntry_command (currentExe : Option String) (entry : ServerEntry) :
    (entry.jsonEntry currentExe).get "command" = some (.str (entry.command currentExe)) := by
  have distinct : ((entry.jsonMembers currentExe).map Prod.fst).Nodup :=
    (by decide : ["command","args","env"].Nodup)
  exact JsonMap.lookup_ofMembers distinct "command"

/-- What installing comes to, by what is under the servers key. -/
theorem withEntry_obj (object : JsonMap) : client.withEntry currentExe entry (.obj object) =
    match JsonMap.lookup client.serversKey object with
    | none => .ok (some (.obj (JsonMap.insert client.serversKey
        (.obj [(entry.name,entry.jsonEntry currentExe)])
        (JsonMap.insert client.serversKey (.obj []) object))))
    | some (.obj servers) =>
      if (JsonMap.lookup entry.name servers).any (matchesEntry currentExe entry) then .ok none
      else .ok (some (.obj (JsonMap.insert client.serversKey
        (.obj (JsonMap.insert entry.name (entry.jsonEntry currentExe) servers)) object)))
    | some _ => .error (.parse (client.configPath.display ++ ": `" ++ client.serversKey ++
        "` is not a JSON object")) := by
  simp only [withEntry,Json.asObject_obj]
  cases found : JsonMap.lookup client.serversKey object with
  | none => simp [JsonMap.insert]
  | some value => cases value <;> simp [found,Json.asObject]

theorem withoutEntry_obj (object : JsonMap) : client.withoutEntry entry (.obj object) =
    match JsonMap.lookup client.serversKey object with
    | some (.obj servers) => (JsonMap.lookup entry.name servers).map fun _ =>
        .obj (JsonMap.insert client.serversKey
          (.obj (JsonMap.remove entry.name servers)) object)
    | _ => none := by
  simp only [withoutEntry,Json.asObject_obj]
  cases found : JsonMap.lookup client.serversKey object with
  | none => simp [found]
  | some value =>
    cases value with
    | obj servers => cases here : JsonMap.lookup entry.name servers <;> simp [found,here]
    | _ => simp [found,Json.asObject]

theorem existingEntry_obj (object : JsonMap) : client.existingEntry entry (.obj object) =
    (JsonMap.lookup client.serversKey object).bind (·.get entry.name) := rfl

theorem withEntry_idle : client.withEntry currentExe entry config = .ok none ↔
    ∃ existing, client.existingEntry entry config = some existing ∧
      matchesEntry currentExe entry existing = true := by
  cases config with
  | obj object =>
    rw [withEntry_obj,existingEntry_obj]
    cases JsonMap.lookup client.serversKey object with
    | none => simp
    | some value =>
      cases value with
      | obj servers =>
        cases found : JsonMap.lookup entry.name servers with
        | none => simp [found]
        | some existing => simp [found]
      | _ => simp [Json.get,Json.asObject]
  | _ => simp [withEntry,existingEntry,Json.get,Json.asObject]

/-- What was written has the entry, and is as it was elsewhere. -/
theorem withEntry_written (changed : client.withEntry currentExe entry config = .ok (some edited)) :
    client.existingEntry entry edited = some (entry.jsonEntry currentExe) ∧
      SameBut client.serversKey entry.name config edited := by
  cases config with
  | obj object =>
    rw [withEntry_obj] at changed
    cases found : JsonMap.lookup client.serversKey object with
    | none =>
      simp only [found,Except.ok.injEq,Option.some.injEq] at changed
      subst changed
      refine ⟨by simp [existingEntry,JsonMap.lookup],?_,?_,rfl,?_⟩
      · intro key different
        simp [different]
      · intro other different
        simp [found,JsonMap.lookup,Ne.symm different]
      · exact .inr ⟨⟨[(entry.name,entry.jsonEntry currentExe)],by simp⟩,by simp [found]⟩
    | some value =>
      cases value with
      | obj servers =>
        simp only [found] at changed
        split at changed
        · cases changed
        · simp only [Except.ok.injEq,Option.some.injEq] at changed
          subst changed
          refine ⟨by simp [existingEntry],SameBut.edit ?_ ?_⟩
          · intro other different
            simp [found,different]
          · simp [found]
      | _ => simp [found] at changed
  | _ => simp [withEntry,Json.asObject] at changed

theorem withoutEntry_absent :
    client.withoutEntry entry config = none ↔ client.existingEntry entry config = none := by
  cases config with
  | obj object =>
    rw [withoutEntry_obj,existingEntry_obj]
    cases JsonMap.lookup client.serversKey object with
    | none => simp
    | some value =>
      cases value with
      | obj servers => simp
      | _ => simp [Json.get,Json.asObject]
  | _ => simp [withoutEntry,existingEntry,Json.get,Json.asObject]

theorem withoutEntry_removed (changed : client.withoutEntry entry config = some edited) :
    client.existingEntry entry edited = none ∧
      SameBut client.serversKey entry.name config edited := by
  cases config with
  | obj object =>
    rw [withoutEntry_obj] at changed
    cases found : JsonMap.lookup client.serversKey object with
    | none => simp [found] at changed
    | some value =>
      cases value with
      | obj servers =>
        simp only [found,Option.map_eq_some_iff] at changed
        obtain ⟨-,-,rfl⟩ := changed
        refine ⟨by simp [existingEntry],SameBut.edit ?_ ?_⟩
        · intro other different
          simp [found,different]
        · simp [found]
      | _ => simp [found] at changed
  | _ => simp [withoutEntry,Json.asObject] at changed

theorem detect_write (files : Files) (config : Json) :
    client.detect (files.writeAtomically client.configPath (text.print config ++ "\n")) = true := by
  have present := files.pathExists_write client.configPath (text.print config ++ "\n")
  cases place : client.detectPath with
  | none => simp [detect,place,present]
  | some path => simp [detect,place,present]

theorem lawful (text : JsonText) (currentExe : Option String) (client : JsonClient)
    (entry : ServerEntry) : (client.config text currentExe entry).Lawful Eq
      (SameBut client.serversKey entry.name) where
  command existing current := by
    obtain rfl : existing = entry.jsonEntry currentExe := of_decide_eq_true current
    simp [config,jsonEntry_command]
  idle config := withEntry_idle
  written config edited changed :=
    ⟨_,(withEntry_written changed).1,decide_eq_true rfl⟩
  absent config := withoutEntry_absent
  removed config edited changed := (withoutEntry_removed changed).1
  detected config files := detect_write files config
  reread config again same := same ▸ rfl
  unchanged := .refl _ _
  changed config edited again same changed := by
    subst same
    obtain changed | changed := changed
    · exact (withEntry_written changed).2
    · exact (withoutEntry_removed changed).2

/-! ## What is read back -/

/-- Every config that is written is an object. -/
theorem edited_obj (changed : client.withEntry currentExe entry config = .ok (some edited) ∨
    client.withoutEntry entry config = some edited) : ∃ fields, edited = .obj fields := by
  cases edited with
  | obj fields => exact ⟨fields,rfl⟩
  | _ =>
    obtain changed | changed := changed
    · have found := (withEntry_written changed).1
      simp [existingEntry,Json.get,Json.asObject] at found
    · have same := (withoutEntry_removed changed).2.object
      cases config with
      | obj object => simp [Json.asObject] at same
      | _ => simp [withoutEntry,Json.asObject] at changed

theorem readsBack {files : Files}
    (faithful : ∀ fields, (client.config text currentExe entry).Writes files (.obj fields) →
      text.FaithfulLine fields)
    (written : (client.config text currentExe entry).Writes files edited) :
    (client.config text currentExe entry).ReadsBack Eq files edited := by
  obtain ⟨before,read,changed⟩ := written
  obtain ⟨fields,rfl⟩ := edited_obj changed
  have faithful := faithful fields ⟨before,read,changed⟩
  have opening : (Http1.trim (text.print (.obj fields) ++ "\n").toList).isEmpty = false := by
    apply @Files.trim_visible _ '\x7b'
    · rw [String.toList_append,List.head?_append,faithful.opening]
      rfl
    · decide
  have visible : (Http1.trim (text.print (.obj fields) ++ "\n").toList).isEmpty = true →
      Json.obj fields = .obj [] := by
    rw [opening]
    exact fun blank => by cases blank
  exact ⟨.obj fields,Files.readParsed_write read faithful.lossless visible,rfl⟩

/-- Whatever is in the config file, status, installing and uninstalling agree on it, change
this server's entry only, and leave it alone when they fail. -/
theorem config_agrees {files : Files} (detected : client.detect files = true)
    (faithful : ∀ fields, (client.config text currentExe entry).Writes files (.obj fields) →
      text.FaithfulLine fields) :
    (client.config text currentExe entry).Agrees (SameBut client.serversKey entry.name) files :=
  (lawful text currentExe client entry).agrees detected fun _ written => readsBack faithful written

/-! ### A first install -/

def cursor : JsonClient := .new "Cursor" ["home","u",".cursor","mcp.json"] "mcpServers"

/-- A variable is pinned twice. -/
def pinnedTwice : ServerEntry :=
  ((ServerEntry.new "my-mcp" ["serve"]).withEnv "HOME" "/old").withEnv "HOME" "/new"

/-- The client's directory, without a config in it. -/
def freshFiles : Files where
  contents _ := none
  directory path := path = ["home","u",".cursor"]

def firstConfig : JsonMap := [("mcpServers",.obj [("my-mcp",.obj [
  ("args",.arr [.str "serve"]),("command",.str "/bin/my-mcp"),("env",.obj [("HOME",.str "/new")])])])]

def firstText : JsonText := .ofWholeLine (.obj firstConfig)
  ("\x7b\n  \"mcpServers\": \x7b\n    \"my-mcp\": \x7b\n      \"args\": [\n        \"serve\"\n" ++
    "      ],\n      \"command\": \"/bin/my-mcp\",\n      \"env\": \x7b\n" ++
    "        \"HOME\": \"/new\"\n      \x7d\n    \x7d\n  \x7d\n\x7d")

theorem firstText_faithful : firstText.FaithfulLine firstConfig where
  lossless := by simp only [firstText,JsonText.ofWholeLine,if_true]
  opening := by
    simp only [firstText,JsonText.ofWholeLine,if_true,String.toList_append,List.head?_append]
    rfl

theorem config_agrees_first :
    (cursor.config firstText (some "/bin/my-mcp") pinnedTwice).Agrees
      (SameBut "mcpServers" "my-mcp") freshFiles := by
  apply config_agrees
  · decide
  · rintro fields ⟨before,read,changed⟩
    obtain rfl : before = .obj [] := (Except.ok.inj read).symm
    obtain changed | changed := changed
    · have written : cursor.withEntry (some "/bin/my-mcp") pinnedTwice (.obj []) =
        .ok (some (.obj firstConfig)) := by decide
      obtain rfl : fields = firstConfig :=
        Json.obj.inj (Option.some.inj (Except.ok.inj (changed.symm.trans written)))
      exact firstText_faithful
    · cases changed

end JsonClient
end SmlMcps
