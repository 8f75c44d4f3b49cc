import SmlMcps.InstallCommands

/-! The clients do not see one another. Each looks at a few places of its own and writes to
its config and the copy beside it; no two of the known clients share a place. So a command
over all of them does to each what it would do to that one alone. -/
namespace SmlMcps

/-! ## Places -/

namespace Files

/-- The two are alike at these places. -/
def Same (looks : List Path) (first second : Files) : Prop :=
  ∀ path ∈ looks, first.contents path = second.contents path ∧
    first.directory path = second.directory path

variable {looks : List Path} {first second third : Files} {path : Path}

theorem Same.refl (looks : List Path) (files : Files) : Same looks files files :=
  fun _ _ => ⟨rfl,rfl⟩

theorem Same.trans (one : Same looks first second) (two : Same looks second third) :
    Same looks first third := by
  intro path member
  exact ⟨(one path member).1.trans (two path member).1,(one path member).2.trans (two path member).2⟩

theorem Same.pathExists (same : Same looks first second) (member : path ∈ looks) :
    first.pathExists path = second.pathExists path := by
  rw [Files.pathExists,Files.pathExists,(same path member).1,(same path member).2]

theorem Same.readParsed {D : Type} (same : Same looks first second) (member : path ∈ looks)
    (empty : D) (parse : String → Except String D) :
    first.readParsed path empty parse = second.readParsed path empty parse := by
  simp only [Files.readParsed,Files.readConfigText,Files.readToString,(same path member).1,
    (same path member).2]

/-- A config is written where it is planned to be, and otherwise left alone. -/
def perform (path : Path) (plan : Except InstallError (Option String)) (files : Files) :
    Except InstallError Unit × Files :=
  match plan with
  | .error e => (.error e,files)
  | .ok none => (.ok (),files)
  | .ok (some contents) => (.ok (),files.writeAtomically path contents)

theorem perform_elsewhere (plan : Except InstallError (Option String)) (files : Files)
    {other : Path} (config : other ≠ path) (backup : other ≠ path.backupPath) :
    (files.perform path plan).2.contents other = files.contents other := by
  rcases plan with e | _ | contents
  · rfl
  · rfl
  · simp [perform,writeAtomically,config,backup]

/-- The same write in alike surroundings leaves them alike. -/
theorem Same.perform (same : Same looks first second) (own : path ∈ looks)
    (plan : Except InstallError (Option String)) :
    Same looks (first.perform path plan).2 (second.perform path plan).2 := by
  rcases plan with e | _ | contents
  · exact same
  · exact same
  · intro other member
    simp only [Files.perform,writeAtomically,(same path own).1,(same other member).1,
      (same other member).2,and_self]

/-- Nothing that is looked at is the copy of a config, or the config or a directory above. -/
def Away (path : Path) (looks : List Path) : Prop :=
  path.backupPath ∉ looks ∧ ∀ other ∈ looks, other.isPrefixOf path = false

instance (path : Path) (looks : List Path) : Decidable (Away path looks) :=
  inferInstanceAs (Decidable (_ ∧ _))

theorem Away.same (away : Away path looks) (plan : Except InstallError (Option String))
    (files : Files) : Same looks (files.perform path plan).2 files := by
  intro other member
  have notAbove := away.2 other member
  have notBackup : other ≠ path.backupPath := fun same => away.1 (same ▸ member)
  have notConfig : other ≠ path := by
    rintro rfl
    have above : other.isPrefixOf other = true :=
      List.isPrefixOf_iff_prefix.mpr (List.prefix_refl other)
    rw [above] at notAbove
    cases notAbove
  refine ⟨perform_elsewhere plan files notConfig notBackup,?_⟩
  rcases plan with e | _ | contents
  · rfl
  · rfl
  · simp [perform,writeAtomically,notAbove]

end Files

/-! ## What a client sees and does -/

/-- What is done at a path is decided by what is seen at these places. -/
def Planned (looks : List Path) (path : Path)
    (operation : Files → Except InstallError Unit × Files) : Prop :=
  ∃ plan : Files → Except InstallError (Option String),
    (∀ first second, Files.Same looks first second → plan first = plan second) ∧
    ∀ files, operation files = files.perform path (plan files)

/-- The client looks at these places only, one of which is its config. -/
structure McpClient.Confined (client : McpClient) (entry : ServerEntry) (looks : List Path) :
    Prop where
  config : client.configPath ∈ looks
  backup : client.configPath.backupPath ∈ looks
  status : ∀ first second, Files.Same looks first second →
    client.checkExisting entry first = client.checkExisting entry second
  installs : Planned looks client.configPath (client.install entry)
  uninstalls : Planned looks client.configPath (client.uninstall entry)

namespace ConfigClient

variable {D E : Type} {client : ConfigClient D E} {looks : List Path}

/-- What an install is going to write. -/
def installPlan (client : ConfigClient D E) (files : Files) :
    Except InstallError (Option String) := do
  let config ← client.read files
  let edited ← client.withEntry config
  return edited.map client.print

/-- What an uninstall is going to write. -/
def uninstallPlan (client : ConfigClient D E) (files : Files) :
    Except InstallError (Option String) := do
  let config ← client.read files
  return (client.withoutEntry config).map client.print

theorem install_eq (client : ConfigClient D E) (files : Files) :
    client.install files = files.perform client.path (client.installPlan files) := by
  simp only [install,installPlan,bind,Except.bind]
  cases client.read files with
  | error e => rfl
  | ok config =>
    simp only
    rcases client.withEntry config with e | _ | edited <;> rfl

theorem uninstall_eq (client : ConfigClient D E) (files : Files) :
    client.uninstall files = files.perform client.path (client.uninstallPlan files) := by
  simp only [uninstall,uninstallPlan,bind,Except.bind]
  cases client.read files with
  | error e => rfl
  | ok config =>
    simp only
    cases client.withoutEntry config <;> rfl

/-- What detection and reading do not see, nothing about the client sees. -/
theorem confined
    (detect : ∀ first second, Files.Same looks first second →
      client.detect first = client.detect second)
    (read : ∀ first second, Files.Same looks first second →
      client.read first = client.read second) :
    (∀ first second, Files.Same looks first second →
      client.checkExisting first = client.checkExisting second) ∧
    Planned looks client.path client.install ∧ Planned looks client.path client.uninstall := by
  refine ⟨?_,⟨client.installPlan,?_,client.install_eq⟩,⟨client.uninstallPlan,?_,client.uninstall_eq⟩⟩
  · intro first second same
    simp only [checkExisting,detect first second same,read first second same]
  · intro first second same
    simp only [installPlan,read first second same]
  · intro first second same
    simp only [uninstallPlan,read first second same]

end ConfigClient

namespace JsonClient

/-- The config, the copy beside it, and what shows that the client is installed. -/
def looks (client : JsonClient) : List Path :=
  [client.configPath,client.configPath.backupPath] ++
    (client.detectPath <|> client.configPath.parent).toList

theorem confined (text : JsonText) (currentExe : Option String) (client : JsonClient)
    (entry : ServerEntry) : (client.mcp text currentExe).Confined entry client.looks := by
  have config : client.configPath ∈ client.looks := by simp [looks]
  have detect : ∀ first second, Files.Same client.looks first second →
      client.detect first = client.detect second := by
    intro first second same
    have here := same.pathExists config
    cases place : client.detectPath with
    | some path =>
      have member : path ∈ client.looks := by simp [looks,place]
      simp only [JsonClient.detect,place,here,same.pathExists member]
    | none =>
      cases above : client.configPath.parent with
      | none => simp only [JsonClient.detect,place,here,above,Option.any_none]
      | some parent =>
        have member : parent ∈ client.looks := by simp [looks,place,above]
        simp only [JsonClient.detect,place,here,above,Option.any_some,same.pathExists member]
  have read : ∀ first second, Files.Same client.looks first second →
      client.readConfig text first = client.readConfig text second :=
    fun first second same => same.readParsed config _ _
  obtain ⟨status,installs,uninstalls⟩ :=
    @ConfigClient.confined _ _ (client.config text currentExe entry) _ detect read
  exact ⟨config,by simp [looks,mcp],status,installs,uninstalls⟩

end JsonClient

namespace CodexClient

def looks (client : CodexClient) : List Path :=
  [client.configPath,client.configPath.backupPath] ++ client.configPath.parent.toList

theorem confined (text : TomlText) (currentExe : Option String) (client : CodexClient)
    (entry : ServerEntry) : (client.mcp text currentExe).Confined entry client.looks := by
  have config : client.configPath ∈ client.looks := by simp [looks]
  have detect : ∀ first second, Files.Same client.looks first second →
      client.detect first = client.detect second := by
    intro first second same
    have here := same.pathExists config
    cases above : client.configPath.parent with
    | none => simp only [CodexClient.detect,here,above,Option.any_none]
    | some parent =>
      have member : parent ∈ client.looks := by simp [looks,above]
      simp only [CodexClient.detect,here,above,Option.any_some,same.pathExists member]
  have read : ∀ first second, Files.Same client.looks first second →
      client.readConfig text first = client.readConfig text second :=
    fun first second same => same.readParsed config _ _
  obtain ⟨status,installs,uninstalls⟩ :=
    @ConfigClient.confined _ _ (client.config text currentExe entry) _ detect read
  exact ⟨config,by simp [looks,mcp],status,installs,uninstalls⟩

end CodexClient

/-! ## One turn -/

/-- A client together with the places it is confined to. -/
structure PlacedClient (entry : ServerEntry) where
  client : McpClient
  looks : List Path
  confined : client.Confined entry looks

/-- What a command does to one client is decided by what that client sees, and is at most
one write of its config. -/
structure Turns {entry : ServerEntry} (turn : McpClient → Files → ClientTurn × Files)
    (placed : PlacedClient entry) : Prop where
  result : ∀ first second, Files.Same placed.looks first second →
    (turn placed.client first).1 = (turn placed.client second).1
  acts : ∃ plan : Files → Except InstallError (Option String),
    (∀ first second, Files.Same placed.looks first second → plan first = plan second) ∧
    ∀ files, (turn placed.client files).2 = (files.perform placed.client.configPath (plan files)).2

variable {entry : ServerEntry}

theorem installTurn_turns (placed : PlacedClient entry) :
    Turns (installTurn entry) placed := by
  obtain ⟨plan,seen,performed⟩ := placed.confined.installs
  constructor
  · intro first second same
    have planned : (placed.client.install entry first).1 = (placed.client.install entry second).1 := by
      rw [performed,performed,seen first second same]
      rcases plan second with e | _ | contents <;> rfl
    simp only [installTurn,placed.confined.status first second same]
    split
    · rfl
    · split
      · rfl
      · rcases one : placed.client.install entry first with ⟨given,after⟩
        rcases two : placed.client.install entry second with ⟨given',after'⟩
        rw [one,two] at planned
        cases planned
        cases given <;> rfl
  · refine ⟨fun files => if (placed.client.checkExisting entry files).wantsInstall then plan files
      else .ok none,?_,?_⟩
    · intro first second same
      simp only [placed.confined.status first second same,seen first second same]
    · intro files
      simp only [installTurn]
      split
      · rename_i absent
        rw [absent]
        rfl
      · split
        · rename_i idle
          rw [if_neg (by simpa using idle)]
          rfl
        · rename_i wants
          rw [if_pos (by simpa using wants),← performed]
          rcases placed.client.install entry files with ⟨_ | _,after⟩ <;> rfl

theorem uninstallTurn_turns (placed : PlacedClient entry) :
    Turns (uninstallTurn entry) placed := by
  obtain ⟨plan,seen,performed⟩ := placed.confined.uninstalls
  constructor
  · intro first second same
    have planned : (placed.client.uninstall entry first).1 =
        (placed.client.uninstall entry second).1 := by
      rw [performed,performed,seen first second same]
      rcases plan second with e | _ | contents <;> rfl
    simp only [uninstallTurn,placed.confined.status first second same]
    split
    · rfl
    · rcases one : placed.client.uninstall entry first with ⟨given,after⟩
      rcases two : placed.client.uninstall entry second with ⟨given',after'⟩
      rw [one,two] at planned
      cases planned
      cases given <;> cases (placed.client.checkExisting entry second).hasEntry <;> rfl
  · refine ⟨fun files => if placed.client.checkExisting entry files = .clientNotFound then .ok none
      else plan files,?_,?_⟩
    · intro first second same
      simp only [placed.confined.status first second same,seen first second same]
    · intro files
      simp only [uninstallTurn]
      split
      · rfl
      · rw [← performed]
        rcases placed.client.uninstall entry files with ⟨_ | _,after⟩ <;>
          cases (placed.client.checkExisting entry files).hasEntry <;> rfl

namespace PlacedClient

/-- Neither of the two writes where the other one looks. -/
def Apart (one other : PlacedClient entry) : Prop :=
  Files.Away one.client.configPath other.looks ∧ Files.Away other.client.configPath one.looks

theorem independent {turn : McpClient → Files → ClientTurn × Files} {placed : List (PlacedClient entry)}
    (turns : ∀ one ∈ placed, Turns turn one) (apart : placed.Pairwise Apart) :
    Independence.Independent (fun one => turn one.client) (fun one => Files.Same one.looks)
      placed where
  refl one := .refl one.looks
  trans one := Files.Same.trans
  result one member := (turns one member).result
  state one member first second same := by
    obtain ⟨plan,seen,acts⟩ := (turns one member).acts
    rw [acts,acts,seen first second same]
    exact same.perform one.confined.config _
  apart := by
    refine apart.imp_of_mem ?_
    intro one other here there away files
    obtain ⟨plan,-,acts⟩ := (turns one here).acts
    obtain ⟨plan',-,acts'⟩ := (turns other there).acts
    rw [acts,acts']
    exact ⟨away.1.same _ files,away.2.same _ files⟩

end PlacedClient

/-! ## The known clients -/

namespace Path

theorem backupPath_under (home : Path) {path : Path} (named : path ≠ []) :
    backupPath (home ++ path) = home ++ backupPath path := by
  rw [backupPath,appended,List.dropLast_append_of_ne_nil named,
    List.getLast?_append_of_ne_nil home named,List.append_assoc]
  rfl

theorem parent_under (home : Path) {path : Path} (named : path ≠ []) :
    parent (home ++ path) = some (home ++ path.dropLast) := by
  simp [parent,named,List.dropLast_append_of_ne_nil named]

end Path

theorem Files.Away.under {path : Path} {looks : List Path} (named : path ≠ [])
    (away : Files.Away path looks) (home : Path) :
    Files.Away (home ++ path) (looks.map (home ++ ·)) := by
  constructor
  · rw [Path.backupPath_under home named]
    intro member
    obtain ⟨look,here,same⟩ := List.mem_map.mp member
    exact away.1 (List.append_cancel_left same ▸ here)
  · intro other member
    obtain ⟨look,here,rfl⟩ := List.mem_map.mp member
    have notAbove := away.2 look here
    rw [← Bool.not_eq_true,List.isPrefixOf_iff_prefix] at notAbove ⊢
    exact fun above => notAbove ((List.prefix_append_right_inj home).mp above)

section
variable (machine : Machine) (home : Path) (entry : ServerEntry)

/-- The known clients with their places. -/
def placedUnder : List (PlacedClient entry) :=
  (jsonClientsUnder machine.platform home).map (fun client =>
    ⟨client.mcp machine.json machine.currentExe,client.looks,client.confined _ _ entry⟩) ++
    [⟨(codexUnder home).mcp machine.toml machine.currentExe,(codexUnder home).looks,
      (codexUnder home).confined _ _ entry⟩]

theorem placedUnder_client :
    (placedUnder machine home entry).map PlacedClient.client = clientsUnder machine home := rfl

/-- A config and the places its client looks at, below the home directory. -/
abbrev Place := Path × List Path

/-- The places of a client whose directory shows that it is installed. -/
def Place.beside (path : Path) : Place := (path,[path,path.backupPath,path.dropLast])

def placesOf (platform : Platform) : List Place := [
  .beside (platform.settings ++ ["Claude","claude_desktop_config.json"]),
  ([".claude.json"],[[".claude.json"],Path.backupPath [".claude.json"],[".claude"]]),
  .beside [".cursor","mcp.json"],
  .beside [".codeium","windsurf","mcp_config.json"],
  .beside (platform.settings ++ ["Code","User","mcp.json"]),
  .beside [".codex","config.toml"]]

theorem placesOf_apart (platform : Platform) : (placesOf platform).Pairwise fun one other =>
    Files.Away one.1 other.2 ∧ Files.Away other.1 one.2 := by
  cases platform <;> decide

theorem placesOf_named (platform : Platform) : ∀ place ∈ placesOf platform, place.1 ≠ [] := by
  cases platform <;> decide

/-- The place below a home directory. -/
def Place.under (place : Place) : Place := (home ++ place.1,place.2.map (home ++ ·))

theorem beside_under {path : Path} (named : path ≠ []) :
    (home ++ path,[home ++ path,(home ++ path).backupPath] ++ (home ++ path).parent.toList) =
      (Place.beside path).under home := by
  rw [Path.backupPath_under home named,Path.parent_under home named]
  rfl

theorem placedUnder_places : (placedUnder machine home entry).map (fun placed =>
    (placed.client.configPath,placed.looks)) =
      (placesOf machine.platform).map (Place.under home) := by
  have backup := Path.backupPath_under home (show [".claude.json"] ≠ [] by simp)
  have beside {path : Path} (named : path ≠ []) := beside_under home named
  have desktop := @beside (machine.platform.settings ++ ["Claude","claude_desktop_config.json"])
    (by simp)
  have cursor := @beside [".cursor","mcp.json"] (by simp)
  have windsurf := @beside [".codeium","windsurf","mcp_config.json"] (by simp)
  have code := @beside (machine.platform.settings ++ ["Code","User","mcp.json"]) (by simp)
  have codex := @beside [".codex","config.toml"] (by simp)
  simp only [placesOf,List.map_cons,List.map_nil,← desktop,← cursor,← windsurf,← code,← codex]
  simp only [placedUnder,jsonClientsUnder,List.map_cons,List.map_nil,List.cons_append,
    List.nil_append,JsonClient.mcp,CodexClient.mcp,JsonClient.looks,CodexClient.looks,codexUnder,
    JsonClient.new,JsonClient.withDetectPath,Place.under,backup]
  rfl

theorem placedUnder_apart : (placedUnder machine home entry).Pairwise PlacedClient.Apart := by
  have below : (placesOf machine.platform).Pairwise fun one other =>
      Files.Away (one.under home).1 (other.under home).2 ∧
        Files.Away (other.under home).1 (one.under home).2 := by
    apply (placesOf_apart machine.platform).imp_of_mem
    intro one other here there away
    have named := placesOf_named machine.platform
    exact ⟨away.1.under (named one here) home,away.2.under (named other there) home⟩
  have places : ((placedUnder machine home entry).map fun placed =>
      (placed.client.configPath,placed.looks)).Pairwise fun one other =>
        Files.Away one.1 other.2 ∧ Files.Away other.1 one.2 := by
    rw [placedUnder_places]
    exact List.pairwise_map.mpr below
  rw [List.pairwise_map] at places
  exact places

end

/-! ## The commands -/

/-- The command did to each chosen client what it does to that one alone, reports just that,
and left every other file as it was. -/
structure Isolated (turn : McpClient → Files → ClientTurn × Files) (clients : List McpClient)
    (selectors : List String) (files : Files) (report : List ClientTurn → Report)
    (run : Report × Files) : Prop where
  report : run.1 = report ((clients.filter (chosen selectors)).map fun client =>
    (turn client files).1)
  each : ∀ client ∈ clients, chosen selectors client = true → ∀ path,
    path = client.configPath ∨ path = client.configPath.backupPath →
      run.2.contents path = (turn client files).2.contents path
  elsewhere : ∀ path, (∀ client ∈ clients, chosen selectors client = true →
    path ≠ client.configPath ∧ path ≠ client.configPath.backupPath) →
      run.2.contents path = files.contents path

section
variable {machine : Machine} {home : Path} {entry : ServerEntry} {selectors : List String}
  {files : Files} {turn : McpClient → Files → ClientTurn × Files}

theorem select_chosen {clients : List McpClient}
    (accepted : selectorError clients selectors = none) :
    select clients selectors = .ok (clients.filter (chosen selectors)) := by
  unfold select
  cases selectors with
  | nil => exact congrArg Except.ok (List.filter_eq_self.mpr fun _ _ => rfl).symm
  | cons selector rest =>
    rw [accepted]
    rfl

theorem select_refused {clients : List McpClient} {message : String}
    (unknown : selectorError clients selectors = some message) :
    select clients selectors = .error message := by
  unfold select
  cases selectors with
  | nil =>
    unfold selectorError at unknown
    split at unknown <;> cases unknown
  | cons selector rest =>
    rw [unknown]
    rfl

/-- The chosen clients with their places. -/
def chosenUnder (machine : Machine) (home : Path) (entry : ServerEntry)
    (selectors : List String) : List (PlacedClient entry) :=
  (placedUnder machine home entry).filter fun placed => chosen selectors placed.client

theorem chosenUnder_client : (chosenUnder machine home entry selectors).map PlacedClient.client =
    (clientsUnder machine home).filter (chosen selectors) := by
  rw [← placedUnder_client machine home entry,List.filter_map]
  rfl

theorem chosenUnder_independent (turns : ∀ placed : PlacedClient entry, Turns turn placed) :
    Independence.Independent (fun placed : PlacedClient entry => turn placed.client)
      (fun placed => Files.Same placed.looks) (chosenUnder machine home entry selectors) :=
  PlacedClient.independent (fun placed _ => turns placed)
    ((placedUnder_apart machine home entry).sublist List.filter_sublist)

/-- A chosen client is one with its places. -/
theorem mem_chosenUnder {client : McpClient} (member : client ∈ clientsUnder machine home)
    (picked : chosen selectors client = true) :
    ∃ placed ∈ chosenUnder machine home entry selectors, placed.client = client := by
  have here : client ∈ (clientsUnder machine home).filter (chosen selectors) :=
    List.mem_filter.mpr ⟨member,picked⟩
  rw [← @chosenUnder_client machine home entry] at here
  exact List.mem_map.mp here

/-- What a loop over the chosen clients comes to. -/
theorem runEach_isolated (turns : ∀ placed : PlacedClient entry, Turns turn placed)
    (report : List ClientTurn → Report) (files : Files) :
    Isolated turn (clientsUnder machine home) selectors files report
      (let (given,after) := Independence.runEach turn
        ((clientsUnder machine home).filter (chosen selectors)) files
      (report given,after)) := by
  have independent := @chosenUnder_independent machine home entry selectors turn turns
  rw [← @chosenUnder_client machine home entry,Independence.runEach_map]
  constructor
  · change report _ = _
    rw [independent.results,← @chosenUnder_client machine home entry,List.map_map]
    rfl
  · intro client member picked path place
    obtain ⟨placed,here,rfl⟩ := @mem_chosenUnder machine home entry selectors client member picked
    have reached := independent.reaches here files
    rcases place with rfl | rfl
    · exact (reached _ placed.confined.config).1
    · exact (reached _ placed.confined.backup).1
  · intro path elsewhere
    let kept (last first : Files) : Prop := last.contents path = first.contents path
    have trans : ∀ {first second third}, kept first second → kept second third →
        kept first third := fun one two => Eq.trans one two
    refine @Independence.runEach_untouched _ _ _ _ _ kept (fun _ => rfl) trans ?_ files
    intro placed here files
    obtain ⟨plan,-,acts⟩ := (turns placed).acts
    have member : placed.client ∈ (clientsUnder machine home).filter (chosen selectors) := by
      rw [← @chosenUnder_client machine home entry]
      exact List.mem_map_of_mem here
    obtain ⟨known,picked⟩ := List.mem_filter.mp member
    have other := elsewhere placed.client known picked
    rw [acts]
    exact Files.perform_elsewhere _ files other.1 other.2

end

/-- Whatever the configs of the clients hold, and whichever of them are refused: `install` and
`uninstall` do to each client that is named what they would do to it alone. -/
theorem commands_isolated (machine : Machine) (home : Path) (entry : ServerEntry)
    (selectors : List String) (files : Files)
    (accepted : selectorError (clientsUnder machine home) selectors = none) :
    Isolated (installTurn entry) (clientsUnder machine home) selectors files
      (installReport machine entry selectors)
      (install machine entry (clientsUnder machine home) selectors files) ∧
    Isolated (uninstallTurn entry) (clientsUnder machine home) selectors files
      (uninstallReport entry) (uninstall entry (clientsUnder machine home) selectors files) := by
  have some : (clientsUnder machine home).isEmpty = false := rfl
  have picked := select_chosen accepted
  constructor
  · have ran := @runEach_isolated machine home entry selectors _ installTurn_turns
      (installReport machine entry selectors) files
    simp only [install,some,picked]
    exact ran
  · have ran := @runEach_isolated machine home entry selectors _ uninstallTurn_turns
      (uninstallReport entry) files
    simp only [uninstall,some,picked]
    exact ran

/-- One client is named, in its own spelling. -/
theorem commands_isolated_cursor :
    let machine : Machine :=
      ⟨JsonClient.firstText,CodexClient.codexText,some "/bin/my-mcp",.linux⟩
    Isolated (installTurn JsonClient.pinnedTwice) (clientsUnder machine ["home","u"]) ["CURSOR"]
      JsonClient.freshFiles (installReport machine JsonClient.pinnedTwice ["CURSOR"])
      (install machine JsonClient.pinnedTwice (clientsUnder machine ["home","u"]) ["CURSOR"]
        JsonClient.freshFiles) ∧
    Isolated (uninstallTurn JsonClient.pinnedTwice) (clientsUnder machine ["home","u"]) ["CURSOR"]
      JsonClient.freshFiles (uninstallReport JsonClient.pinnedTwice)
      (uninstall JsonClient.pinnedTwice (clientsUnder machine ["home","u"]) ["CURSOR"]
        JsonClient.freshFiles) :=
  commands_isolated _ ["home","u"] JsonClient.pinnedTwice ["CURSOR"] JsonClient.freshFiles
    (by decide +kernel)

end SmlMcps
