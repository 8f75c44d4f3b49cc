import SmlMcps.InstallIsolation

/-! After a command that worked there is nothing left for it to do: every client that was
named has a current entry, or none, and the same command writes no file again. -/
namespace SmlMcps

/-- What installing and uninstalling leave of a client that is there. -/
structure McpClient.Settles (client : McpClient) (entry : ServerEntry) (files : Files) : Prop where
  installed : (client.install entry files).1 = .ok () →
    client.checkExisting entry (client.install entry files).2 = .installed
  removed : (client.uninstall entry files).1 = .ok () →
    client.checkExisting entry (client.uninstall entry files).2 = .notInstalled ∧
      client.uninstall entry (client.uninstall entry files).2 =
        (.ok (),(client.uninstall entry files).2)

/-- The printed configs are read back, where a command over these files may write one. -/
structure Machine.Lossless (machine : Machine) (home : Path) (entry : ServerEntry)
    (files : Files) : Prop where
  json : ∀ client ∈ jsonClientsUnder machine.platform home, client.detect files = true →
    ∀ fields, (client.config machine.json machine.currentExe entry).Writes files (.obj fields) →
      machine.json.FaithfulLine fields
  toml : (codexUnder home).detect files = true → ∀ edited,
    ((codexUnder home).config machine.toml machine.currentExe entry).Writes files edited →
      CodexClient.Lossless machine.toml edited

section
variable {machine : Machine} {home : Path} {entry : ServerEntry} {selectors : List String}
  {files : Files}

theorem ConfigClient.detected {D E : Type} {client : ConfigClient D E}
    (there : client.checkExisting files ≠ .clientNotFound) : client.detect files = true := by
  cases detected : client.detect files with
  | true => rfl
  | false =>
    rw [ConfigClient.checkExisting,if_pos detected] at there
    exact (there rfl).elim

theorem Machine.Lossless.settles (lossless : machine.Lossless home entry files)
    {client : McpClient} (known : client ∈ clientsUnder machine home)
    (there : client.checkExisting entry files ≠ .clientNotFound) :
    client.Settles entry files := by
  rcases List.mem_append.mp known with json | codex
  · obtain ⟨client,member,rfl⟩ := List.mem_map.mp json
    have detected := ConfigClient.detected there
    have agrees := (client.lawful machine.json machine.currentExe entry).agrees detected
      fun _ written => JsonClient.readsBack (lossless.json client member detected) written
    exact ⟨fun ok => (agrees.installed ok).1,agrees.uninstalled⟩
  · rw [List.mem_singleton.mp codex] at there ⊢
    have detected := ConfigClient.detected there
    have agrees := ((codexUnder home).lawful machine.toml machine.currentExe entry).agrees detected
      fun _ written => CodexClient.readsBack (lossless.toml detected _ written) written
    exact ⟨fun ok => (agrees.installed ok).1,agrees.uninstalled⟩

/-! ## One client -/

theorem installTurn_settled {client : McpClient}
    (settles : client.checkExisting entry files ≠ .clientNotFound → client.Settles entry files)
    (worked : (installTurn entry client files).1.failed = false) :
    client.checkExisting entry (installTurn entry client files).2 =
      if client.checkExisting entry files = .clientNotFound then .clientNotFound
      else .installed := by
  by_cases absent : client.checkExisting entry files = .clientNotFound
  · simp only [installTurn,if_pos absent]
    exact absent
  · simp only [installTurn,if_neg absent] at worked ⊢
    by_cases idle : (!(client.checkExisting entry files).wantsInstall) = true
    · simp only [if_pos idle]
      cases status : client.checkExisting entry files with
      | installed => rfl
      | clientNotFound => exact (absent status).elim
      | _ =>
        rw [status] at idle
        cases idle
    · simp only [if_neg idle] at worked ⊢
      rcases ran : client.install entry files with ⟨_ | _,after⟩
      · rw [ran] at worked
        cases worked
      · have installed := (settles absent).installed (by rw [ran])
        rw [ran] at installed
        exact installed

/-- An up-to-date client is left alone. -/
theorem installTurn_idle {client : McpClient}
    (settled : client.checkExisting entry files = .installed ∨
      client.checkExisting entry files = .clientNotFound) :
    (installTurn entry client files).2 = files ∧
      (installTurn entry client files).1.failed = false ∧
      (installTurn entry client files).1.changed = false := by
  rcases settled with current | absent
  · simp [installTurn,current,InstallStatus.wantsInstall]
  · simp [installTurn,absent]

theorem uninstallTurn_settled {client : McpClient}
    (settles : client.checkExisting entry files ≠ .clientNotFound → client.Settles entry files)
    (worked : (uninstallTurn entry client files).1.failed = false) :
    let after := (uninstallTurn entry client files).2
    client.checkExisting entry after =
        (if client.checkExisting entry files = .clientNotFound then .clientNotFound
        else .notInstalled) ∧
      (client.checkExisting entry files ≠ .clientNotFound →
        client.uninstall entry after = (.ok (),after)) := by
  by_cases absent : client.checkExisting entry files = .clientNotFound
  · simp only [uninstallTurn,if_pos absent]
    exact ⟨absent,fun there => absurd absent there⟩
  · simp only [uninstallTurn,if_neg absent] at worked ⊢
    rcases ran : client.uninstall entry files with ⟨_ | _,after⟩
    · rw [ran] at worked
      cases worked
    · have removed := (settles absent).removed (by rw [ran])
      rw [ran] at removed
      cases (client.checkExisting entry files).hasEntry <;>
        exact ⟨removed.1,fun _ => removed.2⟩

theorem uninstallTurn_idle {client : McpClient}
    (settled : client.checkExisting entry files = .notInstalled ∧
        client.uninstall entry files = (.ok (),files) ∨
      client.checkExisting entry files = .clientNotFound) :
    (uninstallTurn entry client files).2 = files ∧
      (uninstallTurn entry client files).1.failed = false ∧
      (uninstallTurn entry client files).1.changed = false := by
  rcases settled with ⟨clean,idle⟩ | absent
  · simp [uninstallTurn,clean,idle,InstallStatus.hasEntry]
  · simp [uninstallTurn,absent]

/-- Where an operation has nothing to do, it has nothing to do where it sees the same. -/
theorem Planned.idle {looks : List Path} {path : Path}
    {operation : Files → Except InstallError Unit × Files} (planned : Planned looks path operation)
    {first second : Files} (same : Files.Same looks second first)
    (idle : operation first = (.ok (),first)) : operation second = (.ok (),second) := by
  obtain ⟨plan,seen,performed⟩ := planned
  rw [performed] at idle ⊢
  rw [seen second first same]
  generalize plan first = step at idle ⊢
  rcases step with e | _ | contents
  · cases idle
  · rfl
  · exact absurd (congrArg Prod.snd idle) (first.write_ne path contents)

/-! ## All of them -/

/-- The command has run on `files` and can be run on what it left without any effect:
`status` says what it leaves a client with that is there. -/
structure Repeats (command : Files → Report × Files) (clients : List McpClient)
    (selectors : List String) (entry : ServerEntry) (status : InstallStatus) (files : Files) :
    Prop where
  settled : ∀ client ∈ clients, chosen selectors client = true →
    client.checkExisting entry (command files).2 =
      if client.checkExisting entry files = .clientNotFound then .clientNotFound else status
  again : (command (command files).2).2 = (command files).2 ∧
    (command (command files).2).1.outcome = .done

/-- From what each turn leaves to what the command leaves. -/
theorem runEach_repeats {turn : McpClient → Files → ClientTurn × Files}
    (turns : ∀ placed : PlacedClient entry, Turns turn placed)
    (status : InstallStatus)
    (idle : ∀ placed ∈ chosenUnder machine home entry selectors, ∀ last,
      (turn placed.client files).1.failed = false →
      Files.Same placed.looks last (turn placed.client files).2 →
        placed.client.checkExisting entry last =
          (if placed.client.checkExisting entry files = .clientNotFound then .clientNotFound
          else status) ∧
        (turn placed.client last).2 = last ∧ (turn placed.client last).1.failed = false)
    {command : Files → Report × Files} {report : List ClientTurn → Report}
    (outcome : ∀ turns, (report turns).outcome = ClientTurn.outcome turns)
    (runs : ∀ files, command files = (report (Independence.runEach turn
        ((clientsUnder machine home).filter (chosen selectors)) files).1,
      (Independence.runEach turn ((clientsUnder machine home).filter (chosen selectors)) files).2))
    (worked : (command files).1.outcome = .done) :
    Repeats command (clientsUnder machine home) selectors entry status files := by
  have independent := @chosenUnder_independent machine home entry selectors turn turns
  have runs' (files : Files) : command files = (report (Independence.runEach
      (fun placed : PlacedClient entry => turn placed.client)
        (chosenUnder machine home entry selectors) files).1,
      (Independence.runEach (fun placed : PlacedClient entry => turn placed.client)
        (chosenUnder machine home entry selectors) files).2) := by
    rw [runs,← @chosenUnder_client machine home entry,Independence.runEach_map]
  have fine : ∀ placed ∈ chosenUnder machine home entry selectors,
      (turn placed.client files).1.failed = false := by
    intro placed member
    rw [runs',outcome,independent.results,ClientTurn.outcome] at worked
    cases failing : (turn placed.client files).1.failed with
    | false => rfl
    | true =>
      rw [if_pos] at worked
      · cases worked
      · rw [ClientTurn.anyFailed,List.any_map]
        exact List.any_eq_true.mpr ⟨placed,member,failing⟩
  have reached : ∀ placed ∈ chosenUnder machine home entry selectors,
      Files.Same placed.looks (command files).2 (turn placed.client files).2 := by
    intro placed member
    rw [runs']
    exact independent.reaches member files
  have settled (placed : PlacedClient entry)
      (member : placed ∈ chosenUnder machine home entry selectors) :=
    idle placed member (command files).2 (fine placed member) (reached placed member)
  constructor
  · intro client member picked
    obtain ⟨placed,here,rfl⟩ := @mem_chosenUnder machine home entry selectors client member picked
    exact (settled placed here).1
  · have still := Independence.runEach_idle fun placed member => (settled placed member).2.1
    rw [runs' (command files).2,still]
    refine ⟨rfl,?_⟩
    rw [outcome,ClientTurn.outcome,if_neg]
    rw [ClientTurn.anyFailed,List.any_map,List.any_eq_true]
    rintro ⟨placed,member,failing⟩
    have fine : (turn placed.client (command files).2).1.failed = false :=
      (settled placed member).2.2
    exact Bool.false_ne_true (fine.symm.trans failing)

end

/-- A chosen client is one of the machine's. -/
theorem chosenUnder_known {machine : Machine} {home : Path} {entry : ServerEntry}
    {selectors : List String} {placed : PlacedClient entry}
    (member : placed ∈ chosenUnder machine home entry selectors) :
    placed.client ∈ clientsUnder machine home := by
  have here := List.mem_map_of_mem member (f := PlacedClient.client)
  rw [chosenUnder_client] at here
  exact (List.mem_filter.mp here).1

/-- A command that reports success knew every name it was given. -/
theorem install_accepted {machine : Machine} {home : Path} {entry : ServerEntry}
    {selectors : List String} {files : Files}
    (worked : (install machine entry (clientsUnder machine home) selectors files).1.outcome =
      .done) : selectorError (clientsUnder machine home) selectors = none := by
  have some : (clientsUnder machine home).isEmpty = false := rfl
  cases named : selectorError (clientsUnder machine home) selectors with
  | none => rfl
  | some message =>
    simp only [install,some,select_refused named] at worked
    cases worked

theorem uninstall_accepted {machine : Machine} {home : Path} {entry : ServerEntry}
    {selectors : List String} {files : Files}
    (worked : (uninstall entry (clientsUnder machine home) selectors files).1.outcome = .done) :
    selectorError (clientsUnder machine home) selectors = none := by
  have some : (clientsUnder machine home).isEmpty = false := rfl
  cases named : selectorError (clientsUnder machine home) selectors with
  | none => rfl
  | some message =>
    simp only [uninstall,some,select_refused named] at worked
    cases worked

/-- What a successful `install` leaves. -/
theorem install_repeats {machine : Machine} {home : Path} {entry : ServerEntry}
    {selectors : List String} {files : Files}
    (lossless : machine.Lossless home entry files)
    (worked : (install machine entry (clientsUnder machine home) selectors files).1.outcome =
      .done) :
    Repeats (install machine entry (clientsUnder machine home) selectors)
      (clientsUnder machine home) selectors entry .installed files := by
  have some : (clientsUnder machine home).isEmpty = false := rfl
  have picked := select_chosen (install_accepted worked)
  refine @runEach_repeats machine home entry selectors files _ installTurn_turns .installed ?_
    _ (installReport machine entry selectors) (fun _ => rfl) ?_ worked
  · intro placed member last fine same
    have status := placed.confined.status _ _ same
    have settled := installTurn_settled (lossless.settles (chosenUnder_known member)) fine
    have idle := @installTurn_idle entry last placed.client (by
      rw [status,settled]
      split
      · exact .inr rfl
      · exact .inl rfl)
    exact ⟨status.trans settled,idle.1,idle.2.1⟩
  · intro files
    simp only [install,some,picked]
    rfl

/-- If the printed configs are read back, a command that reports success has left each client
that was named and is there with a current entry, or with none, and would change nothing if it
were run again. -/
theorem commands_repeat (machine : Machine) (home : Path) (entry : ServerEntry)
    (selectors : List String) (files : Files)
    (lossless : machine.Lossless home entry files) :
    ((install machine entry (clientsUnder machine home) selectors files).1.outcome = .done →
      Repeats (install machine entry (clientsUnder machine home) selectors)
        (clientsUnder machine home) selectors entry .installed files) ∧
    ((uninstall entry (clientsUnder machine home) selectors files).1.outcome = .done →
      Repeats (uninstall entry (clientsUnder machine home) selectors)
        (clientsUnder machine home) selectors entry .notInstalled files) := by
  refine ⟨install_repeats lossless,fun worked => ?_⟩
  have some : (clientsUnder machine home).isEmpty = false := rfl
  have picked := select_chosen (uninstall_accepted worked)
  refine @runEach_repeats machine home entry selectors files _ uninstallTurn_turns
    .notInstalled ?_ _ (uninstallReport entry) (fun _ => rfl) ?_ worked
  · intro placed member last fine same
    have status := placed.confined.status _ _ same
    have known := chosenUnder_known member
    obtain ⟨settled,clean⟩ := uninstallTurn_settled (lossless.settles known) fine
    have idle := @uninstallTurn_idle entry last placed.client (by
      rw [status,settled]
      split
      · exact .inr rfl
      · rename_i there
        exact .inl ⟨rfl,placed.confined.uninstalls.idle same (clean there)⟩)
    exact ⟨status.trans settled,idle.1,idle.2.1⟩
  · intro files
    simp only [uninstall,some,picked]
    rfl

/-! ### One client on the machine -/

def cursorMachine : Machine :=
  ⟨JsonClient.firstText,CodexClient.codexText,some "/bin/my-mcp",.linux⟩

theorem cursorMachine_lossless :
    cursorMachine.Lossless ["home","u"] JsonClient.pinnedTwice JsonClient.freshFiles where
  json := by
    intro client member detected fields written
    have only : client = JsonClient.cursor := by
      have none_ : ∀ client ∈ jsonClientsUnder .linux ["home","u"],
          client.detect JsonClient.freshFiles = true → client = JsonClient.cursor := by decide
      exact none_ client member detected
    subst only
    obtain ⟨before,read,changed⟩ := written
    obtain rfl : before = .obj [] := (Except.ok.inj read).symm
    rcases changed with changed | changed
    · have written : JsonClient.cursor.withEntry (some "/bin/my-mcp") JsonClient.pinnedTwice
          (.obj []) = .ok (some (.obj JsonClient.firstConfig)) := by decide
      obtain rfl : fields = JsonClient.firstConfig :=
        Json.obj.inj (Option.some.inj (Except.ok.inj (changed.symm.trans written)))
      exact JsonClient.firstText_faithful
    · cases changed
  toml detected := by
    have absent : (codexUnder ["home","u"]).detect JsonClient.freshFiles = false := by decide
    rw [absent] at detected
    cases detected

theorem commands_repeat_cursor :
    (install cursorMachine JsonClient.pinnedTwice (clientsUnder cursorMachine ["home","u"]) []
      JsonClient.freshFiles).1.outcome = .done ∧
    Repeats (install cursorMachine JsonClient.pinnedTwice (clientsUnder cursorMachine ["home","u"])
        []) (clientsUnder cursorMachine ["home","u"]) [] JsonClient.pinnedTwice .installed
      JsonClient.freshFiles := by
  have worked : (install cursorMachine JsonClient.pinnedTwice
      (clientsUnder cursorMachine ["home","u"]) [] JsonClient.freshFiles).1.outcome = .done := by
    decide +kernel
  exact ⟨worked,(commands_repeat cursorMachine ["home","u"] JsonClient.pinnedTwice []
    JsonClient.freshFiles cursorMachine_lossless).1 worked⟩

end SmlMcps
