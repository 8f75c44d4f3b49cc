import SmlMcps.CliDispatch

/-! A command line that is refused is refused by what it says alone: none of the author's
closures has a part in it, and no file does. -/
namespace SmlMcps

namespace Cli

variable {cli other : Cli} {host : Host}

/-! ## Commands that there are -/

/-- The commands that are found are those that are listed. -/
theorem find_listed (name : String) :
    (cli.find name).isSome = cli.commandList.any fun command => command.name == name := by
  have own : ((cli.custom.map Prod.fst).findIdx? fun command => command.name == name).isSome =
      (cli.custom.map Prod.fst).any fun command => command.name == name := List.findIdx?_isSome
  unfold find commandList
  rw [List.any_append,List.any_filter]
  cases custom : (cli.custom.map Prod.fst).any fun command => command.name == name with
  | true =>
    rw [custom] at own
    obtain ⟨index,found⟩ := Option.isSome_iff_exists.mp own
    simp [found]
  | false =>
    rw [custom] at own
    have none_ := Option.isSome_eq_false_iff.mp own |> Option.isNone_iff_eq_none.mp
    rw [none_]
    -- A command of the harness that is called so is not replaced: nothing else is.
    have kept (builtin : SubCommand) : (!((cli.custom.map Prod.fst).any fun command =>
        command.name == builtin.name) && builtin.name == name) = (builtin.name == name) := by
      by_cases same : builtin.name = name
      · rw [same,custom]
        rfl
      · simp [same]
    simp only [kept,Bool.or_false]
    cases cli.serve <;> cases cli.health <;>
      simp only [Option.isSome_none,Option.isSome_some,Bool.false_eq_true,if_false,if_true,
        List.append_nil,List.nil_append,List.cons_append,List.map_cons,List.map_nil,List.any_cons,
        List.any_nil,Builtin.subcommand,and_false,and_true,Bool.or_false] <;>
      grind

/-- The help of a command is there where the command is. -/
theorem commandHelp_isSome (currentExe : Option String) (name : String) :
    (cli.commandHelp currentExe name).isSome = (cli.find name).isSome := by
  rw [commandHelp,Option.isSome_map,List.isSome_find?,find_listed]

/-- What a target selects is there to be run. -/
def Selects (cli : Cli) : Target → Prop
  | .custom index => index < cli.custom.length
  | .builtin .serve => cli.serve.isSome = true
  | .builtin .health => cli.health.isSome = true
  | .builtin _ => True

theorem find_there {name : String} {target : Target} (found : cli.find name = some target) :
    Selects cli target := by
  unfold find at found
  split at found
  · rename_i index known
    cases found
    have below := (List.findIdx?_eq_some_iff_findIdx_eq.mp known).1
    rwa [List.length_map] at below
  · split at found
    · cases found
      trivial
    · split at found
      · cases found
        trivial
      · split at found
        · rename_i serves
          cases found
          exact serves.2
        · split at found
          · rename_i checks
            cases found
            exact checks.2
          · cases found

/-- What a plan names is there to be run, or to be explained. -/
def Names (cli : Cli) : Plan → Prop
  | .commandHelp name => (cli.find name).isSome = true
  | .builtin command _ => Selects cli (.builtin command)
  | .custom index _ => Selects cli (.custom index)
  | _ => True

theorem plan_there (args : List String) : Names cli (cli.plan args) := by
  cases args with
  | nil =>
    rw [plan]
    by_cases bare : (cli.entry.args.isEmpty && cli.serve.isSome) = true
    · rw [if_pos bare]
      exact (Bool.and_eq_true_iff.mp bare).2
    · rw [if_neg bare]
      trivial
  | cons first rest =>
    rw [plan.eq_def]
    simp only
    by_cases bare : (cli.entry.args.isEmpty && cli.serve.isSome && isConnectFlag first) = true
    · rw [if_pos bare]
      exact (Bool.and_eq_true_iff.mp (Bool.and_eq_true_iff.mp bare).1).2
    rw [if_neg bare]
    by_cases asks : (isHelpFlag first || first == "help") = true
    · rw [if_pos asks]
      cases rest with
      | nil => trivial
      | cons name more =>
        by_cases known : (cli.find name).isSome = true
        · simp only [if_pos known]
          exact known
        · simp only [if_neg known]
          trivial
    rw [if_neg asks]
    cases found : cli.find first with
    | none => trivial
    | some target =>
      by_cases helped : rest.any isHelpFlag = true
      · simp only [if_pos helped]
        exact Option.isSome_of_mem found
      · simp only [if_neg helped]
        cases target with
        | builtin command => exact find_there found
        | custom index => exact find_there found

/-! ## Lines that are refused -/

/-- The same commands and the same entry, with closures of the author's that may differ. -/
structure Alike (one other : Cli) : Prop where
  entry : other.entry = one.entry
  description : other.description = one.description
  binName : other.binName = one.binName
  serve : other.serve.isSome = one.serve.isSome
  health : other.health.isSome = one.health.isSome
  custom : other.custom.map Prod.fst = one.custom.map Prod.fst
  remoteConnector : other.remoteConnector.isSome = one.remoteConnector.isSome

namespace Alike

theorem commandList (alike : cli.Alike other) : other.commandList = cli.commandList := by
  simp only [Cli.commandList,alike.serve,alike.health,alike.custom]

theorem find (alike : cli.Alike other) (name : String) : other.find name = cli.find name := by
  simp only [Cli.find,alike.serve,alike.health,alike.custom]

theorem plan (alike : cli.Alike other) (args : List String) : other.plan args = cli.plan args := by
  cases args with
  | nil => simp only [Cli.plan,alike.entry,alike.serve]
  | cons first rest => simp only [Cli.plan,alike.entry,alike.serve,alike.find]

theorem program (alike : cli.Alike other) (currentExe : Option String) :
    other.program currentExe = cli.program currentExe := by
  simp only [Cli.program,alike.entry,alike.binName]

theorem unknown (alike : cli.Alike other) (name : String) (files : Files) :
    other.unknown host name files = cli.unknown host name files := by
  simp only [Cli.unknown,Cli.help,alike.program,alike.commandList,alike.description]

theorem usageError (alike : cli.Alike other) (message command : String) (files : Files) :
    other.usageError host message command files = cli.usageError host message command files := by
  simp only [Cli.usageError,Cli.commandHelp,alike.program,alike.commandList]

theorem namedBy (alike : cli.Alike other) (argv : List String) :
    (cli.namedBy argv).Alike (other.namedBy argv) where
  entry := alike.entry
  description := alike.description
  binName := by simp only [Cli.namedBy,alike.binName]
  serve := alike.serve
  health := alike.health
  custom := alike.custom
  remoteConnector := alike.remoteConnector

end Alike

/-- Where a run is refused it prints nothing but what is wrong, and any command line with the
same commands is refused in the same words, over any files, which it leaves as they are. -/
def RefusesAlone (run : Cli → Files → Ran) (cli : Cli) : Prop :=
  ∀ files, (run cli files).exit = .usage → (run cli files).out = "" ∧
    ∀ other others, cli.Alike other → run other others = { run cli files with files := others }

theorem finish_ran (result : Except String Unit × Files) : (Ran.finish result).exit ≠ .usage := by
  rcases result with ⟨_ | _,files⟩ <;> nofun

theorem dialed_ran (result : Except String Unit) (files : Files) :
    (dialed result files).exit ≠ .usage := finish_ran _

theorem probed_ran (result : Except String String) (files : Files) :
    (probed result files).exit ≠ .usage := by
  cases result <;> nofun

theorem report_ran {result : Report × Files} (went : result.1.outcome ≠ .usage) :
    (Ran.report result).exit ≠ .usage := by
  obtain ⟨⟨text,outcome⟩,files⟩ := result
  cases outcome with
  | usage => exact (went rfl).elim
  | _ => nofun

theorem turns_outcome (turns : List ClientTurn) : ClientTurn.outcome turns ≠ .usage := by
  unfold ClientTurn.outcome
  split <;> nofun

/-- Selectors that pass are not refused afterwards. -/
theorem select_passed {clients : List McpClient} {selectors : List String}
    (passed : selectorError clients selectors = none) : ∃ picked,
    select clients selectors = .ok picked := by
  unfold select
  rw [passed]
  split <;> exact ⟨_,rfl⟩

theorem install_went {machine : Machine} {entry : ServerEntry} {clients : List McpClient}
    {selectors : List String} (passed : selectorError clients selectors = none) (files : Files) :
    (SmlMcps.install machine entry clients selectors files).1.outcome ≠ .usage := by
  unfold SmlMcps.install
  split
  · nofun
  · obtain ⟨picked,selected⟩ := select_passed passed
    rw [selected]
    exact turns_outcome _

theorem uninstall_went {entry : ServerEntry} {clients : List McpClient}
    {selectors : List String} (passed : selectorError clients selectors = none) (files : Files) :
    (SmlMcps.uninstall entry clients selectors files).1.outcome ≠ .usage := by
  unfold SmlMcps.uninstall
  split
  · nofun
  · obtain ⟨picked,selected⟩ := select_passed passed
    rw [selected]
    exact turns_outcome _

theorem unknown_alone (name : String) :
    RefusesAlone (fun cli => cli.unknown host name) cli :=
  fun _ _ => ⟨rfl,fun _ _ alike => alike.unknown name _⟩

theorem usageError_alone (message command : String) :
    RefusesAlone (fun cli => cli.usageError host message command) cli :=
  fun _ _ => ⟨rfl,fun _ _ alike => alike.usageError message command _⟩

theorem install_alone (args : List String) :
    RefusesAlone (fun cli => cli.install host args) cli := by
  intro files refused
  simp only [install] at refused ⊢
  cases parsed : HarnessArgs.parse args with
  | error message => exact usageError_alone message "install" files rfl
  | ok asked =>
    simp only [parsed] at refused ⊢
    cases named : selectorError host.allClients asked.selectors with
    | some message => exact ⟨rfl,fun _ _ _ => rfl⟩
    | none =>
      simp only [named] at refused
      rcases hooked : runHook cli.beforeInstall args files with ⟨_ | _,after⟩
      · simp [hooked] at refused
      · simp only [hooked] at refused
        exact (report_ran (install_went named after) refused).elim

theorem uninstall_alone (args : List String) :
    RefusesAlone (fun cli => cli.uninstall host args) cli := by
  intro files refused
  simp only [uninstall] at refused ⊢
  cases parsed : HarnessArgs.parse args with
  | error message => exact usageError_alone message "uninstall" files rfl
  | ok asked =>
    simp only [parsed] at refused ⊢
    cases named : selectorError host.allClients asked.selectors with
    | some message => exact ⟨rfl,fun _ _ _ => rfl⟩
    | none =>
      simp only [named] at refused
      have went := report_ran (@uninstall_went cli.entry _ _ named files)
      generalize Ran.report (SmlMcps.uninstall cli.entry host.allClients asked.selectors files) =
        removals at refused went
      rcases hooked : runHook cli.afterUninstall args removals.files with ⟨_ | _,after⟩
      · simp [hooked] at refused
      · simp only [hooked] at refused
        exact (went refused).elim

theorem localServe_alone (args : List String) :
    RefusesAlone (fun cli => cli.localServe host args) cli := by
  intro files refused
  simp only [localServe] at refused ⊢
  cases serves : cli.serve with
  | some handler =>
    simp only [serves] at refused
    exact (finish_ran _ refused).elim
  | none =>
    refine ⟨rfl,fun other others alike => ?_⟩
    have none_ := alike.serve
    rw [serves] at none_
    rw [Option.isNone_iff_eq_none.mp (Option.isSome_eq_false_iff.mp none_)]
    exact alike.unknown "serve" others

theorem runServe_alone (args : List String) :
    RefusesAlone (fun cli => cli.runServe host args) cli := by
  intro files refused
  simp only [runServe] at refused ⊢
  cases dials : cli.remoteConnector with
  | none =>
    simp only [dials] at refused
    obtain ⟨silent,same⟩ := localServe_alone args files refused
    refine ⟨silent,fun other others alike => ?_⟩
    have none_ := alike.remoteConnector
    rw [dials] at none_
    rw [Option.isNone_iff_eq_none.mp (Option.isSome_eq_false_iff.mp none_)]
    exact same other others alike
  | some connector =>
    have dials' {other : Cli} (alike : cli.Alike other) :
        ∃ connector, other.remoteConnector = some connector := by
      have some_ := alike.remoteConnector
      rw [dials] at some_
      exact Option.isSome_iff_exists.mp some_
    simp only [dials] at refused ⊢
    cases found : connectFromArgs args with
    | error message =>
      refine ⟨rfl,fun other others alike => ?_⟩
      obtain ⟨connector',dials'⟩ := dials' alike
      rw [dials']
      exact alike.usageError _ _ others
    | ok addr =>
      cases addr with
      | none =>
        simp only [found] at refused
        obtain ⟨silent,same⟩ := localServe_alone args files refused
        refine ⟨silent,fun other others alike => ?_⟩
        obtain ⟨connector',dials'⟩ := dials' alike
        rw [dials']
        exact same other others alike
      | some addr =>
        by_cases conflict : args.any localFlag = true
        · simp only [if_pos conflict]
          refine ⟨rfl,fun other others alike => ?_⟩
          obtain ⟨connector',dials'⟩ := dials' alike
          rw [dials']
          exact alike.usageError _ _ others
        · simp only [found,if_neg conflict] at refused
          exact (dialed_ran _ _ refused).elim

theorem runHealth_alone {handler : Handler} (checks : cli.health = some handler)
    (args : List String) : RefusesAlone (fun cli files => match cli.health with
      | some handler => cli.runHealth host handler args files
      | none => cli.unknown host "health" files) cli := by
  intro files refused
  simp only [checks,runHealth] at refused ⊢
  cases found : connectFromArgs args with
  | error message =>
    refine ⟨rfl,fun other others alike => ?_⟩
    have some_ := alike.health
    rw [checks] at some_
    obtain ⟨handler',checks'⟩ := Option.isSome_iff_exists.mp some_
    rw [checks']
    exact alike.usageError _ _ others
  | ok addr =>
    cases addr with
    | none =>
      simp only [found] at refused
      exact (finish_ran _ refused).elim
    | some addr =>
      simp only [found] at refused
      exact (probed_ran _ _ refused).elim

theorem runPlan_alone {plan : Plan} (names : Names cli plan) :
    RefusesAlone (fun cli => cli.runPlan host plan) cli := by
  intro files refused
  cases plan with
  | help => cases refused
  | commandHelp name =>
    have known : (cli.commandHelp host.currentExe name).isSome = true :=
      (commandHelp_isSome _ name).trans names
    obtain ⟨help,there⟩ := Option.isSome_iff_exists.mp known
    simp only [runPlan,there] at refused
    cases refused
  | builtin command args =>
    cases command with
    | install => exact install_alone args files refused
    | uninstall => exact uninstall_alone args files refused
    | serve => exact runServe_alone args files refused
    | health =>
      obtain ⟨handler,checks⟩ := Option.isSome_iff_exists.mp names
      simp only [runPlan] at refused ⊢
      have alone := @runHealth_alone cli host handler checks args files
      simp only [checks] at refused alone ⊢
      exact alone refused
  | custom index args =>
    have there : cli.custom[index]? = some cli.custom[index] := List.getElem?_eq_getElem names
    simp only [runPlan,there] at refused
    exact (finish_ran _ refused).elim
  | unknown name => exact unknown_alone name files refused

/-- What a refused command line comes to does not depend on the author's closures, which are not
run, or on any file, and no file is changed. -/
theorem refused_alone (cli : Cli) (host : Host) (argv : List String) (files : Files)
    (refused : (cli.runFrom host argv files).exit = .usage) :
    (cli.runFrom host argv files).out = "" ∧ ∀ other others, cli.Alike other →
      other.runFrom host argv others = { cli.runFrom host argv files with files := others } := by
  obtain ⟨silent,same⟩ := runPlan_alone (plan_there (argv.drop 1)) files refused
  refine ⟨silent,fun other others alike => ?_⟩
  have named := alike.namedBy argv
  simp only [runFrom,named.plan]
  exact same _ others named

/-- A server whose install writes a key first. -/
def keyedCli : Cli where
  entry := .new "my-mcp" ["serve"]
  beforeInstall := some fun _ files => (.ok (),files.writeAtomically ["home","u",".key"] "k")

def cursorHost : Host where
  json := JsonClient.firstText
  toml := CodexClient.codexText
  currentExe := some "/bin/my-mcp"
  platform := .linux
  home := some ["home","u"]
  probe _ := .error "no route"

/-- A client's name is mistyped. -/
theorem refused_alone_cursur :
    (keyedCli.runFrom cursorHost ["my-mcp","install","--client","cursur"]
      JsonClient.freshFiles).out = "" ∧
    ∀ other others, keyedCli.Alike other →
      other.runFrom cursorHost ["my-mcp","install","--client","cursur"] others =
        { keyedCli.runFrom cursorHost ["my-mcp","install","--client","cursur"]
            JsonClient.freshFiles with files := others } :=
  refused_alone keyedCli cursorHost ["my-mcp","install","--client","cursur"]
    JsonClient.freshFiles (by decide +kernel)

end Cli
end SmlMcps
