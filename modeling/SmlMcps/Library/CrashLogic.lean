import Mathlib.Logic.Function.Basic
import Mathlib.Data.List.Basic

/-! A logic for programs that change files and may be cut off. A program makes one call after
another; each may fail, and each is seen half done where it takes effect bit by bit. What
holds of the disk at every instant of a run is proved together with what holds when the run
ends: a triple has a condition for each. -/
namespace CrashLogic

/-- Permission bits. -/
abbrev Mode := BitVec 12

/-- Whether a mode grants nothing that another does not. -/
def Mode.within (mode bound : Mode) : Prop := mode &&& ~~~bound = 0

instance (mode bound : Mode) : Decidable (mode.within bound) :=
  inferInstanceAs (Decidable (mode &&& ~~~bound = 0))

theorem Mode.within_refl (mode : Mode) : mode.within mode := by
  simp [Mode.within]

inductive Node where
  | file (contents : List UInt8) (mode : Mode)
  | directory (mode : Mode)
  deriving DecidableEq, Repr

def Node.mode : Node → Mode
  | .file _ mode | .directory mode => mode

variable {P α β : Type}

abbrev Disk (P : Type) := P → Option Node

def Disk.isDirectory (disk : Disk P) (path : P) : Bool :=
  match disk path with
  | some (.directory _) => true
  | _ => false

def Disk.isFile (disk : Disk P) (path : P) : Bool :=
  match disk path with
  | some (.file _ _) => true
  | _ => false

inductive Call (P : Type) where
  /-- Make the directories that are not there, outermost first. -/
  | createDirAll (directories : List P)
  | copy (source target : P)
  | write (path : P) (contents : List UInt8)
  | setPermissions (path : P) (mode : Mode)
  | rename (source target : P)
  | removeFile (path : P)
  deriving DecidableEq

/-- What a call may change. -/
def Call.touched : Call P → List P
  | .createDirAll directories => directories
  | .copy _ target => [target]
  | .write path _ | .setPermissions path _ | .removeFile path => [path]
  | .rename source target => [source,target]

section
variable [DecidableEq P] (umask : Mode)

def Disk.put (disk : Disk P) (path : P) (node : Node) : Disk P := Function.update disk path (some node)

def Disk.erase (disk : Disk P) (path : P) : Disk P := Function.update disk path none

/-- The mode of a file that is opened for writing: its own, or that of a new one. -/
def Disk.createdMode (disk : Disk P) (path : P) : Mode :=
  match disk path with
  | some (.file _ mode) => mode
  | _ => 0o666 &&& ~~~umask

def Disk.makeDirectories (disk : Disk P) (directories : List P) : Disk P := fun path =>
  if path ∈ directories ∧ disk path = none then some (.directory (0o777 &&& ~~~umask))
  else disk path

/-- What a call does when it succeeds; `none` where it cannot. -/
def Call.perform (disk : Disk P) : Call P → Option (Disk P)
  | .createDirAll directories =>
    if directories.any disk.isFile then none else some (disk.makeDirectories umask directories)
  | .copy source target =>
    match disk source with
    | some (.file contents mode) =>
      if disk.isDirectory target then none else some (disk.put target (.file contents mode))
    | _ => none
  | .write path contents =>
    if disk.isDirectory path then none
    else some (disk.put path (.file contents (disk.createdMode umask path)))
  | .setPermissions path mode =>
    match disk path with
    | some (.file contents _) => some (disk.put path (.file contents mode))
    | some (.directory _) => some (disk.put path (.directory mode))
    | none => none
  | .rename source target =>
    match disk source with
    | some (.file contents mode) =>
      if disk.isDirectory target then none
      else some ((disk.erase source).put target (.file contents mode))
    | _ => none
  | .removeFile path => if disk.isFile path then some (disk.erase path) else none

/-- The disk while a call is going on, or where it failed. -/
inductive During : Call P → Disk P → Disk P → Prop
  | before (call : Call P) (disk : Disk P) : During call disk disk
  | made (made more : List P) (disk : Disk P) :
      During (.createDirAll (made ++ more)) disk (disk.makeDirectories umask made)
  /-- The mode of a copy is set on the way. -/
  | copied {source target : P} {disk : Disk P} {contents : List UInt8} {mode : Mode} (n : Nat)
      (among : Mode) (there : disk source = some (.file contents mode))
      (room : disk.isDirectory target = false) :
      During (.copy source target) disk (disk.put target (.file (contents.take n) among))
  | written {path : P} {disk : Disk P} (contents : List UInt8) (n : Nat)
      (room : disk.isDirectory path = false) : During (.write path contents) disk
        (disk.put path (.file (contents.take n) (disk.createdMode umask path)))

end

/-! ## Programs -/

inductive Program (P α : Type) where
  | done (result : α)
  /-- The permissions of what is at a path, if anything is. -/
  | stat (path : P) (next : Option Mode → Program P α)
  | call (call : Call P) (next : Except String Unit → Program P α)

namespace Program

def attempt (asked : Call P) : Program P (Except String Unit) := .call asked .done

def bind : Program P α → (α → Program P β) → Program P β
  | .done result, f => f result
  | .stat path next, f => .stat path fun mode => (next mode).bind f
  | .call asked next, f => .call asked fun outcome => (next outcome).bind f

/-- Go on where there was no error, and return it where there was one. -/
def andThen (first : Program P (Except String Unit)) (next : Program P (Except String Unit)) :
    Program P (Except String Unit) :=
  first.bind fun outcome => match outcome with
    | .ok () => next
    | .error e => .done (.error e)

end Program

/-- Which calls may fail where they could succeed. -/
structure Env (P : Type) where
  umask : Mode
  fallible : Call P → Prop

variable [DecidableEq P] (env : Env P)

def Fails (call : Call P) (disk last : Disk P) : Prop :=
  (env.fallible call ∨ call.perform env.umask disk = none) ∧ During env.umask call disk last

/-- The disk at some instant of a run. -/
def Instant : Program P α → Disk P → Disk P → Prop
  | .done _, disk, last => last = disk
  | .stat path next, disk, last => Instant (next ((disk path).map Node.mode)) disk last
  | .call call next, disk, last =>
    During env.umask call disk last ∨
      (∃ mid, call.perform env.umask disk = some mid ∧ Instant (next (.ok ())) mid last) ∨
      ∃ e mid, Fails env call disk mid ∧ Instant (next (.error e)) mid last

/-- A run to its end, with what it returns. -/
def Ends : Program P α → Disk P → α → Disk P → Prop
  | .done result, disk, a, last => a = result ∧ last = disk
  | .stat path next, disk, a, last => Ends (next ((disk path).map Node.mode)) disk a last
  | .call call next, disk, a, last =>
    (∃ mid, call.perform env.umask disk = some mid ∧ Ends (next (.ok ())) mid a last) ∨
      ∃ e mid, Fails env call disk mid ∧ Ends (next (.error e)) mid a last

/-- From a disk like `before`, every instant is like `crash` and every end like `after`. -/
def Triple (before : Disk P → Prop) (program : Program P α) (after : α → Disk P → Prop)
    (crash : Disk P → Prop) : Prop :=
  ∀ disk, before disk → (∀ last, Instant env program disk last → crash last) ∧
    ∀ a last, Ends env program disk a last → after a last

variable {env} {before crash : Disk P → Prop} {call : Call P} {disk last : Disk P} {path : P}

/-! ## What calls leave alone -/

@[simp] theorem put_same (disk : Disk P) (path : P) (node : Node) :
    disk.put path node path = some node := Function.update_self ..

theorem put_other {other : P} (different : other ≠ path) (node : Node) :
    disk.put path node other = disk other := Function.update_of_ne different ..

@[simp] theorem erase_same (disk : Disk P) (path : P) : disk.erase path path = none :=
  Function.update_self ..

theorem erase_other {other : P} (different : other ≠ path) : disk.erase path other = disk other :=
  Function.update_of_ne different ..

theorem put_put (disk : Disk P) (path : P) (first second : Node) :
    (disk.put path first).put path second = disk.put path second := Function.update_idem ..

theorem erase_put (disk : Disk P) (path : P) (node : Node) :
    (disk.put path node).erase path = disk.erase path := Function.update_idem ..

theorem makeDirectories_other {umask : Mode} {directories : List P} (away : path ∉ directories) :
    disk.makeDirectories umask directories path = disk path :=
  if_neg fun made => away made.1

/-- A call changes what it touches only, also where it is cut off. -/
theorem During.other {umask : Mode} (during : During umask call disk last)
    (away : path ∉ call.touched) : last path = disk path := by
  cases during with
  | before => rfl
  | made front back => exact makeDirectories_other fun member => away (List.mem_append_left _ member)
  | copied n among source target => exact put_other (by simpa [Call.touched] using away) _
  | written contents n target => exact put_other (by simpa [Call.touched] using away) _

theorem perform_other {umask : Mode} (performed : call.perform umask disk = some last)
    (away : path ∉ call.touched) : last path = disk path := by
  cases call with
  | createDirAll directories =>
    simp only [Call.perform,Option.ite_none_left_eq_some,Option.some.injEq] at performed
    rw [← performed.2]
    exact makeDirectories_other away
  | copy source target =>
    simp only [Call.perform] at performed
    split at performed
    · simp only [Option.ite_none_left_eq_some,Option.some.injEq] at performed
      rw [← performed.2]
      exact put_other (by simpa [Call.touched] using away) _
    · cases performed
  | write target contents =>
    simp only [Call.perform,Option.ite_none_left_eq_some,Option.some.injEq] at performed
    rw [← performed.2]
    exact put_other (by simpa [Call.touched] using away) _
  | setPermissions target mode =>
    simp only [Call.perform] at performed
    split at performed
    · rw [← Option.some.inj performed]
      exact put_other (by simpa [Call.touched] using away) _
    · rw [← Option.some.inj performed]
      exact put_other (by simpa [Call.touched] using away) _
    · cases performed
  | rename source target =>
    simp only [Call.touched,List.mem_cons,List.not_mem_nil,or_false,not_or] at away
    simp only [Call.perform] at performed
    split at performed
    · simp only [Option.ite_none_left_eq_some,Option.some.injEq] at performed
      rw [← performed.2,put_other away.2,erase_other away.1]
    · cases performed
  | removeFile target =>
    simp only [Call.perform,Option.ite_none_right_eq_some,Option.some.injEq] at performed
    rw [← performed.2]
    exact erase_other (by simpa [Call.touched] using away)

/-! ## Rules -/

section
variable {first : Program P α} {after : α → Disk P → Prop} {rest : α → Program P β}
  {last' : β → Disk P → Prop}

theorem instant_start (program : Program P α) (disk : Disk P) : Instant env program disk disk := by
  induction program with
  | done result => rfl
  | stat path next ih => exact ih _
  | call asked next ih => exact .inl (.before asked disk)

theorem instant_bind {last : Disk P} : Instant env (first.bind rest) disk last ↔
    Instant env first disk last ∨
      ∃ a mid, Ends env first disk a mid ∧ Instant env (rest a) mid last := by
  induction first generalizing disk with
  | done result =>
    simp only [Program.bind,Instant,Ends]
    constructor
    · exact fun later => .inr ⟨result,disk,⟨rfl,rfl⟩,later⟩
    · rintro (rfl | ⟨a,mid,⟨rfl,rfl⟩,later⟩)
      · exact instant_start _ _
      · exact later
  | stat path next ih => exact ih _
  | call asked next ih =>
    simp only [Program.bind,Instant,Ends,ih]
    constructor
    · rintro (during | ⟨mid,done,now | ⟨a,mid',ended,later⟩⟩ |
        ⟨e,mid,failed,now | ⟨a,mid',ended,later⟩⟩)
      · exact .inl (.inl during)
      · exact .inl (.inr (.inl ⟨mid,done,now⟩))
      · exact .inr ⟨a,mid',.inl ⟨mid,done,ended⟩,later⟩
      · exact .inl (.inr (.inr ⟨e,mid,failed,now⟩))
      · exact .inr ⟨a,mid',.inr ⟨e,mid,failed,ended⟩,later⟩
    · rintro ((during | ⟨mid,done,now⟩ | ⟨e,mid,failed,now⟩) |
        ⟨a,mid',⟨mid,done,ended⟩ | ⟨e,mid,failed,ended⟩,later⟩)
      · exact .inl during
      · exact .inr (.inl ⟨mid,done,.inl now⟩)
      · exact .inr (.inr ⟨e,mid,failed,.inl now⟩)
      · exact .inr (.inl ⟨mid,done,.inr ⟨a,mid',ended,later⟩⟩)
      · exact .inr (.inr ⟨e,mid,failed,.inr ⟨a,mid',ended,later⟩⟩)

theorem ends_bind {b : β} {last : Disk P} : Ends env (first.bind rest) disk b last ↔
    ∃ a mid, Ends env first disk a mid ∧ Ends env (rest a) mid b last := by
  induction first generalizing disk with
  | done result =>
    simp only [Program.bind,Ends]
    constructor
    · exact fun later => ⟨result,disk,⟨rfl,rfl⟩,later⟩
    · rintro ⟨a,mid,⟨rfl,rfl⟩,later⟩
      exact later
  | stat path next ih => exact ih _
  | call asked next ih =>
    simp only [Program.bind,Ends,ih]
    constructor
    · rintro (⟨mid,done,a,mid',ended,later⟩ | ⟨e,mid,failed,a,mid',ended,later⟩)
      · exact ⟨a,mid',.inl ⟨mid,done,ended⟩,later⟩
      · exact ⟨a,mid',.inr ⟨e,mid,failed,ended⟩,later⟩
    · rintro ⟨a,mid',⟨mid,done,ended⟩ | ⟨e,mid,failed,ended⟩,later⟩
      · exact .inl ⟨mid,done,a,mid',ended,later⟩
      · exact .inr ⟨e,mid,failed,a,mid',ended,later⟩

/-! ### Runs that go on -/

theorem ends_attempt (performed : call.perform env.umask disk = some last) :
    Ends env (.attempt call) disk (.ok ()) last := .inl ⟨last,performed,rfl,rfl⟩

theorem ends_attempt_iff {last : Disk P} : Ends env (.attempt call) disk (.ok ()) last ↔
    call.perform env.umask disk = some last := by
  constructor
  · rintro (⟨mid,performed,-,rfl⟩ | ⟨e,mid,-,other,-⟩)
    · exact performed
    · cases other
  · exact ends_attempt

/-- A chain of steps that ends well went well at each. -/
theorem ends_andThen_iff {first next : Program P (Except String Unit)} {last : Disk P} :
    Ends env (first.andThen next) disk (.ok ()) last ↔
      ∃ mid, Ends env first disk (.ok ()) mid ∧ Ends env next mid (.ok ()) last := by
  rw [Program.andThen,ends_bind]
  constructor
  · rintro ⟨outcome,mid,ended,later⟩
    cases outcome with
    | ok => exact ⟨mid,ended,later⟩
    | error e => cases later.1
  · rintro ⟨mid,ended,later⟩
    exact ⟨.ok (),mid,ended,later⟩

theorem instant_stat {next : Option Mode → Program P α} {mode : Option Mode}
    (seen : (disk path).map Node.mode = mode) (later : Instant env (next mode) disk last) :
    Instant env (.stat path next) disk last := by
  subst seen
  exact later

theorem instant_andThen {first next : Program P (Except String Unit)} {mid : Disk P}
    (ended : Ends env first disk (.ok ()) mid) (later : Instant env next mid last) :
    Instant env (first.andThen next) disk last := instant_bind.mpr (.inr ⟨.ok (),mid,ended,later⟩)

namespace Triple

theorem done {result : α} (ended : ∀ disk, before disk → after result disk ∧ crash disk) :
    Triple env before (.done result) after crash := by
  intro disk holds
  refine ⟨?_,?_⟩
  · rintro last rfl
    exact (ended _ holds).2
  · rintro a last ⟨rfl,rfl⟩
    exact (ended _ holds).1

/-- The mode that is seen is the one there is. -/
theorem stat {next : Option Mode → Program P α}
    (seen : ∀ mode, Triple env (fun disk => before disk ∧ (disk path).map Node.mode = mode)
      (next mode) after crash) : Triple env before (.stat path next) after crash :=
  fun disk holds => seen _ disk ⟨holds,rfl⟩

theorem bind {between : α → Disk P → Prop} (front : Triple env before first between crash)
    (back : ∀ a, Triple env (between a) (rest a) last' crash) :
    Triple env before (first.bind rest) last' crash := by
  intro disk holds
  obtain ⟨instants,ends⟩ := front disk holds
  constructor
  · intro last reached
    obtain now | ⟨a,mid,ended,later⟩ := instant_bind.mp reached
    · exact instants last now
    · exact (back a mid (ends a mid ended)).1 last later
  · intro b last ended
    obtain ⟨a,mid,ended,later⟩ := ends_bind.mp ended
    exact (back a mid (ends a mid ended)).2 b last later

/-- What is known before may be more than what is needed, and what is needed after less. -/
theorem weaken {before' : Disk P → Prop} {after' : α → Disk P → Prop}
    (triple : Triple env before first after crash) (front : ∀ disk, before' disk → before disk)
    (back : ∀ a disk, after a disk → after' a disk) : Triple env before' first after' crash := by
  intro disk holds
  obtain ⟨instants,ends⟩ := triple disk (front disk holds)
  exact ⟨instants,fun a last ended => back a last (ends a last ended)⟩

/-- What the disk at the start tells about something else. -/
theorem suppose {fact : Prop} (known : ∀ disk, before disk → fact)
    (triple : fact → Triple env before first after crash) : Triple env before first after crash :=
  fun disk holds => triple (known disk holds) disk holds

theorem andThen {first next : Program P (Except String Unit)}
    {between after : Except String Unit → Disk P → Prop}
    (front : Triple env before first between crash)
    (back : Triple env (between (.ok ())) next after crash)
    (failed : ∀ e disk, between (.error e) disk → after (.error e) disk ∧ crash disk) :
    Triple env before (first.andThen next) after crash := by
  apply bind front
  intro outcome
  cases outcome with
  | ok => exact back
  | error e => exact done (failed e)

/-- A call: what holds while it is going on, and how it may end. -/
theorem attempt {after : Except String Unit → Disk P → Prop}
    (during : ∀ disk last, before disk → During env.umask call disk last → crash last)
    (performed : ∀ disk last, before disk → call.perform env.umask disk = some last →
      after (.ok ()) last ∧ crash last)
    (failed : ∀ e disk last, before disk → Fails env call disk last → after (.error e) last) :
    Triple env before (.attempt call) after crash := by
  intro disk holds
  constructor
  · rintro last (now | ⟨mid,done,rfl⟩ | ⟨e,mid,failure,rfl⟩)
    · exact during disk last holds now
    · exact (performed disk _ holds done).2
    · exact during disk _ holds failure.2
  · rintro a last (⟨mid,done,rfl,rfl⟩ | ⟨e,mid,failure,rfl,rfl⟩)
    · exact (performed disk _ holds done).1
    · exact failed e disk _ holds failure

end Triple
end

end CrashLogic
