import SmlMcps.Library.CrashLogic
import SmlMcps.ConfigFiles

/-! Writing a config. The new contents go into a staging file beside it, which is renamed into
its place; what was there before is copied first. Every call can fail and the process can be
gone at any instant, also between two bytes. -/
namespace SmlMcps

open CrashLogic

namespace Path

/-- The directories above a path, outermost first. -/
def ancestors (path : Path) : List Path := (List.range path.length).map path.take

/-- Where a config is staged, by the id of the process. -/
def stagingPath (pid : Nat) (path : Path) : Path :=
  appended path (".sml_mcps." ++ toString pid ++ ".tmp")

theorem length_of_mem_ancestors {path other : Path} (member : other ∈ ancestors path) :
    other.length < path.length := by
  simp only [ancestors,List.mem_map,List.mem_range] at member
  obtain ⟨n,inside,rfl⟩ := member
  rw [List.length_take]
  omega

theorem length_appended (path : Path) (suffix : String) :
    path.length ≤ (appended path suffix).length := by
  rw [appended,List.length_append,List.length_dropLast,List.length_singleton]
  omega

theorem appended_away (path : Path) (suffix : String) : appended path suffix ∉ ancestors path :=
  fun member => absurd (length_of_mem_ancestors member) (Nat.not_lt.mpr (length_appended path suffix))

theorem self_away (path : Path) : path ∉ ancestors path :=
  fun member => absurd (length_of_mem_ancestors member) (Nat.lt_irrefl _)

theorem appended_length {path : Path} {suffix other : String}
    (same : appended path suffix = appended path other) : suffix.length = other.length := by
  have last := congrArg List.getLast? same
  rw [appended,appended,List.getLast?_concat,List.getLast?_concat,Option.some.injEq] at last
  have length := congrArg String.length last
  rw [String.length_append,String.length_append] at length
  omega

theorem staging_ne (pid : Nat) (path : Path) : stagingPath pid path ≠ path := by
  apply appended_ne
  intro empty
  have length := congrArg String.length empty
  rw [String.length_append] at length
  exact absurd (Nat.add_eq_zero_iff.mp length).2 (by decide)

theorem backup_ne (path : Path) : backupPath path ≠ path := appended_ne path (by decide)

theorem staging_ne_backup (pid : Nat) (path : Path) : stagingPath pid path ≠ backupPath path := by
  intro same
  have length := appended_length same
  rw [String.length_append,String.length_append] at length
  have front : ".sml_mcps.".length = 10 := rfl
  have back : ".bak".length = 4 := rfl
  omega

end Path

namespace StagedWrite

/-- Run the steps that follow a staging file into existence, removing it if any fails. -/
def staged (staging : Path) (write : Program Path (Except String Unit)) :
    Program Path (Except String Unit) :=
  write.bind fun outcome => match outcome with
    | .ok () => .done (.ok ())
    | .error e => (Program.attempt (.removeFile staging)).bind fun _ => .done (.error e)

section
variable (pid : Nat) (path : Path) (contents : List UInt8)

/-- `writeAtomically` with the commit step supplied. -/
def writeStaged (commit : Path → Path → Call Path) : Program Path (Except String Unit) :=
  let staging := path.stagingPath pid
  (match path.parent with
    | some _ => Program.attempt (.createDirAll path.ancestors)
    | none => .done (.ok ())).andThen <|
  -- Asked before anything is written: the last moment the file can be asked for its mode.
  .stat path fun mode =>
  .stat path fun found =>
  (if found.isSome then Program.attempt (.copy path path.backupPath)
    else .done (.ok ())).andThen <|
  staged staging <|
    (Program.attempt (.write staging contents)).andThen <|
    (match mode with
      | some mode => Program.attempt (.setPermissions staging mode)
      | none => .done (.ok ())).andThen <|
    Program.attempt (commit staging path)

/-- Write `contents` to `path`, keeping a copy of what was there before. -/
def writeAtomically : Program Path (Except String Unit) := writeStaged pid path contents .rename

end

/-! ## What the disk is like -/

variable {pid : Nat} {path : Path} {contents : List UInt8} {env : Env Path} {disk : Disk Path}

/-- The write cannot get as far as the staging file. -/
def Obstructed (pid : Nat) (path : Path) (disk : Disk Path) : Prop :=
  path.ancestors.any disk.isFile = true ∨ disk.isDirectory path.backupPath = true ∨
    disk.isDirectory (path.stagingPath pid) = true

/-- What is at the target and at the staging path, at any instant of a write. -/
structure Described (umask : Mode) (pid : Nat) (path : Path) (contents : List UInt8)
    (disk last : Disk Path) : Prop where
  target : last path = disk path ∨ ∃ mode, last path = some (.file contents mode) ∧
    ∀ bound, (disk path).map Node.mode = some bound → mode = bound
  staging : last (path.stagingPath pid) = disk (path.stagingPath pid) ∨
    last (path.stagingPath pid) = none ∨
    ∃ n mode, last (path.stagingPath pid) = some (.file (contents.take n) mode) ∧
      (mode = disk.createdMode umask (path.stagingPath pid) ∨
        (disk path).map Node.mode = some mode) ∧
      ((disk path).isSome = true → ¬Obstructed pid path disk)

/-- Nothing is at the target and the staging path but what was there. -/
structure Untouched (pid : Nat) (path : Path) (disk now : Disk Path) : Prop where
  target : now path = disk path
  staging : now (path.stagingPath pid) = disk (path.stagingPath pid)

theorem Untouched.described {umask : Mode} {now : Disk Path} (same : Untouched pid path disk now) :
    Described umask pid path contents disk now := ⟨.inl same.target,.inl same.staging⟩

theorem Untouched.during {umask : Mode} {call : Call Path} {now last : Disk Path}
    (same : Untouched pid path disk now) (during : During umask call now last)
    (target : path ∉ call.touched) (staging : path.stagingPath pid ∉ call.touched) :
    Untouched pid path disk last :=
  ⟨(during.other target).trans same.target,(during.other staging).trans same.staging⟩

theorem Untouched.perform {umask : Mode} {call : Call Path} {now last : Disk Path}
    (same : Untouched pid path disk now) (performed : call.perform umask now = some last)
    (target : path ∉ call.touched) (staging : path.stagingPath pid ∉ call.touched) :
    Untouched pid path disk last :=
  ⟨(perform_other performed target).trans same.target,
    (perform_other performed staging).trans same.staging⟩

/-- How the parts of a write before the staging file end. -/
def Prepared (pid : Nat) (path : Path) (disk : Disk Path) (open_ : Prop) :
    Except String Unit → Disk Path → Prop
  | .ok (), now => Untouched pid path disk now ∧ now path.backupPath = disk path.backupPath ∧ open_
  | .error _, now => Untouched pid path disk now

theorem directories_triple : Triple env (fun now => now = disk)
    (match path.parent with
      | some _ => Program.attempt (.createDirAll path.ancestors)
      | none => .done (.ok ()))
    (Prepared pid path disk (path.ancestors.any disk.isFile = false))
    (Described env.umask pid path contents disk) := by
  have start : Untouched pid path disk disk := ⟨rfl,rfl⟩
  have target : path ∉ (Call.createDirAll path.ancestors).touched := path.self_away
  have staging : path.stagingPath pid ∉ (Call.createDirAll path.ancestors).touched :=
    path.appended_away _
  cases above : path.parent with
  | none =>
    apply Triple.done
    rintro now rfl
    have root : path = [] := by simpa [Path.parent] using above
    exact ⟨⟨start,rfl,by simp [root,Path.ancestors]⟩,start.described⟩
  | some parent =>
    apply Triple.attempt
    · rintro now last rfl during
      exact (start.during during target staging).described
    · rintro now last rfl performed
      have same := start.perform performed target staging
      have free : path.ancestors.any now.isFile = false := by
        simp only [Call.perform,Option.ite_none_left_eq_some] at performed
        simpa using performed.1
      exact ⟨⟨same,perform_other performed (path.appended_away _),free⟩,same.described⟩
    · rintro e now last rfl failed
      exact start.during failed.2 target staging

/-- Nothing is in the way of a copy of what is replaced. -/
def Copied (path : Path) (disk : Disk Path) : Prop :=
  (disk path).isSome = true → path.ancestors.any disk.isFile = false ∧
    disk.isDirectory path.backupPath = false

def Backed (pid : Nat) (path : Path) (disk : Disk Path) : Except String Unit → Disk Path → Prop
  | .ok (), now => Untouched pid path disk now ∧ Copied path disk
  | .error _, now => Untouched pid path disk now

theorem isDirectory_congr {now : Disk Path} {other : Path} (same : now other = disk other) :
    now.isDirectory other = disk.isDirectory other := by
  rw [Disk.isDirectory,Disk.isDirectory,same]

theorem copy_triple (found : Option Mode) : Triple env
    (fun now => Prepared pid path disk (path.ancestors.any disk.isFile = false) (.ok ()) now ∧
      (now path).map Node.mode = found)
    (if found.isSome then Program.attempt (.copy path path.backupPath) else .done (.ok ()))
    (Backed pid path disk) (Described env.umask pid path contents disk) := by
  have target : path ∉ (Call.copy path path.backupPath).touched := by
    simpa [Call.touched] using path.backup_ne.symm
  have staging : path.stagingPath pid ∉ (Call.copy path path.backupPath).touched := by
    simpa [Call.touched] using path.staging_ne_backup pid
  cases found with
  | none =>
    apply Triple.done
    rintro now ⟨⟨same,-,-⟩,unseen⟩
    have absent : disk path = none := by simpa [same.target] using unseen
    exact ⟨⟨same,fun there => by simp [absent] at there⟩,same.described⟩
  | some mode =>
    apply Triple.attempt
    · rintro now last ⟨⟨same,-,-⟩,-⟩ during
      exact (same.during during target staging).described
    · rintro now last ⟨⟨same,backup,free⟩,-⟩ performed
      have after := same.perform performed target staging
      refine ⟨⟨after,fun _ => ⟨free,?_⟩⟩,after.described⟩
      simp only [Call.perform] at performed
      split at performed
      · simp only [Option.ite_none_left_eq_some,Bool.not_eq_true] at performed
        rw [← isDirectory_congr backup]
        exact performed.1
      · cases performed
    · rintro e now last ⟨⟨same,-,-⟩,-⟩ failed
      exact same.during failed.2 target staging

/-! ### Behind the copy -/

/-- The new contents are at the staging path, with this mode. -/
structure Standing (pid : Nat) (path : Path) (contents : List UInt8) (disk : Disk Path)
    (mode : Mode) (now : Disk Path) : Prop where
  target : now path = disk path
  staging : now (path.stagingPath pid) = some (.file contents mode)
  clear : (disk path).isSome = true → ¬Obstructed pid path disk

theorem Standing.described {umask mode : Mode} {now : Disk Path}
    (standing : Standing pid path contents disk mode now)
    (given : mode = disk.createdMode umask (path.stagingPath pid) ∨
      (disk path).map Node.mode = some mode) : Described umask pid path contents disk now where
  target := .inl standing.target
  staging := .inr (.inr ⟨contents.length,mode,by rw [standing.staging,List.take_length],given,
    standing.clear⟩)

/-- Where a step behind the copy failed: what is at the target is still what was there. -/
structure Failed (umask : Mode) (pid : Nat) (path : Path) (contents : List UInt8)
    (disk now : Disk Path) : Prop where
  target : now path = disk path
  described : Described umask pid path contents disk now

theorem Copied.clear (copied : Copied path disk)
    (room : disk.isDirectory (path.stagingPath pid) = false) :
    (disk path).isSome = true → ¬Obstructed pid path disk := by
  intro some
  obtain ⟨free,backup⟩ := copied some
  simp [Obstructed,free,backup,room]

theorem createdMode_congr {umask : Mode} {now : Disk Path} {other : Path}
    (same : now other = disk other) : now.createdMode umask other = disk.createdMode umask other := by
  rw [Disk.createdMode,Disk.createdMode,same]

theorem write_triple : Triple env (Backed pid path disk (.ok ()))
    (Program.attempt (.write (path.stagingPath pid) contents))
    (fun outcome now => match outcome with
      | .ok () => Standing pid path contents disk
          (disk.createdMode env.umask (path.stagingPath pid)) now
      | .error _ => Failed env.umask pid path contents disk now)
    (Described env.umask pid path contents disk) := by
  have away : path ∉ (Call.write (path.stagingPath pid) contents).touched := by
    simpa [Call.touched] using (path.staging_ne pid).symm
  have during : ∀ now last, Backed pid path disk (.ok ()) now →
      During env.umask (.write (path.stagingPath pid) contents) now last →
      Failed env.umask pid path contents disk last := by
    rintro now last ⟨same,copied⟩ during
    have target := (during.other away).trans same.target
    refine ⟨target,.inl target,?_⟩
    cases during with
    | before => exact .inl same.staging
    | written _ n room =>
      rw [isDirectory_congr same.staging] at room
      exact .inr (.inr ⟨n,_,put_same _ _ _,.inl (createdMode_congr same.staging),copied.clear room⟩)
  apply Triple.attempt
  · exact fun now last backed now' => (during now last backed now').described
  · rintro now last ⟨same,copied⟩ performed
    have target := (perform_other performed away).trans same.target
    simp only [Call.perform,Option.ite_none_left_eq_some,Option.some.injEq] at performed
    obtain ⟨room,rfl⟩ := performed
    rw [isDirectory_congr same.staging,Bool.not_eq_true] at room
    have standing : Standing pid path contents disk
        (disk.createdMode env.umask (path.stagingPath pid))
        (now.put (path.stagingPath pid) (.file contents (now.createdMode env.umask
          (path.stagingPath pid)))) :=
      ⟨target,by rw [put_same,createdMode_congr same.staging],copied.clear room⟩
    exact ⟨standing,standing.described (.inl rfl)⟩
  · exact fun e now last backed failed => during now last backed failed.2

/-- The staging file as it is renamed: with the mode of what is replaced, if anything is. -/
def Carrying (umask : Mode) (pid : Nat) (path : Path) (contents : List UInt8) (disk now : Disk Path) :
    Prop :=
  ∃ mode, Standing pid path contents disk mode now ∧
    (mode = disk.createdMode umask (path.stagingPath pid) ∨
      (disk path).map Node.mode = some mode) ∧
    ∀ bound, (disk path).map Node.mode = some bound → mode = bound

theorem permissions_triple (mode : Option Mode) (seen : (disk path).map Node.mode = mode) :
    Triple env
      (Standing pid path contents disk (disk.createdMode env.umask (path.stagingPath pid)))
      (match mode with
        | some mode => Program.attempt (.setPermissions (path.stagingPath pid) mode)
        | none => .done (.ok ()))
      (fun outcome now => match outcome with
        | .ok () => Carrying env.umask pid path contents disk now
        | .error _ => Failed env.umask pid path contents disk now)
      (Described env.umask pid path contents disk) := by
  cases mode with
  | none =>
    apply Triple.done
    intro now standing
    exact ⟨⟨_,standing,.inl rfl,fun bound there => by simp [seen] at there⟩,
      standing.described (.inl rfl)⟩
  | some mode =>
    have away : path ∉ (Call.setPermissions (path.stagingPath pid) mode).touched := by
      simpa [Call.touched] using (path.staging_ne pid).symm
    apply Triple.attempt
    · intro now last standing during
      cases during
      exact standing.described (.inl rfl)
    · intro now last standing performed
      have target := (perform_other performed away).trans standing.target
      simp only [Call.perform,standing.staging,Option.some.injEq] at performed
      subst performed
      have carried : Standing pid path contents disk mode
          (now.put (path.stagingPath pid) (.file contents mode)) :=
        ⟨target,put_same _ _ _,standing.clear⟩
      refine ⟨⟨mode,carried,.inr seen,fun bound there => ?_⟩,carried.described (.inr seen)⟩
      exact Option.some.inj (seen.symm.trans there)
    · intro e now last standing failed
      cases failed.2
      exact ⟨standing.target,standing.described (.inl rfl)⟩

/-- The new contents are in place, and nothing is staged. -/
structure Landed (pid : Nat) (path : Path) (contents : List UInt8) (disk now : Disk Path) :
    Prop where
  target : ∃ mode, now path = some (.file contents mode) ∧
    ∀ bound, (disk path).map Node.mode = some bound → mode = bound
  staging : now (path.stagingPath pid) = none

theorem rename_triple : Triple env (Carrying env.umask pid path contents disk)
    (Program.attempt (.rename (path.stagingPath pid) path))
    (fun outcome now => match outcome with
      | .ok () => Landed pid path contents disk now
      | .error _ => Failed env.umask pid path contents disk now)
    (Described env.umask pid path contents disk) := by
  apply Triple.attempt
  · rintro now last ⟨mode,standing,given,-⟩ during
    cases during
    exact standing.described given
  · rintro now last ⟨mode,standing,given,carried⟩ performed
    simp only [Call.perform,standing.staging,Option.ite_none_left_eq_some,
      Option.some.injEq] at performed
    obtain ⟨-,rfl⟩ := performed
    have target : ((now.erase (path.stagingPath pid)).put path (.file contents mode)) path =
        some (.file contents mode) := put_same _ _ _
    have staging : ((now.erase (path.stagingPath pid)).put path (.file contents mode))
        (path.stagingPath pid) = none := by
      rw [put_other (path.staging_ne pid),erase_same]
    exact ⟨⟨⟨mode,target,carried⟩,staging⟩,.inr ⟨mode,target,carried⟩,.inr (.inl staging)⟩
  · rintro e now last ⟨mode,standing,given,-⟩ failed
    cases failed.2
    exact ⟨standing.target,standing.described given⟩

/-- How a whole write ends. -/
def Ended (env : Env Path) (pid : Nat) (path : Path) (contents : List UInt8) (disk : Disk Path) :
    Except String Unit → Disk Path → Prop
  | .ok (), now => Landed pid path contents disk now
  | .error _, now => now path = disk path ∧ (¬env.fallible (.removeFile (path.stagingPath pid)) →
      now (path.stagingPath pid) = none ∨
        now (path.stagingPath pid) = disk (path.stagingPath pid))

/-- A staging file that never landed is removed. -/
theorem cleanup_triple (e : String) : Triple env (Failed env.umask pid path contents disk)
    ((Program.attempt (.removeFile (path.stagingPath pid))).bind fun _ => .done (.error e))
    (Ended env pid path contents disk) (Described env.umask pid path contents disk) := by
  have away : path ∉ (Call.removeFile (path.stagingPath pid)).touched := by
    simpa [Call.touched] using (path.staging_ne pid).symm
  apply @Triple.bind _ _ _ _ _ _ _ _ _ _ (fun _ now => Ended env pid path contents disk (.error e) now ∧
    Described env.umask pid path contents disk now)
  · apply Triple.attempt
    · intro now last failed during
      cases during
      exact failed.described
    · intro now last failed performed
      have target := (perform_other performed away).trans failed.target
      simp only [Call.perform,Option.ite_none_right_eq_some,Option.some.injEq] at performed
      obtain ⟨-,rfl⟩ := performed
      have gone := erase_same now (path.stagingPath pid)
      have described : Described env.umask pid path contents disk
        (now.erase (path.stagingPath pid)) := ⟨.inl target,.inr (.inl gone)⟩
      exact ⟨⟨⟨target,fun _ => .inl gone⟩,described⟩,described⟩
    · rintro e' now last failed ⟨fallible,during⟩
      cases during
      refine ⟨⟨failed.target,fun reliable => ?_⟩,failed.described⟩
      -- What cannot be removed is no file, and the staging file would be one.
      have unmade := fallible.resolve_left reliable
      obtain same | gone | ⟨n,mode,staged,-,-⟩ := failed.described.staging
      · exact .inr same
      · exact .inl gone
      · simp [Call.perform,Disk.isFile,staged] at unmade
  · exact fun _ => Triple.done fun now ended => ended

theorem Untouched.ended {now : Disk Path} {e : String} (same : Untouched pid path disk now) :
    Ended env pid path contents disk (.error e) now ∧
      Described env.umask pid path contents disk now :=
  ⟨⟨same.target,fun _ => .inr same.staging⟩,same.described⟩

theorem Landed.described {umask : Mode} {now : Disk Path}
    (landed : Landed pid path contents disk now) : Described umask pid path contents disk now :=
  ⟨.inr landed.target,.inr (.inl landed.staging)⟩

theorem staged_triple (mode : Option Mode) (seen : (disk path).map Node.mode = mode) :
    Triple env (Backed pid path disk (.ok ()))
      (staged (path.stagingPath pid) <|
        (Program.attempt (.write (path.stagingPath pid) contents)).andThen <|
        (match mode with
          | some mode => Program.attempt (.setPermissions (path.stagingPath pid) mode)
          | none => .done (.ok ())).andThen <|
        Program.attempt (.rename (path.stagingPath pid) path))
      (Ended env pid path contents disk) (Described env.umask pid path contents disk) := by
  apply Triple.bind
  · apply Triple.andThen write_triple
    · apply Triple.andThen (permissions_triple mode seen)
      · exact rename_triple
      · exact fun e now failed => ⟨failed,failed.described⟩
    · exact fun e now failed => ⟨failed,failed.described⟩
  · intro outcome
    cases outcome with
    | ok => exact Triple.done fun now landed => ⟨landed,landed.described⟩
    | error e => exact cleanup_triple e

/-- What every instant and every end of a write is like. -/
theorem writeAtomically_triple : Triple env (fun now => now = disk)
    (writeAtomically pid path contents) (Ended env pid path contents disk)
    (Described env.umask pid path contents disk) := by
  apply Triple.andThen directories_triple
  · apply Triple.stat
    intro mode
    refine Triple.suppose (fun now holds => ?_) fun (seen : (disk path).map Node.mode = mode) => ?_
    · rw [← holds.1.1.target]
      exact holds.2
    · apply Triple.stat
      intro found
      apply Triple.andThen
      · apply Triple.weaken (copy_triple found)
        · rintro now ⟨⟨prepared,-⟩,there⟩
          exact ⟨prepared,there⟩
        · exact fun _ _ after => after
      · exact staged_triple mode seen
      · exact fun e now same => same.ended
  · exact fun e now same => same.ended

/-! ## What a write is safe for -/

/-- Whether a file has the new contents, or some of them. -/
def Holds (contents held : List UInt8) : Prop := held = contents ∨ held ≠ [] ∧ held <+: contents

/-- Whatever fails and wherever the process is gone. -/
structure Safe (umask : Mode) (pid : Nat) (path : Path) (contents : List UInt8)
    (disk : Disk Path) : Prop where
  /-- The target has its old contents or the new ones, complete. -/
  target : ∀ last, Instant ⟨umask,fun _ => True⟩ (writeAtomically pid path contents) disk last →
    last path = disk path ∨ ∃ mode, last path = some (.file contents mode)
  /-- A failed write leaves no staging file behind, where removing it does not fail. -/
  staging : ∀ e last, Ends ⟨umask,fun call => call ≠ .removeFile (path.stagingPath pid)⟩
    (writeAtomically pid path contents) disk (.error e) last →
      last (path.stagingPath pid) = none ∨
        last (path.stagingPath pid) = disk (path.stagingPath pid)
  /-- No file has new contents under a laxer mode than that of the file that is replaced. -/
  secret : ∀ last, Instant ⟨umask,fun _ => True⟩ (writeAtomically pid path contents) disk last →
    ∀ old bound, disk path = some (.file old bound) →
      ∀ place ∈ [path,path.stagingPath pid], ∀ held mode,
        last place = some (.file held mode) → Holds contents held → mode.within bound

/-- The staging path can come to hold new contents, or holds them already. -/
def Exposed (pid : Nat) (path : Path) (contents : List UInt8) (disk : Disk Path) : Prop :=
  ¬Obstructed pid path disk ∨ ∃ held mode,
    disk (path.stagingPath pid) = some (.file held mode) ∧ Holds contents held

theorem createdMode_file {umask mode : Mode} {place : Path} {held : List UInt8}
    (file : disk place = some (.file held mode)) : disk.createdMode umask place = mode := by
  rw [Disk.createdMode,file]

theorem secret_of_within {umask : Mode} {last : Disk Path}
    (within : ∀ old bound, disk path = some (.file old bound) → Exposed pid path contents disk →
      (disk.createdMode umask (path.stagingPath pid)).within bound)
    (described : Described umask pid path contents disk last) {old : List UInt8} {bound : Mode}
    (file : disk path = some (.file old bound)) {place : Path}
    (member : place ∈ [path,path.stagingPath pid]) {held : List UInt8} {mode : Mode}
    (found : last place = some (.file held mode)) (holds : Holds contents held) :
    mode.within bound := by
  have there : (disk path).map Node.mode = some bound := by rw [file]; rfl
  simp only [List.mem_cons,List.not_mem_nil,or_false] at member
  obtain rfl | rfl := member
  · obtain same | ⟨mode',new,carried⟩ := described.target
    · rw [same,file] at found
      obtain ⟨-,rfl⟩ := Node.file.inj (Option.some.inj found)
      exact bound.within_refl
    · rw [new] at found
      obtain ⟨-,rfl⟩ := Node.file.inj (Option.some.inj found)
      rw [carried bound there]
      exact bound.within_refl
  · obtain same | gone | ⟨n,mode',staged,given,clear⟩ := described.staging
    · rw [same] at found
      rw [← createdMode_file found]
      exact within old bound file (.inr ⟨held,mode,found,holds⟩)
    · rw [gone] at found
      cases found
    · rw [staged] at found
      obtain ⟨-,rfl⟩ := Node.file.inj (Option.some.inj found)
      obtain rfl | same := given
      · exact within old bound file (.inl (clear (by simp [file])))
      · obtain rfl := Option.some.inj (same.symm.trans there)
        exact Mode.within_refl _

/-- Unless it is obstructed, a write that replaces a file comes to an instant where the new
contents are at the staging path, under the mode the file was created with. -/
theorem instant_staged {old : List UInt8} {bound : Mode}
    (file : disk path = some (.file old bound)) (clear : ¬Obstructed pid path disk) :
    ∃ last, Instant env (writeAtomically pid path contents) disk last ∧
      last (path.stagingPath pid) =
        some (.file contents (disk.createdMode env.umask (path.stagingPath pid))) := by
  simp only [Obstructed,not_or,Bool.not_eq_true] at clear
  obtain ⟨free,backup,staging⟩ := clear
  obtain ⟨made,ended,same⟩ : ∃ made, Ends env (match path.parent with
      | some _ => Program.attempt (.createDirAll path.ancestors)
      | none => .done (.ok ())) disk (.ok ()) made ∧
      ∀ other, other ∉ path.ancestors → made other = disk other := by
    cases path.parent with
    | none => exact ⟨disk,⟨rfl,rfl⟩,fun _ _ => rfl⟩
    | some parent =>
      refine ⟨_,ends_attempt (if_neg (by simp [free])),fun other away => ?_⟩
      exact makeDirectories_other away
  have target : made path = some (.file old bound) := (same path path.self_away).trans file
  have seen : (made path).map Node.mode = some bound := by rw [target]; rfl
  have room : made.isDirectory path.backupPath = false :=
    (isDirectory_congr (same _ (path.appended_away _))).trans backup
  have copied : (Call.copy path path.backupPath).perform env.umask made =
      some (made.put path.backupPath (.file old bound)) := by
    simp only [Call.perform,target,room]
    rfl
  have kept : made.put path.backupPath (.file old bound) (path.stagingPath pid) =
      disk (path.stagingPath pid) :=
    (put_other (path.staging_ne_backup pid) _).trans (same _ (path.appended_away _))
  have written : (Call.write (path.stagingPath pid) contents).perform env.umask
      (made.put path.backupPath (.file old bound)) = some _ :=
    if_neg (by rw [isDirectory_congr kept,staging]; exact Bool.false_ne_true)
  refine ⟨_,instant_andThen ended (instant_stat seen (instant_stat seen
    (instant_andThen (ends_attempt copied) (instant_bind.mpr (.inl
      (instant_andThen (ends_attempt written) (instant_start _ _))))))),?_⟩
  rw [put_same,createdMode_congr kept]

/-- A write is safe exactly when the file it stages is not created with a mode laxer than
that of a file it replaces - or it cannot get that far. -/
theorem writeAtomically_safe_iff (umask : Mode) (pid : Nat) (path : Path) (contents : List UInt8)
    (disk : Disk Path) : Safe umask pid path contents disk ↔
      ∀ old bound, disk path = some (.file old bound) → Exposed pid path contents disk →
        (disk.createdMode umask (path.stagingPath pid)).within bound := by
  constructor
  · intro safe old bound file exposed
    obtain clear | ⟨held,mode,found,holds⟩ := exposed
    · obtain ⟨last,reached,staged⟩ := @instant_staged pid path contents _ disk _ _ file clear
      exact safe.secret last reached old bound file _ (by simp) contents _ staged (.inl rfl)
    · rw [createdMode_file found]
      exact safe.secret disk (instant_start _ _) old bound file _ (by simp) held mode found holds
  · intro within
    constructor
    case target =>
      intro last reached
      obtain same | ⟨mode,new,-⟩ := ((writeAtomically_triple disk rfl).1 last reached).target
      · exact .inl same
      · exact .inr ⟨mode,new⟩
    case staging =>
      intro e last ended
      exact ((writeAtomically_triple disk rfl).2 _ last ended).2 (by simp)
    case secret =>
      intro last reached old bound file place member held mode found holds
      have described := (writeAtomically_triple disk rfl).1 last reached
      exact secret_of_within within described file member found holds

/-! ## A write that went well -/

/-- The plain store that a disk is. -/
def filesOf (disk : Disk Path) (writes : Nat) : Files where
  contents path := match disk path with
    | some (.file contents _) => some ⟨contents.toArray⟩
    | _ => none
  directory := disk.isDirectory
  writes := writes

theorem mem_ancestors {other : Path} :
    other ∈ path.ancestors ↔ (other.isPrefixOf path && other != path) = true := by
  simp only [Path.ancestors,List.mem_map,List.mem_range,Bool.and_eq_true,List.isPrefixOf_iff_prefix,
    bne_iff_ne]
  constructor
  · rintro ⟨n,inside,rfl⟩
    refine ⟨List.take_prefix n path,fun whole => ?_⟩
    have length := congrArg List.length whole
    rw [List.length_take] at length
    omega
  · rintro ⟨front,different⟩
    have same := List.prefix_iff_eq_take.mp front
    refine ⟨other.length,?_,same.symm⟩
    have shorter := front.length_le
    by_contra long
    exact different (front.eq_of_length (by omega))

theorem directories_ok {made : Disk Path}
    (ended : Ends env (match path.parent with
      | some _ => Program.attempt (.createDirAll path.ancestors)
      | none => .done (.ok ())) disk (.ok ()) made) :
    path.ancestors.any disk.isFile = false ∧
      made = disk.makeDirectories env.umask path.ancestors := by
  cases above : path.parent with
  | none =>
    rw [above] at ended
    have root : path = [] := by simpa [Path.parent] using above
    have nothing : path.ancestors = [] := by simp [root,Path.ancestors]
    rw [nothing]
    refine ⟨rfl,ended.2.trans ?_⟩
    funext other
    exact (makeDirectories_other (by simp)).symm
  | some parent =>
    rw [above] at ended
    have performed := ends_attempt_iff.mp ended
    simp only [Call.perform,Option.ite_none_left_eq_some,Bool.not_eq_true,Option.some.injEq]
      at performed
    exact ⟨performed.1,performed.2.symm⟩

/-- What was there has been copied, or nothing was there. -/
theorem copy_ok {made copied : Disk Path}
    (ended : Ends env (if ((made path).map Node.mode).isSome then
      Program.attempt (.copy path path.backupPath) else .done (.ok ())) made (.ok ()) copied) :
    made path = none ∧ copied = made ∨
      ∃ old mode, made path = some (.file old mode) ∧ made.isDirectory path.backupPath = false ∧
        copied = made.put path.backupPath (.file old mode) := by
  cases there : made path with
  | none =>
    rw [there] at ended
    exact .inl ⟨rfl,ended.2⟩
  | some node =>
    rw [there,Option.map_some,Option.isSome_some,if_pos rfl] at ended
    have performed := ends_attempt_iff.mp ended
    cases node with
    | directory mode => simp [Call.perform,there] at performed
    | file old mode =>
      simp only [Call.perform,there,Option.ite_none_left_eq_some,Bool.not_eq_true,
        Option.some.injEq] at performed
      exact .inr ⟨old,mode,rfl,performed.1,performed.2.symm⟩

/-- The staging file has come and gone, and the contents are in place. -/
theorem staged_ok {copied last : Disk Path} {mode : Option Mode}
    (ended : Ends env (staged (path.stagingPath pid) <|
      (Program.attempt (.write (path.stagingPath pid) contents)).andThen <|
      (match mode with
        | some mode => Program.attempt (.setPermissions (path.stagingPath pid) mode)
        | none => .done (.ok ())).andThen <|
      Program.attempt (.rename (path.stagingPath pid) path)) copied (.ok ()) last) :
    ∃ mode, last = (copied.erase (path.stagingPath pid)).put path (.file contents mode) := by
  obtain ⟨outcome,last',ended,rest⟩ := ends_bind.mp ended
  cases outcome with
  | error e =>
    obtain ⟨_,_,_,other,_⟩ := ends_bind.mp rest
    cases other
  | ok =>
    obtain ⟨-,rfl⟩ := rest
    obtain ⟨written,wrote,ended⟩ := ends_andThen_iff.mp ended
    obtain ⟨permitted,permits,ended⟩ := ends_andThen_iff.mp ended
    have performed := ends_attempt_iff.mp wrote
    simp only [Call.perform,Option.ite_none_left_eq_some,Option.some.injEq] at performed
    obtain ⟨-,rfl⟩ := performed
    -- Whatever the mode comes to be, the file is renamed with it.
    obtain ⟨given,rfl⟩ : ∃ given, permitted =
        copied.put (path.stagingPath pid) (.file contents given) := by
      cases mode with
      | none => exact ⟨_,permits.2⟩
      | some given =>
        have performed := ends_attempt_iff.mp permits
        simp only [Call.perform,put_same,Option.some.injEq] at performed
        exact ⟨given,performed.symm.trans (put_put copied _ _ _)⟩
    have performed := ends_attempt_iff.mp ended
    simp only [Call.perform,put_same,Option.ite_none_left_eq_some,Option.some.injEq] at performed
    exact ⟨given,by rw [← performed.2,erase_put]⟩

theorem made_contents (umask : Mode) (other : Path) (writes : Nat) :
    (filesOf (disk.makeDirectories umask path.ancestors) writes).contents other =
      (filesOf disk writes).contents other := by
  simp only [filesOf,Disk.makeDirectories]
  by_cases new : other ∈ path.ancestors ∧ disk other = none
  · rw [if_pos new,new.2]
  · rw [if_neg new]

theorem made_directory (umask : Mode) (free : path.ancestors.any disk.isFile = false)
    (other : Path) : (disk.makeDirectories umask path.ancestors).isDirectory other =
      (disk.isDirectory other || (other.isPrefixOf path && other != path)) := by
  by_cases above : other ∈ path.ancestors
  · rw [mem_ancestors.mp above,Bool.or_true]
    have file := List.any_eq_false.mp free other above
    simp only [Disk.isDirectory,Disk.makeDirectories]
    cases there : disk other with
    | none => simp [above]
    | some node =>
      cases node with
      | directory mode => simp
      | file contents mode => simp [Disk.isFile,there] at file
  · rw [Bool.eq_false_iff.mpr (mt mem_ancestors.mpr above),Bool.or_false]
    exact isDirectory_congr (makeDirectories_other above)

/-- The directories are there and what is replaced is copied, if it is a file. -/
theorem copied_plain {umask : Mode} {copied : Disk Path} (writes : Nat)
    (free : path.ancestors.any disk.isFile = false)
    (copies : Ends env (if ((disk.makeDirectories umask path.ancestors path).map Node.mode).isSome
      then Program.attempt (.copy path path.backupPath) else .done (.ok ()))
      (disk.makeDirectories umask path.ancestors) (.ok ()) copied) :
    disk.isDirectory path = false ∧
      (∀ other, (filesOf copied writes).contents other =
        if other = path.backupPath ∧ ((filesOf disk writes).contents path).isSome then
          (filesOf disk writes).contents path
        else (filesOf disk writes).contents other) ∧
      ∀ other, copied.isDirectory other =
        (disk.isDirectory other || (other.isPrefixOf path && other != path)) := by
  have target : disk.makeDirectories umask path.ancestors path = disk path :=
    makeDirectories_other path.self_away
  obtain ⟨absent,rfl⟩ | ⟨old,mode,there,room,rfl⟩ := copy_ok copies
  · rw [target] at absent
    refine ⟨by simp [Disk.isDirectory,absent],fun other => ?_,made_directory umask free⟩
    rw [if_neg (by simp [filesOf,absent])]
    exact made_contents umask other writes
  · rw [target] at there
    have old_contents : (filesOf disk writes).contents path = some ⟨old.toArray⟩ := by
      simp [filesOf,there]
    refine ⟨by simp [Disk.isDirectory,there],fun other => ?_,fun other => ?_⟩
    · by_cases backup : other = path.backupPath
      · rw [if_pos ⟨backup,by rw [old_contents]; rfl⟩,old_contents,backup]
        simp [filesOf]
      · rw [if_neg fun both => backup both.1]
        refine Eq.trans ?_ (@made_contents path disk umask other writes)
        simp only [filesOf,put_other backup]
    · rw [← made_directory umask free other]
      by_cases backup : other = path.backupPath
      · rw [backup,room]
        simp [Disk.isDirectory]
      · exact isDirectory_congr (put_other backup _)

/-- A write that succeeds is the write of the plain store, if no staging file was left over. -/
theorem writeAtomically_plain {text : String} {last : Disk Path} (writes : Nat)
    (fresh : disk (path.stagingPath pid) = none)
    (ended : Ends env (writeAtomically pid path text.toUTF8.data.toList) disk (.ok ()) last) :
    filesOf last (writes + 1) = (filesOf disk writes).writeAtomically path text := by
  obtain ⟨made,makes,ended⟩ := ends_andThen_iff.mp ended
  obtain ⟨copied,copies,ended⟩ := ends_andThen_iff.mp ended
  obtain ⟨free,rfl⟩ := directories_ok makes
  obtain ⟨mode,rfl⟩ := staged_ok ended
  obtain ⟨file,contents,directory⟩ := copied_plain writes free copies
  have unmade : ((path.stagingPath pid).isPrefixOf path && path.stagingPath pid != path) = false :=
    Bool.eq_false_iff.mpr (mt mem_ancestors.mpr (path.appended_away _))
  rw [Files.writeAtomically,Files.mk.injEq]
  refine ⟨funext fun other => ?_,funext fun other => ?_,rfl⟩
  · by_cases target : other = path
    · subst target
      simp [filesOf]
    · rw [if_neg target]
      by_cases staging : other = path.stagingPath pid
      · subst staging
        rw [if_neg fun both => path.staging_ne_backup pid both.1]
        simp [filesOf,put_other target,fresh]
      · rw [← contents other]
        simp only [filesOf,put_other target,erase_other staging]
  · by_cases target : other = path
    · subst target
      simpa [filesOf,Disk.isDirectory] using file
    · by_cases staging : other = path.stagingPath pid
      · subst staging
        simp only [unmade,Bool.or_false]
        simp [filesOf,Disk.isDirectory,put_other target,fresh]
      · refine Eq.trans ?_ (directory other)
        exact isDirectory_congr ((put_other target _).trans (erase_other staging))

/-! ### A private config -/

def configPath : Path := ["home","u",".cursor","mcp.json"]

/-- A config only its owner may read. -/
def privateDisk : Disk Path := fun path =>
  if path = configPath then some (.file [0x7b,0x7d] 0o600) else none

/-- Under the usual umask everyone may read the staging file for a while. -/
theorem private_exposed : ¬Safe 0o022 1 configPath [0x7b,0x7d,0x0a] privateDisk := by
  intro safe
  have file : privateDisk configPath = some (.file [0x7b,0x7d] 0o600) := rfl
  have clear : ¬Obstructed 1 configPath privateDisk := by
    unfold Obstructed
    decide
  obtain ⟨last,reached,staged⟩ := @instant_staged 1 configPath [0x7b,0x7d,0x0a] _ _ _ _ file clear
  have within := safe.secret last reached _ _ file _ (by simp) _ _ staged (.inl rfl)
  exact absurd within (by decide)

end StagedWrite
end SmlMcps
