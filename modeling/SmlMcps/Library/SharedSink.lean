import SmlMcps.Library.Runs
import Mathlib.Data.List.Basic
import Mathlib.Logic.Function.Basic

/-! Threads that write records to one stream, each record under a lock and in as many pieces
as it takes. A write may fail anywhere; what it got out stays in the stream, and the writes
after it go on behind that. -/
namespace SharedSink

variable {ι μ α : Type}

structure Sink (ι μ α : Type) where
  /-- What each thread still has to write. -/
  due : ι → List μ
  /-- Who has the lock, and what of its record is still to go. -/
  holder : Option (ι × List α) := none
  stream : List α := []
  /-- The records that were begun, in the order the lock was taken. -/
  begun : List (ι × μ) := []
  /-- How many records were begun before the first one that failed. -/
  failed : Option Nat := none

def Sink.start (programs : ι → List μ) : Sink ι μ α := { due := programs }

/-- The records before the first one that failed: all of them, if none did. -/
def Sink.unfailed (sink : Sink ι μ α) : List (ι × μ) :=
  match sink.failed with
  | none => sink.begun
  | some count => sink.begun.take count

theorem Sink.unfailed_none {sink : Sink ι μ α} (failed : sink.failed = none) :
    sink.unfailed = sink.begun := by
  simp only [unfailed,failed]

theorem Sink.unfailed_some {sink : Sink ι μ α} {count : Nat} (failed : sink.failed = some count) :
    sink.unfailed = sink.begun.take count := by
  simp only [unfailed,failed]

theorem Sink.unfailed_prefix (sink : Sink ι μ α) : sink.unfailed <+: sink.begun := by
  cases failed : sink.failed with
  | none =>
    have all := unfailed_none failed
    exact all ▸ List.prefix_refl _
  | some count =>
    rw [unfailed_some failed]
    exact List.take_prefix _ _

inductive Label (ι : Type) where
  | take (thread : ι)
  /-- Some of what is left goes out. -/
  | put (count : Nat)
  | release
  /-- The write in progress fails. -/
  | fail

def step [DecidableEq ι] (encode : μ → List α) (sink : Sink ι μ α) :
    Label ι → Option (Sink ι μ α)
  | .take thread =>
    match sink.holder, sink.due thread with
    | none, record :: rest => some { sink with
        due := Function.update sink.due thread rest
        holder := some (thread,encode record)
        begun := sink.begun ++ [(thread,record)] }
    | _, _ => none
  | .put count =>
    match sink.holder with
    | some (thread,rest) =>
      if 0 < count ∧ count ≤ rest.length then some { sink with
        holder := some (thread,rest.drop count)
        stream := sink.stream ++ rest.take count }
      else none
    | none => none
  | .release =>
    match sink.holder with
    | some (_,[]) => some { sink with holder := none }
    | _ => none
  | .fail =>
    match sink.holder with
    | some _ => some { sink with
        holder := none
        failed := some (sink.failed.getD (sink.begun.length - 1)) }
    | none => none

/-- The records of one thread. -/
def of [DecidableEq ι] (thread : ι) (records : List (ι × μ)) : List μ :=
  (records.filter fun entry => entry.1 = thread).map Prod.snd

theorem of_append [DecidableEq ι] (thread : ι) (front back : List (ι × μ)) :
    of thread (front ++ back) = of thread front ++ of thread back := by
  simp [of]

/-- What the stream is while no write has failed: the records that were begun, but for what
is left of the one in progress. -/
structure Whole (encode : μ → List α) (sink : Sink ι μ α) : Prop where
  idle : sink.holder = none → sink.stream = sink.begun.flatMap fun entry => encode entry.2
  busy : ∀ thread rest, sink.holder = some (thread,rest) → ∃ earlier record sent,
    sink.begun = earlier ++ [record] ∧ encode record.2 = sent ++ rest ∧
      sink.stream = (earlier.flatMap fun entry => encode entry.2) ++ sent

/-- What holds of a sink at every time. Every thread's records are begun in its own order, and
the stream is whole, or begins with the records before the first one that failed. -/
structure Intact [DecidableEq ι] (encode : μ → List α) (programs : ι → List μ)
    (sink : Sink ι μ α) : Prop where
  order : ∀ thread, of thread sink.begun ++ sink.due thread = programs thread
  whole : sink.failed = none → Whole encode sink
  cut : sink.failed.isSome = true →
    (sink.unfailed.flatMap fun entry => encode entry.2) <+: sink.stream
  known : ∀ count, sink.failed = some count → count ≤ sink.begun.length

section
variable [DecidableEq ι] {encode : μ → List α} {programs : ι → List μ} {sink next : Sink ι μ α}

theorem Intact.start : Intact encode programs (.start programs) where
  order _ := rfl
  whole _ := ⟨fun _ => rfl,nofun⟩
  cut failed := by cases failed
  known _ failed := by cases failed

theorem Intact.take {thread : ι} (intact : Intact encode programs sink)
    (took : step encode sink (.take thread) = some next) : Intact encode programs next := by
  obtain ⟨order,whole,cut,known⟩ := intact
  simp only [step] at took
  split at took
  · rename_i record rest free due
    cases took
    -- the thread's own first record leaves its queue
    have queues (other : ι) : of other [(thread,record)] ++ Function.update sink.due thread rest other =
        sink.due other := by
      by_cases same : other = thread
      · subst same
        simp [of,due]
      · have apart : ¬thread = other := fun again => same again.symm
        simp [of,Function.update_of_ne same,apart]
    refine ⟨fun other => ?_,fun unfailed => ⟨nofun,?_⟩,fun failed => ?_,fun count failed => ?_⟩
    · rw [← order other,of_append,← queues other,List.append_assoc]
    · intro holder left held
      cases held
      refine ⟨sink.begun,(thread,record),[],rfl,rfl,?_⟩
      rw [List.append_nil]
      exact (whole unfailed).idle free
    · obtain ⟨count,counted⟩ := Option.isSome_iff_exists.mp failed
      have earlier : sink.failed = some count := counted
      have before := cut failed
      rw [Sink.unfailed_some earlier] at before
      rw [Sink.unfailed_some counted,List.take_append_of_le_length (known count earlier)]
      exact before
    · rw [List.length_append]
      exact Nat.le_add_right_of_le (known count failed)
  · cases took

theorem Intact.put {count : Nat} (intact : Intact encode programs sink)
    (took : step encode sink (.put count) = some next) : Intact encode programs next := by
  obtain ⟨order,whole,cut,known⟩ := intact
  simp only [step] at took
  split at took
  · rename_i thread rest holds
    split at took
    · cases took
      refine ⟨order,fun unfailed => ⟨nofun,?_⟩,?_,known⟩
      · intro holder left held
        cases held
        obtain ⟨earlier,record,sent,begun,split_,stream⟩ := (whole unfailed).busy thread rest holds
        refine ⟨earlier,record,sent ++ rest.take count,begun,?_,?_⟩
        · rw [split_,List.append_assoc,List.take_append_drop]
        · rw [stream,List.append_assoc]
      · intro failed
        exact (cut failed).trans (List.prefix_append _ _)
    · cases took
  · cases took

theorem Intact.release (intact : Intact encode programs sink)
    (took : step encode sink .release = some next) : Intact encode programs next := by
  obtain ⟨order,whole,cut,known⟩ := intact
  simp only [step] at took
  split at took
  · rename_i thread holds
    cases took
    refine ⟨order,fun unfailed => ⟨fun _ => ?_,nofun⟩,cut,known⟩
    obtain ⟨earlier,record,sent,begun,split_,stream⟩ := (whole unfailed).busy thread [] holds
    rw [List.append_nil] at split_
    rw [begun,stream,List.flatMap_append,List.flatMap_singleton,split_]
  · cases took

/-- What the first write that fails leaves behind it are the records before it. -/
theorem Intact.fail (intact : Intact encode programs sink)
    (took : step encode sink .fail = some next) : Intact encode programs next := by
  obtain ⟨order,whole,cut,known⟩ := intact
  simp only [step] at took
  split at took
  · rename_i holder holds
    cases took
    cases failed : sink.failed with
    | none =>
      obtain ⟨earlier,record,sent,begun,-,stream⟩ :=
        (whole failed).busy holder.1 holder.2 holds
      have before : sink.begun.take (sink.begun.length - 1) = earlier := by
        rw [begun,List.length_append,List.length_singleton,Nat.add_sub_cancel,List.take_left]
      refine ⟨order,nofun,fun _ => ?_,fun count same => ?_⟩
      · rw [Sink.unfailed_some rfl,Option.getD_none]
        simp only [before]
        rw [stream]
        exact List.prefix_append _ _
      · cases same
        exact Nat.sub_le _ _
    | some count =>
      refine ⟨order,nofun,fun _ => ?_,fun other same => ?_⟩
      · have before := cut (by rw [failed]; rfl)
        rw [Sink.unfailed_some failed] at before
        rw [Sink.unfailed_some rfl,Option.getD_some]
        exact before
      · cases same
        exact known count failed
  · cases took

theorem Intact.step {label : Label ι} (intact : Intact encode programs sink)
    (took : step encode sink label = some next) : Intact encode programs next := by
  cases label with
  | take thread => exact intact.take took
  | put count => exact intact.put took
  | release => exact intact.release took
  | fail => exact intact.fail took

theorem run_intact {labels : List (Label ι)}
    (run : Runs.execute (SharedSink.step encode) (.start programs) labels = some sink) :
    Intact encode programs sink :=
  Runs.invariant (fun _ _ _ intact took => intact.step took) run .start

/-- As far as no write has failed, the stream is the records in order, as far as it goes. -/
theorem Intact.begins (intact : Intact encode programs sink) :
    (sink.failed = none ∧ sink.stream <+: sink.unfailed.flatMap fun entry => encode entry.2) ∨
      (sink.failed.isSome = true ∧
        (sink.unfailed.flatMap fun entry => encode entry.2) <+: sink.stream) := by
  cases failed : sink.failed with
  | some count => exact .inr ⟨rfl,intact.cut (by rw [failed]; rfl)⟩
  | none =>
    refine .inl ⟨rfl,?_⟩
    rw [Sink.unfailed_none failed]
    cases holds : sink.holder with
    | none =>
      have all := (intact.whole failed).idle holds
      exact all ▸ List.prefix_refl _
    | some holder =>
      obtain ⟨earlier,record,sent,begun,split_,stream⟩ :=
        (intact.whole failed).busy holder.1 holder.2 holds
      rw [begun,stream,List.flatMap_append,List.flatMap_singleton,split_,List.prefix_append_right_inj]
      exact List.prefix_append _ _

theorem Intact.program (intact : Intact encode programs sink) (thread : ι) :
    of thread sink.begun <+: programs thread := by
  rw [← intact.order thread]
  exact List.prefix_append _ _

theorem Intact.complete (intact : Intact encode programs sink) (free : sink.holder = none)
    (unfailed : sink.failed = none) :
    sink.stream = sink.unfailed.flatMap fun entry => encode entry.2 := by
  rw [Sink.unfailed_none unfailed]
  exact (intact.whole unfailed).idle free

end
end SharedSink
