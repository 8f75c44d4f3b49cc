import Mathlib.Data.List.Sort
import SmlMcps.Library.KeyedTable
import SmlMcps.Protocol

/-! The task store: records of task-augmented calls, their status machine, expiry,
eviction and retrieval. Every operation is one lock acquisition, so each is a
function of the store, of the clock reading it takes and of its arguments. -/
namespace SmlMcps

def relatedTask : String := "io.modelcontextprotocol/related-task"

def modelImmediateResponse : String := "io.modelcontextprotocol/model-immediate-response"

/-- Nanoseconds since the Unix epoch. -/
abbrev SystemTime := Int

inductive TaskStatus where
  | working | inputRequired | completed | failed | cancelled
  deriving DecidableEq, Repr

namespace TaskStatus

def isTerminal : TaskStatus → Bool
  | .completed | .failed | .cancelled => true
  | .working | .inputRequired => false

def canTransitionTo (current next : TaskStatus) : Bool :=
  match current with
  | .working => next != .working
  | .inputRequired => next != .inputRequired
  | _ => false

def name : TaskStatus → String
  | .working => "working"
  | .inputRequired => "input_required"
  | .completed => "completed"
  | .failed => "failed"
  | .cancelled => "cancelled"

end TaskStatus

/-- The wire representation of a task. -/
structure Task where
  taskId : String
  status : TaskStatus
  statusMessage : Option String
  createdAt : String
  lastUpdatedAt : String
  ttl : Option Nat
  pollInterval : Option Nat
  deriving DecidableEq, Repr

/-- `ttl` is always present: `null` means unlimited. -/
def Task.toJson (task : Task) : Json :=
  .obj (JsonMap.ofMembers [
    ("taskId",some (.str task.taskId)),
    ("status",some (.str task.status.name)),
    ("statusMessage",task.statusMessage.map .str),
    ("createdAt",some (.str task.createdAt)),
    ("lastUpdatedAt",some (.str task.lastUpdatedAt)),
    ("ttl",some ((task.ttl.map Json.ofNat).getD .null)),
    ("pollInterval",task.pollInterval.map Json.ofNat)])

structure TaskConfig where
  defaultTtlMs : Nat
  maxTtlMs : Nat
  pollIntervalMs : Nat
  maxConcurrent : Nat
  maxRecords : Nat
  deriving DecidableEq, Repr

def TaskConfig.default : TaskConfig := ⟨300000,3600000,1000,16,1024⟩

inductive TaskOutcome where
  | value (result : Json)
  | error (error : JsonRpcError)
  deriving DecidableEq, Repr

/-- Who is asking; `none` where the transport gives no authorization context. -/
abbrev Requestor := Option String

/-- `cancelled` is the index of the flag the running tool observes. -/
structure TaskRecord where
  task : Task
  outcome : Option TaskOutcome
  created : SystemTime
  cancelled : Nat
  owner : Option String
  deriving DecidableEq, Repr

def TaskRecord.belongsTo (record : TaskRecord) (requestor : Requestor) : Bool :=
  record.owner == requestor

/-- A clock that went backwards past the creation time expires nothing. -/
def TaskRecord.expired (record : TaskRecord) (now : SystemTime) : Bool :=
  match record.task.ttl with
  | none => false
  | some ttl => record.created ≤ now && (ttl : Int) * 1000000 ≤ now - record.created

/-- Cancellation flags outlive the records they were created with. -/
structure TaskStore where
  tasks : KeyedTable String TaskRecord
  flags : List Bool
  config : TaskConfig

def TaskStore.new (config : TaskConfig) : TaskStore := ⟨∅,[],config⟩

/-! ## Timestamps -/

def padded (width value : Nat) : List Char :=
  let digits := Nat.toDigits 10 value
  List.replicate (width - digits.length) '0' ++ digits

/-- Days since the Unix epoch to a civil year, month and day, with the divisions of
the source, which truncate. -/
def civilFromDays (days : Int) : Int × Nat × Nat :=
  let z := days + 719468
  let era := (if 0 ≤ z then z else z - 146096).tdiv 146097
  let doe := z - era * 146097
  let yoe := (doe - doe.tdiv 1460 + doe.tdiv 36524 - doe.tdiv 146096).tdiv 365
  let y := yoe + era * 400
  let doy := doe - (365 * yoe + yoe.tdiv 4 - yoe.tdiv 100)
  let mp := (5 * doy + 2).tdiv 153
  let d := (doy - (153 * mp + 2).tdiv 5 + 1).toNat
  let m := (if mp < 10 then mp + 3 else mp - 9).toNat
  (if m ≤ 2 then y + 1 else y,m,d)

def iso8601 (time : SystemTime) : String :=
  let total : Int := if time < 0 then 0 else time / 1000000000
  let secondsOfDay := (total % 86400).toNat
  let (year,month,day) := civilFromDays (total / 86400)
  String.ofList (padded 4 year.toNat ++ '-' :: padded 2 month ++ '-' :: padded 2 day ++
    'T' :: padded 2 (secondsOfDay / 3600) ++ ':' :: padded 2 (secondsOfDay % 3600 / 60) ++
    ':' :: padded 2 (secondsOfDay % 60) ++ ['Z'])

/-! ## Operations -/

def notFound (taskId : String) : McpError :=
  .invalidParams ("Failed to retrieve task: Task not found: " ++ taskId)

namespace TaskStore

def record? (store : TaskStore) (taskId : String) : Option TaskRecord :=
  AList.lookup taskId store.tasks

/-- The record `requestor` may see; someone else's is reported as missing. -/
def visible (store : TaskStore) (taskId : String) (requestor : Requestor) : Option TaskRecord :=
  (store.record? taskId).filter fun record => record.belongsTo requestor

def update (store : TaskStore) (taskId : String) (record : TaskRecord) : TaskStore :=
  { store with tasks := store.tasks.insert taskId record }

/-- Drop the records whose lifetime has elapsed. -/
def sweep (now : SystemTime) (store : TaskStore) : TaskStore :=
  { store with tasks := KeyedTable.retain (fun _ record => !record.expired now) store.tasks }

/-- Evict finished records, oldest first, until one more fits. The fuel is the
number of records: a round that does not stop removes one. -/
def makeRoomWith (maxRecords : Nat) :
    Nat → KeyedTable String TaskRecord → KeyedTable String TaskRecord × Except McpError Unit
  | 0, tasks => (tasks,.ok ())
  | fuel + 1, tasks =>
    if max maxRecords 1 ≤ KeyedTable.size tasks then
      match KeyedTable.oldest (fun _ record => record.task.status.isTerminal)
          TaskRecord.created tasks with
      | some id => makeRoomWith maxRecords fuel (tasks.erase id)
      | none => (tasks,.error (.internal
          ("the task store is full (" ++ toString maxRecords ++ " records)")))
    else (tasks,.ok ())

def makeRoom (store : TaskStore) : TaskStore × Except McpError Unit :=
  let (tasks,room) :=
    makeRoomWith store.config.maxRecords (KeyedTable.size store.tasks + 1) store.tasks
  ({ store with tasks := tasks },room)

def isEmpty (now : SystemTime) (store : TaskStore) : TaskStore × Bool :=
  let swept := store.sweep now
  (swept,swept.tasks.entries.isEmpty)

def running (requestor : Requestor) (store : TaskStore) : Nat :=
  (store.tasks.entries.filter fun entry =>
    !entry.2.task.status.isTerminal && entry.2.belongsTo requestor).length

/-- How many tasks are running, whoever they belong to. -/
def countRunning (now : SystemTime) (store : TaskStore) : TaskStore × Nat :=
  let swept := store.sweep now
  (swept,(swept.tasks.entries.filter fun entry => !entry.2.task.status.isTerminal).length)

/-- The record a creation files: `working`, lifetime clamped, no outcome. -/
def freshRecord (store : TaskStore) (now : SystemTime) (taskId : String)
    (requestedTtl : Option Nat) (owner : Option String) : TaskRecord :=
  { task :=
      { taskId := taskId
        status := .working
        statusMessage := none
        createdAt := iso8601 now
        lastUpdatedAt := iso8601 now
        ttl := some (min (requestedTtl.getD store.config.defaultTtlMs) store.config.maxTtlMs)
        pollInterval := some store.config.pollIntervalMs }
    outcome := none
    created := now
    cancelled := store.flags.length
    owner := owner }

/-- `taskId` is the freshly generated identifier. -/
def create (store : TaskStore) (now : SystemTime) (taskId : String)
    (requestedTtl : Option Nat) (owner : Option String) :
    TaskStore × Except McpError (Task × Nat) :=
  let swept := store.sweep now
  let live := swept.running owner
  if swept.config.maxConcurrent ≤ live then
    (swept,.error (.internal ("too many tasks in flight (" ++ toString live ++ "/" ++
      toString swept.config.maxConcurrent ++ ")")))
  else match swept.makeRoom with
    | (roomy,.error e) => (roomy,.error e)
    | (roomy,.ok ()) =>
      let record := roomy.freshRecord now taskId requestedTtl owner
      ({ roomy.update taskId record with flags := roomy.flags ++ [false] },
        .ok (record.task,record.cancelled))

def get (store : TaskStore) (now : SystemTime) (taskId : String) (requestor : Requestor) :
    TaskStore × Except McpError Task :=
  let swept := store.sweep now
  match swept.visible taskId requestor with
  | some record => (swept,.ok record.task)
  | none => (swept,.error (notFound taskId))

def newerFirst (a b : Task) : Bool :=
  b.createdAt < a.createdAt || (b.createdAt == a.createdAt && a.taskId ≤ b.taskId)

def list (store : TaskStore) (now : SystemTime) (requestor : Requestor) :
    TaskStore × List Task :=
  let swept := store.sweep now
  let mine := (swept.tasks.entries.filter fun entry => entry.2.belongsTo requestor).map
    fun entry => entry.2.task
  (swept,mine.insertionSort fun a b => newerFirst a b = true)

/-- A record with its outcome stored; an error also becomes the status message. -/
def finishRecord (record : TaskRecord) (now : SystemTime) (status : TaskStatus)
    (outcome : TaskOutcome) : TaskRecord :=
  { record with
    task :=
      { record.task with
        status := status
        lastUpdatedAt := iso8601 now
        statusMessage := match outcome with
          | .error error => some error.message
          | .value _ => record.task.statusMessage }
    outcome := some outcome }

/-- Ignored for a record that is gone or already terminal. -/
def finish (store : TaskStore) (now : SystemTime) (taskId : String) (status : TaskStatus)
    (outcome : TaskOutcome) : TaskStore :=
  match store.record? taskId with
  | none => store
  | some record =>
    if record.task.status.isTerminal then store
    else store.update taskId (finishRecord record now status outcome)

def setStatus (store : TaskStore) (now : SystemTime) (taskId : String) (status : TaskStatus) :
    TaskStore × Except McpError Bool :=
  if status.isTerminal then
    (store,.error (.internal ("use finish() to move task " ++ taskId ++ " to a terminal status")))
  else match store.record? taskId with
    | none => (store,.ok false)
    | some record =>
      if record.task.status.canTransitionTo status then
        (store.update taskId { record with
          task := { record.task with status := status, lastUpdatedAt := iso8601 now } },.ok true)
      else (store,.ok false)

def setStatusMessage (store : TaskStore) (now : SystemTime) (taskId message : String) :
    TaskStore :=
  match store.record? taskId with
  | none => store
  | some record =>
    if record.task.status.isTerminal then store
    else store.update taskId { record with
      task := { record.task with
        statusMessage := some message
        lastUpdatedAt := iso8601 now } }

def cancelledRecord (record : TaskRecord) (now : SystemTime) : TaskRecord :=
  { record with
    task := { record.task with
      status := .cancelled
      statusMessage := some "The task was cancelled by request."
      lastUpdatedAt := iso8601 now }
    outcome := some (.error (.new (-32603) "Task was cancelled")) }

/-- The flag is raised before the record moves to `cancelled`. -/
def cancel (store : TaskStore) (now : SystemTime) (taskId : String) (requestor : Requestor) :
    TaskStore × Except McpError Task :=
  let swept := store.sweep now
  match swept.visible taskId requestor with
  | none => (swept,.error (notFound taskId))
  | some record =>
    if record.task.status.isTerminal then
      (swept,.error (.invalidParams ("Cannot cancel task: already in terminal status '" ++
        record.task.status.name ++ "'")))
    else
      let ended := cancelledRecord record now
      ({ swept.update taskId ended with flags := swept.flags.set record.cancelled true },
        .ok ended.task)

/-- The outcome of a visible record: `none` while it runs. -/
def outcomeOf (taskId : String) (record : TaskRecord) : Except McpError (Option TaskOutcome) :=
  if record.task.status.isTerminal then
    match record.outcome with
    | some outcome => .ok (some outcome)
    | none => .error (.internal ("task " ++ taskId ++ " is terminal but has no result"))
  else .ok none

def tryResult (store : TaskStore) (now : SystemTime) (taskId : String)
    (requestor : Requestor) : TaskStore × Except McpError (Option TaskOutcome) :=
  let swept := store.sweep now
  match swept.visible taskId requestor with
  | none => (swept,.error (notFound taskId))
  | some record => (swept,outcomeOf taskId record)

/-- One look of the blocking wait: `none` goes back to sleep on the condition
variable, and an exhausted patience is a timeout. -/
def awaitResultOnce (store : TaskStore) (now : SystemTime) (taskId : String)
    (requestor : Requestor) (expired : Bool) :
    TaskStore × Option (Except McpError TaskOutcome) :=
  match store.tryResult now taskId requestor with
  | (swept,.error e) => (swept,some (.error e))
  | (swept,.ok (some outcome)) => (swept,some (.ok outcome))
  | (swept,.ok none) =>
    if expired then (swept,some (.error (.timeout ("task " ++ taskId ++
      " is still running; poll `tasks/get` and call `tasks/result` again"))))
    else (swept,none)

end TaskStore

/-- The `_meta` object associating a message with a task. -/
def relatedTaskMeta (taskId : String) : JsonMap :=
  [(relatedTask,.obj [("taskId",.str taskId)])]

end SmlMcps
