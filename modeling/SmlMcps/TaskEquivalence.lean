import SmlMcps.TaskStoreLaws
import SmlMcps.TaskWorker

/-! A tool run as a task against the same tool run in the request. The two paths
classify the end of the tool separately; the answer of `tasks/result` is the answer of
the call with the related-task key added, for every end but two: an invalid-params
error, whose text the call prefixes, and a panic, which each path words its own way. -/
namespace SmlMcps

variable {C : Type}

/-! ## What "the same but for the related-task key" means -/

def relatedTaskValue (taskId : String) : Json := .obj [("taskId",.str taskId)]

def metaOf (fields : JsonMap) : JsonMap :=
  match JsonMap.lookup "_meta" fields with
  | some (.obj metadata) => metadata
  | _ => []

/-- The object gains the key and is otherwise the same. -/
structure GainsRelatedTask (taskId : String) (plain tagged : JsonMap) : Prop where
  key : JsonMap.lookup relatedTask tagged = some (relatedTaskValue taskId)
  others : ∀ name, name ≠ relatedTask → JsonMap.lookup name tagged = JsonMap.lookup name plain

structure ResultsAgree (taskId : String) (called task : JsonMap) : Prop where
  members : ∀ name, name ≠ "_meta" → JsonMap.lookup name task = JsonMap.lookup name called
  metadata : ∃ tagged, JsonMap.lookup "_meta" task = some (.obj tagged) ∧
    GainsRelatedTask taskId (metaOf called) tagged

structure ErrorsAgree (taskId : String) (called task : JsonRpcError) : Prop where
  code : task.code = called.code
  message : task.message = called.message
  data : match called.data.getD (.obj []) with
    | .obj plain => ∃ tagged, task.data = some (.obj tagged) ∧
        GainsRelatedTask taskId plain tagged
    | other => task.data = some other

/-- The two answers are results that agree or errors that agree. -/
def AnswersAgree (taskId : String) (called task : Except McpError Json) : Prop :=
  match called, task with
  | .ok (.obj plain), .ok (.obj tagged) => ResultsAgree taskId plain tagged
  | .error e, .error f => ErrorsAgree taskId e.toJsonrpcError f.toJsonrpcError
  | _, _ => False

/-- An end that both paths word alike. -/
def Executed.Plain : Executed → Prop
  | .panicked _ => False
  | .returned (.error (.invalidParams _)) => False
  | _ => True

theorem gainsRelatedTask_insert (taskId : String) (plain : JsonMap) :
    GainsRelatedTask taskId plain (JsonMap.insert relatedTask (relatedTaskValue taskId) plain) where
  key := JsonMap.lookup_insert_same _ _ _
  others _ different := JsonMap.lookup_insert_other _ _ _ _ different

/-! ## Results -/

/-- `_meta` of a tool result is its metadata: an object when it is there at all. -/
theorem lookup_meta_toFields (result : CallToolResult) :
    JsonMap.lookup "_meta" result.toFields = result.metadata.map .obj := by
  obtain ⟨content,isError,structuredContent,metadata⟩ := result
  cases isError <;> cases structuredContent <;> cases metadata <;>
    simp [CallToolResult.toFields,JsonMap.ofMembers]

theorem lookup_content_toFields (result : CallToolResult) :
    JsonMap.lookup "content" result.toFields =
      some (.arr (result.content.map Content.toJson)) := by
  obtain ⟨content,isError,structuredContent,metadata⟩ := result
  cases isError <;> cases structuredContent <;> cases metadata <;>
    simp [CallToolResult.toFields,JsonMap.ofMembers]

theorem withRelatedTaskMeta_agrees (taskId : String) (result : CallToolResult) :
    AnswersAgree taskId (.ok result.toJson)
      (.ok (Server.withRelatedTaskMeta taskId result.toJson)) := by
  have found := lookup_meta_toFields result
  refine ⟨fun name different => JsonMap.lookup_insert_other _ _ _ _ different,?_⟩
  refine ⟨_,JsonMap.lookup_insert_same _ _ _,?_⟩
  unfold metaOf
  rw [found]
  cases result.metadata with
  | none => exact gainsRelatedTask_insert taskId []
  | some metadata => exact gainsRelatedTask_insert taskId metadata

theorem withRelatedTaskData_agrees (taskId : String) (e : McpError) :
    AnswersAgree taskId (.error e)
      (.error (.passthrough (Server.withRelatedTaskData e.toJsonrpcError taskId))) := by
  show ErrorsAgree taskId e.toJsonrpcError (Server.withRelatedTaskData e.toJsonrpcError taskId)
  generalize e.toJsonrpcError = error
  unfold Server.withRelatedTaskData
  constructor
  · split <;> rfl
  · split <;> rfl
  · cases error.data.getD (.obj []) with
    | obj plain => exact ⟨_,rfl,gainsRelatedTask_insert taskId plain⟩
    | _ => rfl

/-! ## The two paths -/

/-- A result that passed its check is answered as it is. -/
theorem answer_returned (call : ToolCall C) (result : CallToolResult) :
    call.answer (.returned (.ok result)) =
      (checkOutput call.name call.entry.output result).map fun _ => result.toJson := by
  unfold ToolCall.answer
  simp only
  cases checkOutput call.name call.entry.output result <;> rfl

/-- A returned result is stored after the same check, under the tool's own name. -/
theorem workerOutcome_returned (call : ToolCall C) (result : CallToolResult) :
    (call.workerOutcome (.returned (.ok result))).2 =
      match checkOutput call.entry.tool.name call.entry.output result with
      | .error problem => .error problem.toJsonrpcError
      | .ok () => .value result.toJson := by
  simp only [ToolCall.workerOutcome]
  cases failed : result.isError with
  | true => simp [checkOutput,failed]
  | false =>
    simp only [Bool.false_eq_true,if_false]
    cases checkOutput call.entry.tool.name call.entry.output result <;> rfl

theorem answer_invalidParams (call : ToolCall C) (message : String) :
    call.answer (.returned (.error (.invalidParams message))) =
      .ok (CallToolResult.error ("Invalid arguments: " ++ message)).toJson := rfl

theorem answer_panicked (call : ToolCall C) (message : String) :
    call.answer (.panicked message) =
      .error (.internal ("tool `" ++ call.name ++ "` panicked: " ++ message)) := rfl

theorem error_text_injective {first second : String}
    (same : JsonMap.lookup "content" (CallToolResult.error first).toFields =
      JsonMap.lookup "content" (CallToolResult.error second).toFields) : first = second := by
  rw [lookup_content_toFields,lookup_content_toFields] at same
  simp only [CallToolResult.error,List.map_cons,List.map_nil,Content.toJson,Option.some.injEq,
    Json.arr.injEq,List.cons.injEq,and_true,Json.obj.injEq] at same
  have texts := congrArg (JsonMap.lookup "text") same
  simpa [JsonMap.ofMembers] using texts

theorem invalidParams_disagrees (taskId : String) (call : ToolCall C) (message : String) :
    ¬AnswersAgree taskId (call.answer (.returned (.error (.invalidParams message))))
      (Server.taskResult taskId
        (.ok (call.workerOutcome (.returned (.error (.invalidParams message)))).2)) := by
  intro agree
  rw [answer_invalidParams] at agree
  have same := ResultsAgree.members agree "content" (by decide)
  have plain : JsonMap.lookup "content" (CallToolResult.error message).toFields =
      JsonMap.lookup "content"
        (CallToolResult.error ("Invalid arguments: " ++ message)).toFields := by
    rw [← same]
    exact (JsonMap.lookup_insert_other _ _ _ _ (by decide)).symm
  have lengths := congrArg String.length (error_text_injective plain)
  rw [String.length_append] at lengths
  have prefixed : "Invalid arguments: ".length = 19 := rfl
  omega

theorem panic_disagrees (taskId : String) (call : ToolCall C) (message : String) :
    ¬AnswersAgree taskId (call.answer (.panicked message))
      (Server.taskResult taskId (.ok (call.workerOutcome (.panicked message)).2)) := by
  intro agree
  rw [answer_panicked] at agree
  have same : "task worker panicked: " ++ message =
      "tool `" ++ call.name ++ "` panicked: " ++ message := ErrorsAgree.message agree
  have second := congrArg (fun text : String => text.toList[1]?) same
  simp at second

/-- The stored outcome, replayed, agrees with the call exactly on the plain ends. -/
theorem outcome_agrees_iff (taskId : String) (call : ToolCall C) (executed : Executed)
    (named : call.name = call.entry.tool.name) :
    AnswersAgree taskId (call.answer executed)
      (Server.taskResult taskId (.ok (call.workerOutcome executed).2)) ↔ executed.Plain := by
  cases executed with
  | panicked message =>
    exact ⟨fun agree => absurd agree (panic_disagrees taskId call message),False.elim⟩
  | returned outcome =>
    cases outcome with
    | ok result =>
      refine ⟨fun _ => trivial,fun _ => ?_⟩
      rw [answer_returned,workerOutcome_returned,← named]
      cases checkOutput call.name call.entry.output result with
      | ok passed => exact withRelatedTaskMeta_agrees taskId result
      | error problem => exact withRelatedTaskData_agrees taskId problem
    | error e =>
      cases e with
      | invalidParams message =>
        exact ⟨fun agree => absurd agree (invalidParams_disagrees taskId call message),False.elim⟩
      | toolError message =>
        exact ⟨fun _ => trivial,fun _ => withRelatedTaskMeta_agrees taskId (.error message)⟩
      | _ => exact ⟨fun _ => trivial,fun _ => withRelatedTaskData_agrees taskId _⟩

/-! ## A whole task -/

/-- The store once the task's worker has filed what came of its tool. -/
def TaskStart.finished (start : TaskStart C) (store : TaskStore) (now : SystemTime)
    (executed : Executed) : TaskStore :=
  store.finish now start.task.taskId (start.call.workerOutcome executed).1
    (start.call.workerOutcome executed).2

/-- The default server with tasks enabled. -/
def taskServer : Server Unit :=
  { Server.new (ServerConfig.default "0.7.3" ⟨id,some⟩) with
    tasks := some ⟨0,.default,.ok ()⟩ }

def jobCall (result : Except McpError CallToolResult) : ToolCall Unit :=
  ⟨"job",⟨.constant "job" result,none,.none⟩,.obj [],none⟩

def greeting : CallToolResult := ⟨[.text "done" none],false,none,none⟩

end SmlMcps
