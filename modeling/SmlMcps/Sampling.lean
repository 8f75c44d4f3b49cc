import SmlMcps.Protocol
import SmlMcps.Library.Checks

/-! Sampling requests: what a list of messages must look like, and what is checked of it
before it is sent. -/
namespace SmlMcps

inductive SamplingContent where
  | text (text : String) (annotations : Option Annotations)
  | image (data mimeType : String) (annotations : Option Annotations)
  | audio (data mimeType : String) (annotations : Option Annotations)
  | toolUse (id name : String) (input : Json)
  | toolResult (toolUseId : String) (content : List SamplingContent) (isError : Bool)

namespace SamplingContent

def isToolResult : SamplingContent → Bool
  | .toolResult .. => true
  | _ => false

def isToolUse : SamplingContent → Bool
  | .toolUse .. => true
  | _ => false

def useId : SamplingContent → Option String
  | .toolUse id .. => some id
  | _ => none

def resultId : SamplingContent → Option String
  | .toolResult id .. => some id
  | _ => none

end SamplingContent

/-- A message body: one block, or several. -/
inductive SamplingBody where
  | one (content : SamplingContent)
  | many (contents : List SamplingContent)

def SamplingBody.blocks : SamplingBody → List SamplingContent
  | .one content => [content]
  | .many contents => contents

structure SamplingMessage where
  role : Role
  content : SamplingBody

namespace SamplingMessage

def blocks (message : SamplingMessage) : List SamplingContent := message.content.blocks

def uses (message : SamplingMessage) : List String :=
  message.blocks.filterMap SamplingContent.useId

def answered (message : SamplingMessage) : List String :=
  message.blocks.filterMap SamplingContent.resultId

def checkBlocks (message : SamplingMessage) (index : Nat) : Except String Unit := do
  let results := (message.blocks.filter SamplingContent.isToolResult).length
  let shown := "message " ++ toString index
  Checks.refuse (0 < results ∧ results ≠ message.blocks.length)
    (shown ++ " mixes tool results with other content; " ++
      "a message with tool results must contain only tool results")
  Checks.refuse (0 < results ∧ message.role ≠ .user)
    (shown ++ " has tool results on a non-user role")
  Checks.refuse (message.role ≠ .assistant ∧ message.blocks.any SamplingContent.isToolUse = true)
    (shown ++ " has tool uses on a non-assistant role")

/-- The checks of a message with tool uses against the next one. -/
def checkAnswers (message : SamplingMessage) (index : Nat) (next : Option SamplingMessage) :
    Except String Unit :=
  if message.uses.isEmpty then .ok ()
  else
    match next with
    | none => .error ("message " ++ toString index ++
        " makes tool calls but no tool results follow")
    | some next => do
      Checks.each (fun id => Checks.refuse (id ∉ next.answered)
        ("tool use `" ++ id ++ "` in message " ++ toString index ++
          " has no matching tool result")) message.uses
      Checks.each (fun id => Checks.refuse (id ∉ message.uses)
        ("tool result `" ++ id ++ "` in message " ++ toString (index + 1) ++
          " answers no tool use")) next.answered

end SamplingMessage

structure CreateMessageParams where
  messages : List SamplingMessage

/-- Check the message sequence against the structural rules. -/
def CreateMessageParams.validate (params : CreateMessageParams) : Except String Unit := do
  Checks.refuse (params.messages = []) "sampling request must contain at least one message"
  Checks.each (fun numbered => numbered.1.checkBlocks numbered.2) params.messages.zipIdx
  Checks.each (fun numbered => numbered.1.checkAnswers numbered.2
    params.messages[numbered.2 + 1]?) params.messages.zipIdx

/-! ## What is checked -/

namespace Sampling

/-- A history as it should be: tool uses only from the assistant, each turn with tool uses
answered use by use in the next one, and tool results nowhere else. -/
structure WellFormed (messages : List SamplingMessage) : Prop where
  present : messages ≠ []
  uses : ∀ message ∈ messages, message.uses ≠ [] → message.role = .assistant
  answered : ∀ (index : Nat) (message : SamplingMessage), messages[index]? = some message →
    message.uses ≠ [] → message.uses.Nodup ∧ ∃ next, messages[index + 1]? = some next ∧
      next.role = .user ∧ (∀ block ∈ next.blocks, block.isToolResult = true) ∧
      next.answered.Perm message.uses
  placed : ∀ (index : Nat) (message : SamplingMessage), messages[index]? = some message →
    message.answered ≠ [] → ∃ (before : Nat) (asked : SamplingMessage), index = before + 1 ∧
      messages[before]? = some asked ∧ asked.uses ≠ []

/-- What the checks look at: in a turn with tool results there is nothing else, and the
next turn answers the ids of the tool uses and no others. -/
structure Checked (messages : List SamplingMessage) : Prop where
  present : messages ≠ []
  uses : ∀ message ∈ messages, message.uses ≠ [] → message.role = .assistant
  results : ∀ message ∈ messages, message.answered ≠ [] →
    message.role = .user ∧ ∀ block ∈ message.blocks, block.isToolResult = true
  answered : ∀ (index : Nat) (message : SamplingMessage), messages[index]? = some message →
    message.uses ≠ [] → ∃ next, messages[index + 1]? = some next ∧
      ∀ id, id ∈ next.answered ↔ id ∈ message.uses

/-- No id twice among the tool uses of a turn, none answered twice, and no tool result
without tool uses in the turn before. -/
structure OneToOne (messages : List SamplingMessage) : Prop where
  usedOnce : ∀ message ∈ messages, message.uses.Nodup
  answeredOnce : ∀ message ∈ messages, message.answered.Nodup
  placed : ∀ (index : Nat) (message : SamplingMessage), messages[index]? = some message →
    message.answered ≠ [] → ∃ (before : Nat) (asked : SamplingMessage), index = before + 1 ∧
      messages[before]? = some asked ∧ asked.uses ≠ []

variable {message : SamplingMessage} {messages : List SamplingMessage} {index : Nat}
  {params : CreateMessageParams}

theorem uses_ne_nil : message.uses ≠ [] ↔
    message.blocks.any SamplingContent.isToolUse = true := by
  rw [SamplingMessage.uses,ne_eq,List.filterMap_eq_nil_iff,List.any_eq_true]
  push Not
  apply exists_congr
  intro block
  cases block <;> simp [SamplingContent.useId,SamplingContent.isToolUse]

theorem answered_ne_nil : message.answered ≠ [] ↔
    0 < (message.blocks.filter SamplingContent.isToolResult).length := by
  rw [SamplingMessage.answered,ne_eq,List.filterMap_eq_nil_iff,List.length_pos_iff,ne_eq,
    List.filter_eq_nil_iff]
  push Not
  apply exists_congr
  intro block
  cases block <;> simp [SamplingContent.resultId,SamplingContent.isToolResult]

theorem checkBlocks_ok : message.checkBlocks index = .ok () ↔
    (message.answered ≠ [] → message.role = .user ∧
      ∀ block ∈ message.blocks, block.isToolResult = true) ∧
    (message.uses ≠ [] → message.role = .assistant) := by
  simp only [SamplingMessage.checkBlocks,Checks.then_ok,Checks.refuse_ok,← answered_ne_nil,
    ← uses_ne_nil,not_and,not_not,ne_eq,List.length_filter_eq_length_iff]
  constructor
  · rintro ⟨only,user,assistant⟩
    exact ⟨fun some => ⟨user some,only some⟩,
      fun some => by_contra fun other => some (assistant other)⟩
  · rintro ⟨results,uses⟩
    exact ⟨fun some => (results some).2,fun some => (results some).1,
      fun other => by_contra fun some => other (uses some)⟩

theorem checkAnswers_ok (next : Option SamplingMessage) :
    message.checkAnswers index next = .ok () ↔ (message.uses ≠ [] → ∃ after, next = some after ∧
      ∀ id, id ∈ after.answered ↔ id ∈ message.uses) := by
  by_cases none : message.uses = []
  · simp [SamplingMessage.checkAnswers,none]
  · cases next with
    | none => simp [SamplingMessage.checkAnswers,none]
    | some after =>
      simp only [SamplingMessage.checkAnswers,List.isEmpty_iff,none,if_false,Checks.then_ok,
        Checks.each_ok,Checks.refuse_ok,not_not]
      simp [none,iff_def,forall_and,and_comm]

/-- What passes is exactly what is checked. -/
theorem validate_ok : params.validate = .ok () ↔ Checked params.messages := by
  simp only [CreateMessageParams.validate,Checks.then_ok,Checks.refuse_ok,Checks.each_ok,
    Prod.forall,List.mem_zipIdx_iff_getElem?,checkBlocks_ok,checkAnswers_ok]
  constructor
  · rintro ⟨present,blocks,answers⟩
    refine ⟨present,fun message member => ?_,fun message member => ?_,
      fun index message here => answers message index here⟩
    · obtain ⟨index,here⟩ := List.mem_iff_getElem?.mp member
      exact (blocks message index here).2
    · obtain ⟨index,here⟩ := List.mem_iff_getElem?.mp member
      exact (blocks message index here).1
  · intro checked
    refine ⟨checked.present,fun message index here => ?_,
      fun message index here => checked.answered index message here⟩
    have member := List.mem_of_getElem? here
    exact ⟨checked.results message member,checked.uses message member⟩

/-- What the rules ask for beyond what is checked. -/
theorem wellFormed_iff : WellFormed messages ↔ Checked messages ∧ OneToOne messages := by
  constructor
  · intro formed
    -- A turn with tool results is the one its tool uses are answered in.
    have follows : ∀ message ∈ messages, message.answered ≠ [] → message.role = .user ∧
        (∀ block ∈ message.blocks, block.isToolResult = true) ∧ message.answered.Nodup := by
      intro message member some
      obtain ⟨index,here⟩ := List.mem_iff_getElem?.mp member
      obtain ⟨before,asked,rfl,there,used⟩ := formed.placed index message here some
      obtain ⟨once,next,after,user,only,same⟩ := formed.answered before asked there used
      obtain rfl : message = next := Option.some.inj (here.symm.trans after)
      exact ⟨user,only,same.nodup_iff.mpr once⟩
    refine ⟨⟨formed.present,formed.uses,fun message member some => ?_,
      fun index message here used => ?_⟩,⟨fun message member => ?_,fun message member => ?_,
      formed.placed⟩⟩
    · obtain ⟨user,only,-⟩ := follows message member some
      exact ⟨user,only⟩
    · obtain ⟨-,next,after,-,-,same⟩ := formed.answered index message here used
      exact ⟨next,after,fun id => same.mem_iff⟩
    · obtain ⟨index,here⟩ := List.mem_iff_getElem?.mp member
      by_cases none : message.uses = []
      · simp [none]
      · exact (formed.answered index message here none).1
    · by_cases none : message.answered = []
      · simp [none]
      · exact (follows message member none).2.2
  · rintro ⟨checked,once⟩
    refine ⟨checked.present,checked.uses,fun index message here used => ?_,once.placed⟩
    obtain ⟨next,after,same⟩ := checked.answered index message here used
    have member := List.mem_of_getElem? here
    have member' := List.mem_of_getElem? after
    have some : next.answered ≠ [] := by
      obtain ⟨id,first⟩ := List.exists_mem_of_ne_nil _ used
      exact List.ne_nil_of_mem ((same id).mpr first)
    obtain ⟨user,only⟩ := checked.results next member' some
    refine ⟨once.usedOnce message member,next,after,user,only,?_⟩
    exact (List.perm_ext_iff_of_nodup (once.answeredOnce next member')
      (once.usedOnce message member)).mpr same

/-- A list passes exactly when it is well formed, unless it meets all that is checked and
has an id twice or a tool result where there was no tool use. -/
theorem validate_iff_wellFormed (params : CreateMessageParams) :
    (params.validate = .ok () ↔ WellFormed params.messages) ↔
      (Checked params.messages → OneToOne params.messages) := by
  rw [validate_ok,wellFormed_iff]
  constructor
  · intro exact checked
    exact (exact.mp checked).2
  · intro once
    exact ⟨fun checked => ⟨checked,once checked⟩,And.left⟩

def orphanResult : CreateMessageParams :=
  ⟨[⟨.user,.one (.toolResult "a" [.text "18C" none] false)⟩]⟩

/-- Two tool uses of one id, answered by one result. -/
def repeatedUse : CreateMessageParams :=
  ⟨[⟨.assistant,.many [.toolUse "a" "t" (.obj []),.toolUse "a" "t" (.obj [])]⟩,
    ⟨.user,.one (.toolResult "a" [.text "18C" none] false)⟩]⟩

theorem orphanResult_passes :
    (orphanResult.validate = .ok () ∧ ¬ WellFormed orphanResult.messages) ∧
      (repeatedUse.validate = .ok () ∧ ¬ WellFormed repeatedUse.messages) := by
  refine ⟨⟨rfl,fun formed => ?_⟩,⟨rfl,fun formed => ?_⟩⟩
  · obtain ⟨before,asked,first,-⟩ := formed.placed 0 _ rfl (by decide)
    cases first
  · have once := (formed.answered 0 _ rfl (by decide)).1
    exact absurd once (by decide)

end Sampling

end SmlMcps
