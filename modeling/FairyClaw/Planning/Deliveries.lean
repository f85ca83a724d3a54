import FairyClaw.Planning.TurnCourse

/-! # Deliveries and the course of a turn

A push that raises ends the turn, or the tool that made it. Only the push of a main session's text
reply has nothing behind it. A turn whose other pushes do not raise takes the course it takes
without a gateway, and in a main session whose tools push undisturbed every other failure changes
the course (`FairyClaw.TurnSetting.delivery_failures`).
-/

namespace FairyClaw.TurnSetting

open Foundation Fallible

variable (setting : TurnSetting)

/-! ## Steadiness -/

theorem steady_emitAssistantText (site : PushSite) (text : String) :
    Steady fun faults => emitAssistantText faults site text :=
  .ite (steady_pure _) (steady_attempt site)

theorem steady_handleTextFallback (content : String) :
    Steady fun faults => setting.handleTextFallback faults content :=
  .ite (.bind (steady_update _) fun _ => steady_emitAssistantText _ _) (steady_pure _)

theorem steady_handlePreface (messageText : Option String) :
    Steady fun faults => setting.handlePreface faults messageText := by
  unfold handlePreface
  cases normalizeAssistantToolMessage messageText with
  | none => exact steady_pure _
  | some text =>
      exact .ite (.bind (steady_update _) fun _ => steady_emitAssistantText _ _) (steady_pure _)

theorem steady_runToolSteps (index : Nat) : ∀ (step : Nat) (steps : List ToolStep),
    Steady fun faults => runToolSteps faults index step steps
  | _, [] => steady_pure _
  | step, .effect _ :: rest =>
      .bind (steady_update _) fun _ => steady_runToolSteps index (step + 1) rest
  | step, .change _ :: rest =>
      .bind (steady_update _) fun _ => steady_runToolSteps index (step + 1) rest
  | step, .push :: rest =>
      .bind (steady_attempt _) fun _ => steady_runToolSteps index (step + 1) rest

theorem steady_runTool (index : Nat) (request : LlmToolCallRequest) (run : ToolRun) :
    Steady fun faults => runTool faults index request run :=
  .recover (.bind (steady_runToolSteps index 0 _) fun _ => steady_ofExcept _) fun _ => steady_pure _

theorem steady_outcomeOf (index : Nat) (request : LlmToolCallRequest) (run : ToolRun) :
    Steady fun faults => outcomeOf faults index request run := by
  unfold outcomeOf
  cases run.refusal with
  | some exc => exact steady_pure _
  | none => exact .bind (steady_runTool index request run) fun _ => steady_pure _

theorem steady_executeTool (index : Nat) (request : LlmToolCallRequest) :
    Steady fun faults => setting.executeTool faults index request :=
  .bind (steady_update _) fun _ => .bind steady_current fun _ => steady_outcomeOf index request _

theorem steady_recordRound (index : Nat) (request : LlmToolCallRequest) (callId result : String)
    (success : Bool) :
    Steady fun faults => setting.recordRound faults index request callId result success :=
  .ite (.bind (steady_update _) fun _ => steady_attempt _) (steady_pure _)

theorem steady_emitToolCall (index : Nat) :
    Steady fun faults => setting.emitToolCall faults index :=
  .ite (steady_attempt _) (steady_pure _)

theorem steady_askAfterTool (index : Nat) (request : LlmToolCallRequest) (result : String)
    (success : Bool) : Steady fun _ => setting.askAfterTool index request result success :=
  .bind steady_current fun _ => .bind (steady_update _) fun _ => steady_pure _

theorem steady_completeCall (index : Nat) (request : LlmToolCallRequest) :
    Steady fun faults => setting.completeCall faults index request :=
  .bind (setting.steady_executeTool index request) fun _ =>
    .bind (setting.steady_recordRound ..) fun _ => setting.steady_askAfterTool ..

theorem steady_runCall (index : Nat) (request : LlmToolCallRequest) :
    Steady fun faults => setting.runCall faults index request :=
  .bind (setting.steady_emitToolCall index) fun _ => setting.steady_completeCall index request

theorem steady_finishBatch (called : List String) (directive : ForceFinishDirective) :
    Steady fun _ => finishBatch called directive :=
  .bind (steady_update _) fun _ => steady_pure _

theorem steady_processCalls : ∀ (calls : List LlmToolCallRequest) (index : Nat)
    (called : List String), Steady fun faults => setting.processCalls faults index calls called
  | [], _, _ => steady_pure _
  | call :: rest, index, called => by
      refine .bind steady_current fun course => .bind (steady_update _) fun _ => ?_
      cases (setting.beforeTool course call index).forceFinish with
      | some directive => exact steady_finishBatch called directive
      | none =>
          refine .bind (setting.steady_runCall ..) fun after => ?_
          cases after.forceFinish with
          | some directive => exact steady_finishBatch _ directive
          | none => exact steady_processCalls rest (index + 1) _

theorem steady_handleTextResponse (messageText : Option String) :
    Steady fun faults => setting.handleTextResponse faults messageText := by
  refine .ite (steady_pure _) (.bind (setting.steady_handleTextFallback _) fun _ => ?_)
  cases setting.kind with
  | main => exact steady_pure _
  | sub task => exact steady_update _

theorem steady_handleToolFollowUp (prepared : PreparedTurn) (called : List String) :
    Steady fun _ => setting.handleToolFollowUp prepared called := by
  refine .bind steady_current fun course => ?_
  cases setting.kind with
  | main => exact .ite (steady_pure _) (steady_update _)
  | sub task => exact .ite (steady_update _) (.ite (steady_pure _) (steady_update _))

theorem steady_endBatch (prepared : PreparedTurn) (result : ToolBatchExecutionResult) :
    Steady fun _ => setting.endBatch prepared result := by
  unfold endBatch
  cases result.forceFinish with
  | some directive => exact steady_pure _
  | none => exact setting.steady_handleToolFollowUp prepared _

theorem steady_actOn (prepared : PreparedTurn) :
    Steady fun faults => setting.actOn faults prepared := by
  unfold actOn
  cases prepared.forceFinish with
  | some directive => exact .ite (steady_pure _) (setting.steady_handleTextFallback _)
  | none =>
      refine .ite (setting.steady_handleTextResponse _) ?_
      refine .bind (setting.steady_handlePreface _) fun _ => ?_
      exact .bind (setting.steady_processCalls ..) fun result => setting.steady_endBatch prepared _

/-! ## The pushes of the parts of a turn -/

variable {allowed : PushSite → Prop} (faults : Faults PushSite String)

theorem stays_handleTextFallback (reply : allowed .reply) (content : String) :
    Stays allowed (setting.handleTextFallback faults content) :=
  .ite (.bind (stays_update _) fun _ => .ite (stays_pure _) (stays_attempt faults reply))
    (stays_pure _)

theorem stays_handlePreface (preface : allowed .preface) (messageText : Option String) :
    Stays allowed (setting.handlePreface faults messageText) := by
  unfold handlePreface
  cases normalizeAssistantToolMessage messageText with
  | none => exact stays_pure _
  | some text =>
      exact .ite (.bind (stays_update _) fun _ => .ite (stays_pure _) (stays_attempt faults preface))
        (stays_pure _)

theorem stays_runToolSteps {index : Nat} (steps : ∀ step, allowed (.toolStep index step)) :
    ∀ (step : Nat) (rest : List ToolStep), Stays allowed (runToolSteps faults index step rest)
  | _, [] => stays_pure _
  | step, .effect _ :: rest =>
      .bind (stays_update _) fun _ => stays_runToolSteps steps (step + 1) rest
  | step, .change _ :: rest =>
      .bind (stays_update _) fun _ => stays_runToolSteps steps (step + 1) rest
  | step, .push :: rest =>
      .bind (stays_attempt faults (steps step)) fun _ => stays_runToolSteps steps (step + 1) rest

theorem stays_runTool {index : Nat} (steps : ∀ step, allowed (.toolStep index step))
    (request : LlmToolCallRequest) (run : ToolRun) :
    Stays allowed (runTool faults index request run) :=
  .recover (.bind (stays_runToolSteps faults steps 0 _) fun _ => stays_ofExcept _)
    fun _ => stays_pure _

theorem stays_outcomeOf {index : Nat} (steps : ∀ step, allowed (.toolStep index step))
    (request : LlmToolCallRequest) (run : ToolRun) :
    Stays allowed (outcomeOf faults index request run) := by
  unfold outcomeOf
  cases run.refusal with
  | some exc => exact stays_pure _
  | none => exact .bind (stays_runTool faults steps request run) fun _ => stays_pure _

theorem stays_executeTool {index : Nat} (steps : ∀ step, allowed (.toolStep index step))
    (request : LlmToolCallRequest) : Stays allowed (setting.executeTool faults index request) :=
  .bind (stays_update _) fun _ =>
    .bind stays_current fun _ => stays_outcomeOf faults steps request _

theorem stays_recordRound {index : Nat} (result : allowed (.toolResult index))
    (request : LlmToolCallRequest) (callId text : String) (success : Bool) :
    Stays allowed (setting.recordRound faults index request callId text success) :=
  .ite (.bind (stays_update _) fun _ => stays_attempt faults result) (stays_pure _)

theorem stays_askAfterTool (index : Nat) (request : LlmToolCallRequest) (result : String)
    (success : Bool) : Stays allowed (setting.askAfterTool index request result success) :=
  .bind stays_current fun _ => .bind (stays_update _) fun _ => stays_pure _

theorem stays_runCall {index : Nat} (call : allowed (.toolCall index))
    (steps : ∀ step, allowed (.toolStep index step)) (result : allowed (.toolResult index))
    (request : LlmToolCallRequest) : Stays allowed (setting.runCall faults index request) := by
  refine .bind (.ite (stays_attempt faults call) (stays_pure _)) fun _ => ?_
  refine .bind (setting.stays_executeTool faults steps request) fun outcome => ?_
  refine .bind (setting.stays_recordRound faults result _ _ _ _) fun _ => ?_
  exact setting.stays_askAfterTool index request _ _

theorem stays_finishBatch (called : List String) (directive : ForceFinishDirective) :
    Stays allowed (finishBatch called directive) :=
  .bind (stays_update _) fun _ => stays_pure _

theorem stays_processCalls (call : ∀ index, allowed (.toolCall index))
    (steps : ∀ index step, allowed (.toolStep index step))
    (result : ∀ index, allowed (.toolResult index)) :
    ∀ (calls : List LlmToolCallRequest) (index : Nat) (called : List String),
      Stays allowed (setting.processCalls faults index calls called)
  | [], _, _ => stays_pure _
  | request :: rest, index, called => by
      refine .bind stays_current fun course => .bind (stays_update _) fun _ => ?_
      cases (setting.beforeTool course request index).forceFinish with
      | some directive => exact stays_finishBatch called directive
      | none =>
          refine .bind (setting.stays_runCall faults (call index) (steps index) (result index) _)
            fun after => ?_
          cases after.forceFinish with
          | some directive => exact stays_finishBatch _ directive
          | none => exact stays_processCalls call steps result rest (index + 1) _

theorem stays_handleToolFollowUp (prepared : PreparedTurn) (called : List String) :
    Stays allowed (setting.handleToolFollowUp prepared called) := by
  refine .bind stays_current fun course => ?_
  cases setting.kind with
  | main => exact .ite (stays_pure _) (stays_update _)
  | sub task => exact .ite (stays_update _) (.ite (stays_pure _) (stays_update _))

theorem stays_endBatch (prepared : PreparedTurn) (result : ToolBatchExecutionResult) :
    Stays allowed (setting.endBatch prepared result) := by
  unfold endBatch
  cases result.forceFinish with
  | some directive => exact stays_pure _
  | none => exact setting.stays_handleToolFollowUp prepared _

theorem stays_forced (prepared : PreparedTurn) (called : List String)
    (directive : ForceFinishDirective) :
    Stays allowed (finishBatch called directive >>= setting.endBatch prepared) :=
  .bind (stays_finishBatch called directive) fun result => setting.stays_endBatch prepared result

/-- A response with tool calls pushes no text reply. -/
theorem stays_actOn_tools {prepared : PreparedTurn} (unfinished : prepared.forceFinish = none)
    (calls : prepared.toolCalls ≠ []) :
    Stays (· ≠ .reply) (setting.actOn faults prepared) := by
  rw [actOn, unfinished]
  simp only [if_neg calls]
  refine .bind (setting.stays_handlePreface faults (by simp) _) fun _ => ?_
  refine .bind (setting.stays_processCalls faults ?_ ?_ ?_ _ _ _) fun result => ?_
  · simp
  · simp
  · simp
  · exact setting.stays_endBatch prepared result

/-- Another response pushes nothing else. -/
theorem stays_actOn_text {prepared : PreparedTurn}
    (text : prepared.forceFinish ≠ none ∨ prepared.toolCalls = []) :
    Stays (· = .reply) (setting.actOn faults prepared) := by
  unfold actOn
  cases finished : prepared.forceFinish with
  | some directive =>
      exact .ite (stays_pure _) (setting.stays_handleTextFallback faults (by rfl) _)
  | none =>
      simp only [if_pos (text.resolve_left (not_not_intro finished))]
      refine .ite (stays_pure _) (.bind (setting.stays_handleTextFallback faults (by rfl) _) fun _ => ?_)
      cases setting.kind with
      | main => exact stays_pure _
      | sub task => exact stays_update _

theorem stays_handleFailure (exc : String) : Stays allowed (setting.handleFailure exc) := by
  unfold handleFailure
  cases setting.kind with
  | main => exact stays_pure _
  | sub task => exact stays_update _

/-! ## What a stopped batch leaves out -/

/-- Whether an event is of the turn's own course, and not the report of a failure or a barrier. -/
def ownEvent : CourseEvent → Bool
  | .failureNotified _ | .barrier _ => false
  | _ => true

/-- How far the turn has come. -/
def progress (course : TurnCourse) : Nat := course.events.countP ownEvent

theorem progress_record (course : TurnCourse) (events : List CourseEvent) :
    progress (course.record events) = progress course + events.countP ownEvent :=
  List.countP_append

theorem gains_log (events : List CourseEvent) : Gains progress 0 (log events) :=
  gains_update fun course => by
    rw [progress_record]
    exact Nat.le_add_right _ _

theorem gains_event {event : CourseEvent} (own : ownEvent event = true) :
    Gains progress 1 (log [event]) :=
  gains_update fun course => by rw [progress_record, List.countP_singleton, if_pos own]

theorem progress_publishSubtaskBarrierIfReady (course : TurnCourse) :
    progress course.publishSubtaskBarrierIfReady = progress course := by
  unfold TurnCourse.publishSubtaskBarrierIfReady
  cases course.tasks.barrierIfReady with
  | none => rfl
  | some barrier => exact progress_record course [.barrier barrier]

theorem progress_markSubtaskIfNonTerminal (course : TurnCourse) (task status summary : String) :
    progress (course.markSubtaskIfNonTerminal task status summary) = progress course := by
  unfold TurnCourse.markSubtaskIfNonTerminal
  split <;> rfl

theorem progress_handleFailure (course : TurnCourse) (task exc : String) :
    progress (course.handleFailure task exc) = progress course := by
  have notified (course : TurnCourse) :
      progress (course.notifyMainSessionSubtaskFailure task exc) = progress course := by
    unfold TurnCourse.notifyMainSessionSubtaskFailure
    split
    · rfl
    · exact progress_record course [.failureNotified _]
  unfold TurnCourse.handleFailure
  rw [progress_publishSubtaskBarrierIfReady]
  split
  · rw [notified, progress_markSubtaskIfNonTerminal]
  · exact progress_markSubtaskIfNonTerminal course task "failed" exc

theorem gains_runToolSteps (index : Nat) : ∀ (step : Nat) (steps : List ToolStep),
    Gains progress 0 (runToolSteps calm index step steps)
  | _, [] => gains_pure _
  | step, .effect _ :: rest =>
      .bind (gains_log _) fun _ => gains_runToolSteps index (step + 1) rest
  | step, .change _ :: rest =>
      .bind (gains_update fun _ => Nat.le_refl _) fun _ => gains_runToolSteps index (step + 1) rest
  | step, .push :: rest =>
      .bind (gains_attempt _) fun _ => gains_runToolSteps index (step + 1) rest

theorem gains_runTool (index : Nat) (request : LlmToolCallRequest) (run : ToolRun) :
    Gains progress 0 (runTool calm index request run) := by
  intro start
  obtain ⟨_, after, done, grown⟩ := gains_runToolSteps index 0 run.steps start
  rw [runTool, exec_recover, exec_bind_ok done, exec_ofExcept]
  cases run.result with
  | ok text => exact ⟨_, after, rfl, grown⟩
  | error exc => exact ⟨_, after, rfl, grown⟩

theorem gains_outcomeOf (index : Nat) (request : LlmToolCallRequest) (run : ToolRun) :
    Gains progress 0 (outcomeOf calm index request run) := by
  unfold outcomeOf
  cases run.refusal with
  | some exc => exact gains_pure _
  | none => exact .bind (gains_runTool index request run) fun _ => gains_pure _

theorem gains_executeTool (index : Nat) (request : LlmToolCallRequest) :
    Gains progress 1 (setting.executeTool calm index request) :=
  .follow (gains_event rfl) fun _ => .bind gains_current fun _ => gains_outcomeOf index request _

theorem gains_recordRound (index : Nat) (request : LlmToolCallRequest) (callId result : String)
    (success : Bool) :
    Gains progress 0 (setting.recordRound calm index request callId result success) :=
  .ite (.bind (gains_log _) fun _ => gains_attempt _) (gains_pure _)

theorem gains_emitToolCall (index : Nat) :
    Gains progress 0 (setting.emitToolCall calm index) :=
  .ite (gains_attempt _) (gains_pure _)

theorem gains_askAfterTool (index : Nat) (request : LlmToolCallRequest) (result : String)
    (success : Bool) : Gains progress 0 (setting.askAfterTool index request result success) :=
  .bind gains_current fun _ => .bind (gains_log _) fun _ => gains_pure _

theorem gains_completeCall (index : Nat) (request : LlmToolCallRequest) :
    Gains progress 1 (setting.completeCall calm index request) :=
  .follow (setting.gains_executeTool index request) fun _ =>
    .bind (setting.gains_recordRound index request _ _ _) fun _ =>
      setting.gains_askAfterTool index request _ _

theorem gains_runCall (index : Nat) (request : LlmToolCallRequest) :
    Gains progress 1 (setting.runCall calm index request) :=
  .bind (setting.gains_emitToolCall index) fun _ => setting.gains_completeCall index request

theorem gains_finishBatch (called : List String) (directive : ForceFinishDirective) :
    Gains progress 1 (finishBatch called directive) :=
  .follow (gains_event rfl) fun _ => gains_pure _

theorem gains_processCalls : ∀ (calls : List LlmToolCallRequest) (index : Nat)
    (called : List String), Gains progress 0 (setting.processCalls calm index calls called)
  | [], _, _ => gains_pure _
  | call :: rest, index, called => by
      refine .bind gains_current fun course => .bind (gains_log _) fun _ => ?_
      cases (setting.beforeTool course call index).forceFinish with
      | some directive => exact (gains_finishBatch called directive).mono (Nat.zero_le 1)
      | none =>
          refine .bind ((setting.gains_runCall index _).mono (Nat.zero_le 1)) fun after => ?_
          cases after.forceFinish with
          | some directive => exact (gains_finishBatch _ directive).mono (Nat.zero_le 1)
          | none => exact gains_processCalls rest (index + 1) _

theorem gains_handleToolFollowUp (prepared : PreparedTurn) (called : List String) :
    Gains progress 0 (setting.handleToolFollowUp prepared called) := by
  refine .bind gains_current fun course => ?_
  have logged : Gains progress 0
      (log [.followUp prepared.taskType prepared.resolvedGroups]) :=
    gains_log _
  cases setting.kind with
  | main => exact .ite (gains_pure _) logged
  | sub task =>
      refine .ite (gains_update fun course => ?_) (.ite (gains_pure _) logged)
      exact Nat.le_of_eq (progress_publishSubtaskBarrierIfReady course).symm

theorem gains_endBatch (prepared : PreparedTurn) (result : ToolBatchExecutionResult) :
    Gains progress 0 (setting.endBatch prepared result) := by
  unfold endBatch
  cases result.forceFinish with
  | some directive => exact gains_pure _
  | none => exact setting.gains_handleToolFollowUp prepared _

theorem gains_forced (prepared : PreparedTurn) (called : List String)
    (directive : ForceFinishDirective) :
    Gains progress 1 (finishBatch called directive >>= setting.endBatch prepared) :=
  .follow (gains_finishBatch called directive) fun result => setting.gains_endBatch prepared result

/-- A call that is still to be made, or the follow-up of the calls made in a main session. -/
def Unfinished (calls : List LlmToolCallRequest) (called : List String) : Prop :=
  calls ≠ [] ∨ setting.kind = .main ∧ called ≠ []

theorem gains_followUp (prepared : PreparedTurn) {called : List String}
    (main : setting.kind = .main) (named : called ≠ []) :
    Gains progress 1 (setting.handleToolFollowUp prepared called) := by
  refine .bind gains_current fun course => ?_
  rw [main]
  simp only [if_neg named]
  exact gains_event rfl

/-- An unfinished batch that nothing disturbs leaves a trace. -/
theorem gains_batch (prepared : PreparedTurn) : ∀ (calls : List LlmToolCallRequest) (index : Nat)
    (called : List String), setting.Unfinished calls called →
    Gains progress 1 (setting.processCalls calm index calls called >>= setting.endBatch prepared)
  | [], index, called, unfinished => by
      obtain ⟨main, named⟩ := unfinished.resolve_left (not_not_intro rfl)
      rw [processCalls, pure_bind]
      exact setting.gains_followUp prepared main named
  | call :: rest, index, called, _ => by
      rw [processCalls, bind_assoc]
      refine .bind gains_current fun course => ?_
      rw [bind_assoc]
      refine .bind (gains_log _) fun _ => ?_
      cases (setting.beforeTool course call index).forceFinish with
      | some directive => exact setting.gains_forced prepared called directive
      | none =>
          refine .follow ?_ fun result => setting.gains_endBatch prepared result
          refine .follow (setting.gains_runCall index _) fun after => ?_
          cases after.forceFinish with
          | some directive => exact (gains_finishBatch _ directive).mono (Nat.zero_le 1)
          | none => exact setting.gains_processCalls rest (index + 1) _

/-! ## Batches that stop -/

variable {faults : Faults PushSite String}

theorem stops_emitToolCall (index : Nat) :
    Stops progress faults 0 fun faults => setting.emitToolCall faults index :=
  .ite (stops_attempt _) (stops_pure _)

theorem stops_recordRound (index : Nat) (request : LlmToolCallRequest) (callId result : String)
    (success : Bool) : Stops progress faults 0 fun faults =>
      setting.recordRound faults index request callId result success :=
  .ite (.after (steady_update _) (gains_log _) (stays_update _) fun _ => stops_attempt _)
    (stops_pure _)

/-- A call that stops has not been executed, unless the push of its result has stopped it. -/
theorem stops_runCall {index margin : Nat} (steps : ∀ step, faults (.toolStep index step) = none)
    (recorded : margin = 0 ∨ margin = 1 ∧ faults (.toolResult index) = none)
    (request : LlmToolCallRequest) :
    Stops progress faults margin fun faults => setting.runCall faults index request := by
  refine .bind (setting.steady_emitToolCall index) (setting.gains_emitToolCall index)
    (setting.stops_emitToolCall index) (fun _ => ?_)
    (fun _ => setting.gains_completeCall index request) (by omega) (Nat.le_refl margin)
  refine .after (setting.steady_executeTool index request)
    ((setting.gains_executeTool index request).mono (Nat.zero_le 1))
    (setting.stays_executeTool calm steps request) fun outcome => ?_
  have asked (result : String) (success : Bool) : Stops progress faults margin fun _ =>
      setting.askAfterTool index request result success :=
    (setting.stays_askAfterTool index request result success).stops
  rcases recorded with rfl | ⟨rfl, fine⟩
  · exact .bind (setting.steady_recordRound index request _ _ _)
      (setting.gains_recordRound index request _ _ _)
      (setting.stops_recordRound index request _ _ _) (fun _ => asked _ _)
      (fun _ => setting.gains_askAfterTool index request _ _) (Nat.le_refl 0) (Nat.le_refl 0)
  · exact .after (setting.steady_recordRound index request _ _ _)
      (setting.gains_recordRound index request _ _ _)
      (setting.stays_recordRound calm fine request _ _ _) fun _ => asked _ _

/-- What comes after a call counts as missing too when the push of the result stops the turn. -/
theorem stops_call {index : Nat} (steps : ∀ step, faults (.toolStep index step) = none)
    (recorded : setting.kind = .main ∨ faults (.toolResult index) = none)
    (request : LlmToolCallRequest) {Result : Type}
    {next : Faults PushSite String → AfterToolAnswer → TurnM Result}
    (stops : ∀ after, Stops progress faults 1 fun faults => next faults after)
    (returns : ∀ after, Gains progress 0 (next calm after))
    (onward : setting.kind = .main → ∀ after, Gains progress 1 (next calm after)) :
    Stops progress faults 1 fun faults =>
      setting.runCall faults index request >>= next faults := by
  have returned := (setting.gains_runCall index request).mono (Nat.zero_le 1)
  rcases recorded with main | fine
  · exact .bind (setting.steady_runCall index request) returned
      (setting.stops_runCall steps (Or.inl rfl) request) stops (onward main)
      (Nat.le_refl 1) (Nat.le_refl 1)
  · exact .bind (setting.steady_runCall index request) returned
      (setting.stops_runCall steps (Or.inr ⟨rfl, fine⟩) request) stops returns
      (Nat.le_refl 1) (Nat.le_refl 1)

/-- A batch that stops misses a call or its follow-up. -/
theorem stops_batch (prepared : PreparedTurn)
    (steps : ∀ index step, faults (.toolStep index step) = none)
    (recorded : setting.kind = .main ∨ ∀ index, faults (.toolResult index) = none) :
    ∀ (calls : List LlmToolCallRequest) (index : Nat) (called : List String),
      Stops progress faults 1 fun faults =>
        setting.processCalls faults index calls called >>= setting.endBatch prepared
  | [], index, called => by
      simp only [processCalls, pure_bind]
      exact (setting.stays_endBatch prepared _).stops
  | call :: rest, index, called => by
      simp only [processCalls, bind_assoc]
      refine .after steady_current gains_current stays_current fun course => ?_
      refine .after (steady_update _) (gains_log _) (stays_update _) fun _ => ?_
      cases (setting.beforeTool course call index).forceFinish with
      | some directive => exact (setting.stays_forced prepared called directive).stops
      | none =>
          simp only [bind_assoc]
          refine setting.stops_call (steps index) (recorded.imp_right fun fine => fine index) _
            (fun after => ?_) (fun after => ?_) (fun main after => ?_)
          · cases after.forceFinish with
            | some directive => exact (setting.stays_forced prepared _ directive).stops
            | none => exact stops_batch prepared steps recorded rest (index + 1) _
          · cases after.forceFinish with
            | some directive => exact (setting.gains_forced prepared _ directive).mono (Nat.zero_le 1)
            | none =>
                exact .bind (setting.gains_processCalls rest (index + 1) _) fun result =>
                  setting.gains_endBatch prepared result
          · cases after.forceFinish with
            | some directive => exact setting.gains_forced prepared _ directive
            | none =>
                exact setting.gains_batch prepared rest (index + 1) _ (Or.inr ⟨main, by simp⟩)

theorem gains_handlePreface (messageText : Option String) :
    Gains progress 0 (setting.handlePreface calm messageText) := by
  unfold handlePreface
  cases normalizeAssistantToolMessage messageText with
  | none => exact gains_pure _
  | some text =>
      exact .ite (.bind (gains_log _) fun _ => .ite (gains_pure _) (gains_attempt _)) (gains_pure _)

theorem stops_handlePreface (messageText : Option String) :
    Stops progress faults 0 fun faults => setting.handlePreface faults messageText := by
  unfold handlePreface
  cases normalizeAssistantToolMessage messageText with
  | none => exact stops_pure _
  | some text =>
      refine .ite (.after (steady_update _) (gains_log _) (stays_update _) fun _ => ?_) (stops_pure _)
      exact .ite (stops_pure _) (stops_attempt _)

/-- A response with tool calls, stopped by a push, is missing an event. -/
theorem stops_actOn {prepared : PreparedTurn} (unfinished : prepared.forceFinish = none)
    (calls : prepared.toolCalls ≠ []) (steps : ∀ index step, faults (.toolStep index step) = none)
    (recorded : setting.kind = .main ∨ ∀ index, faults (.toolResult index) = none) :
    Stops progress faults 1 fun faults => setting.actOn faults prepared := by
  unfold actOn
  rw [unfinished]
  simp only [if_neg calls]
  exact .bind (setting.steady_handlePreface _) (setting.gains_handlePreface _)
    (setting.stops_handlePreface _)
    (fun _ => setting.stops_batch prepared steps recorded prepared.toolCalls 0 [])
    (fun _ => setting.gains_batch prepared prepared.toolCalls 0 [] (Or.inl calls))
    (Nat.le_refl 1) (Nat.le_refl 1)

/-- A turn that nothing disturbs returns once it is prepared. -/
theorem gains_actOn (prepared : PreparedTurn) :
    Gains progress 0 (setting.actOn calm prepared) := by
  unfold actOn
  have fallback (content : String) : Gains progress 0 (setting.handleTextFallback calm content) :=
    .ite (.bind (gains_log _) fun _ => .ite (gains_pure _) (gains_attempt _)) (gains_pure _)
  cases prepared.forceFinish with
  | some directive => exact .ite (gains_pure _) (fallback _)
  | none =>
      refine .ite (.ite (gains_pure _) (.bind (fallback _) fun _ => ?_)) ?_
      · cases setting.kind with
        | main => exact gains_pure _
        | sub task => 
            refine gains_update fun course => Nat.le_of_eq ?_
            rw [progress_publishSubtaskBarrierIfReady, progress_markSubtaskIfNonTerminal, Nat.add_zero]
      · exact .bind (setting.gains_handlePreface _) fun _ =>
          .bind (setting.gains_processCalls prepared.toolCalls 0 []) fun result =>
            setting.gains_endBatch prepared result

/-! ## Text replies -/

theorem exec_log (events : List CourseEvent) (start : Attempts PushSite TurnCourse) :
    exec (log events) start = (.ok ⟨⟩, { start with state := start.state.record events }) := rfl

/-- The status of the record of a task. -/
def statusOf (course : TurnCourse) (task : String) : Option String :=
  (course.tasks.getRecord task).map SubTaskRecord.status

theorem statusOf_publishSubtaskBarrierIfReady (course : TurnCourse) (task : String) :
    statusOf course.publishSubtaskBarrierIfReady task = statusOf course task := by
  unfold TurnCourse.publishSubtaskBarrierIfReady
  cases course.tasks.barrierIfReady <;> rfl

theorem statusOf_markSubtaskIfNonTerminal {course : TurnCourse} {task : String}
    (known : (course.tasks.getRecord task).isSome = true)
    (running : course.tasks.isTerminal task = false) (status summary : String) :
    statusOf (course.markSubtaskIfNonTerminal task status summary) task =
      some (SessionSubTaskState.normalizedTerminal status) := by
  obtain ⟨record, stored⟩ := Option.isSome_iff_exists.mp known
  rw [SessionSubTaskState.isTerminal_eq stored] at running
  unfold TurnCourse.markSubtaskIfNonTerminal statusOf
  rw [SessionSubTaskState.isTerminal_eq stored, running, if_neg Bool.false_ne_true]
  change ((course.tasks.markTerminal task status summary).2.getRecord task).map _ = _
  rw [SessionSubTaskState.markTerminal_getRecord stored, running, if_neg Bool.false_ne_true,
    Option.map_some]

theorem statusOf_handleFailure {course : TurnCourse} {task : String}
    (known : (course.tasks.getRecord task).isSome = true)
    (running : course.tasks.isTerminal task = false) (exc : String) :
    statusOf (course.handleFailure task exc) task = some "failed" := by
  have marked := statusOf_markSubtaskIfNonTerminal known running "failed" exc
  have notified (course : TurnCourse) :
      statusOf (course.notifyMainSessionSubtaskFailure task exc) task = statusOf course task := by
    unfold TurnCourse.notifyMainSessionSubtaskFailure SessionSubTaskState.markImmediateFailureNotified
    split
    · rfl
    · split <;> rfl
  unfold TurnCourse.handleFailure
  rw [statusOf_publishSubtaskBarrierIfReady]
  split
  · rw [notified, marked]
    decide
  · rw [marked]
    decide

/-- What follows the push of a text reply: nothing, or the completion of the subtask. -/
def Completes (before after : TurnCourse) : Prop :=
  after = before ∨ ∃ task text, setting.kind = .sub task ∧
    after = (before.markSubtaskIfNonTerminal task "completed" text).publishSubtaskBarrierIfReady

/-- A text reply is stored before it is pushed. -/
theorem exec_handleTextFallback (content : String) (start : Attempts PushSite TurnCourse) :
    ∃ after, after.state.tasks = start.state.tasks ∧
      exec (setting.handleTextFallback calm content) start = (.ok ⟨⟩, after) ∧
      (after.attempted = start.attempted ∨ ∀ (faults : Faults PushSite String) (error : String),
        faults .reply = some error →
          exec (setting.handleTextFallback faults content) start = (.error error, after)) := by
  unfold handleTextFallback emitAssistantText
  cases setting.hasMemory with
  | false => exact ⟨start, rfl, rfl, Or.inl rfl⟩
  | true =>
      let stored : Attempts PushSite TurnCourse :=
        { start with state := start.state.record [.message content] }
      have logged : exec (log [.message content]) start = (.ok ⟨⟩, stored) := exec_log _ start
      by_cases blank : strip content = ""
      · refine ⟨stored, rfl, ?_, Or.inl rfl⟩
        rw [if_pos rfl, exec_bind_ok logged, if_pos blank, exec_pure]
      · refine ⟨{ stored with attempted := stored.attempted ++ [.reply] }, rfl, ?_, Or.inr ?_⟩
        · rw [if_pos rfl, exec_bind_ok logged, if_neg blank, exec_attempt]
          rfl
        · intro faults error raises
          rw [if_pos rfl, exec_bind_ok logged, if_neg blank, exec_attempt, raises]

theorem exec_actOn_text {prepared : PreparedTurn}
    (text : prepared.forceFinish ≠ none ∨ prepared.toolCalls = [])
    (start : Attempts PushSite TurnCourse) :
    ∃ after final, after.state.tasks = start.state.tasks ∧
      exec (setting.actOn calm prepared) start = (.ok ⟨⟩, final) ∧
      setting.Completes after.state final.state ∧
      (final.attempted = start.attempted ∨ ∀ (faults : Faults PushSite String) (error : String),
        faults .reply = some error →
          exec (setting.actOn faults prepared) start = (.error error, after)) := by
  obtain ⟨after, tasks, stored, pushed⟩ :=
    setting.exec_handleTextFallback (prepared.messageText.getD "") start
  unfold actOn
  cases finished : prepared.forceFinish with
  | some directive =>
      by_cases empty : prepared.messageText.getD "" = ""
      · refine ⟨start, start, rfl, ?_, Or.inl rfl, Or.inl rfl⟩
        simp only [if_pos empty, exec_pure]
      · refine ⟨after, after, tasks, ?_, Or.inl rfl, ?_⟩
        · simp only [if_neg empty, stored]
        · simpa only [if_neg empty] using pushed
  | none =>
      simp only [if_pos (text.resolve_left (not_not_intro finished)), handleTextResponse]
      by_cases empty : prepared.messageText.getD "" = ""
      · refine ⟨start, start, rfl, ?_, Or.inl rfl, Or.inl rfl⟩
        simp only [if_pos empty, exec_pure]
      · simp only [if_neg empty, exec_bind_ok stored]
        cases kind : setting.kind with
        | main =>
            refine ⟨after, after, tasks, rfl, Or.inl rfl, ?_⟩
            exact pushed.imp_right fun stops faults error raises =>
              exec_bind_error (stops faults error raises) _
        | sub task =>
            refine ⟨after, _, tasks, rfl, Or.inr ⟨task, _, kind, rfl⟩, ?_⟩
            exact pushed.imp_right fun stops faults error raises =>
              exec_bind_error (stops faults error raises) _

/-! ## Turns -/

variable {links : PushSite → BridgeLink}

theorem faults_absent : setting.faults (fun _ => .absent) = calm := rfl

theorem faults_eq_none {site : PushSite} :
    setting.faults links site = none ↔ links site ≠ .closing := by
  unfold faults
  split
  · simp only [reduceCtorEq, false_iff, not_not]
    assumption
  · simp only [true_iff]
    assumption

/-- A turn ends before it pushes anything, or it is prepared, and then acts on what the model has
answered. -/
theorem runTurn_cases (start : TurnCourse) :
    (∃ result : Attempts PushSite TurnCourse, result.attempted = [] ∧
      ∀ links, setting.runTurn links start = result) ∨
    ∃ prepared, ∃ between : Attempts PushSite TurnCourse, between.attempted = [] ∧
      between.state.tasks = start.tasks ∧ setting.shouldSkip start = false ∧
      ∀ links, setting.runTurn links start =
        (exec (recover (setting.actOn (setting.faults links) prepared) setting.handleFailure)
          between).2 := by
  unfold runTurn runTurnWithPolicy
  simp only [exec_bind_ok (exec_current _)]
  cases skip : setting.shouldSkip start with
  | true => exact Or.inl ⟨{ state := start }, rfl, fun _ => rfl⟩
  | false =>
      let between : Attempts PushSite TurnCourse :=
        { state := start.record (setting.prepare start).1 }
      have run : exec setting.prepareTurn { state := start } =
          ((setting.prepare start).2, between) := by
        rw [prepareTurn, exec_bind_ok (exec_current _), exec_bind_ok (exec_log _ _), exec_ofExcept]
      cases answered : (setting.prepare start).2 with
      | error exc =>
          rw [answered] at run
          refine Or.inl ⟨(exec (setting.handleFailure exc) between).2, ?_, fun links => ?_⟩
          · have none_made : Stays (fun _ => False) (setting.handleFailure exc) :=
              setting.stays_handleFailure exc
            exact List.eq_nil_iff_forall_not_mem.mpr
              (none_made between fun _ member => List.not_mem_nil member)
          · rw [if_neg Bool.false_ne_true, exec_recover, exec_bind_error run]
      | ok prepared =>
          rw [answered] at run
          refine Or.inr ⟨prepared, between, rfl, rfl, rfl, fun links => ?_⟩
          rw [if_neg Bool.false_ne_true, exec_recover, exec_bind_ok run, exec_recover]

/-- A failure of the turn is handled without a push. -/
theorem attempted_recover (faults : Faults PushSite String) (prepared : PreparedTurn)
    (start : Attempts PushSite TurnCourse) :
    (exec (recover (setting.actOn faults prepared) setting.handleFailure) start).2.attempted =
      (exec (setting.actOn faults prepared) start).2.attempted := by
  rw [exec_recover]
  cases exec (setting.actOn faults prepared) start with
  | mk outcome after =>
      cases outcome with
      | ok value => rfl
      | error exc =>
          unfold handleFailure
          cases setting.kind <;> rfl

theorem exec_handleFailure_main (main : setting.kind = .main) (exc : String)
    (start : Attempts PushSite TurnCourse) :
    exec (setting.handleFailure exc) start = (.ok ⟨⟩, start) := by
  rw [handleFailure, main, exec_pure]

theorem exec_handleFailure_sub {task : String} (sub : setting.kind = .sub task) (exc : String)
    (start : Attempts PushSite TurnCourse) :
    exec (setting.handleFailure exc) start =
      (.ok ⟨⟩, { start with state := start.state.handleFailure task exc }) := by
  rw [handleFailure, sub, exec_update]

/-- The pushes that raise are those of text replies in a main session. -/
def OnlyReplies (links : PushSite → BridgeLink) (made : List PushSite) : Prop :=
  ∀ site ∈ made, links site = .closing → setting.kind = .main ∧ site = .reply

/-- An exception of a text reply comes when a main session has nothing left to do. -/
theorem actOn_same {prepared : PreparedTurn} {start : Attempts PushSite TurnCourse}
    (fresh : start.attempted = [])
    (only : setting.OnlyReplies links (exec (setting.actOn calm prepared) start).2.attempted) :
    (exec (recover (setting.actOn (setting.faults links) prepared) setting.handleFailure)
        start).2.state =
      (exec (recover (setting.actOn calm prepared) setting.handleFailure) start).2.state := by
  by_cases clean : ∀ site ∈ (exec (setting.actOn calm prepared) start).2.attempted,
      setting.faults links site = none
  · rw [exec_recover, exec_recover, (setting.steady_actOn prepared).same _ start clean]
  · push Not at clean
    obtain ⟨site, made, raises⟩ := clean
    obtain ⟨main, rfl⟩ := only site made
      (Decidable.of_not_not fun open_ => raises (setting.faults_eq_none.mpr open_))
    have text : prepared.forceFinish ≠ none ∨ prepared.toolCalls = [] := by
      by_contra tools
      push Not at tools
      exact setting.stays_actOn_tools calm tools.1 tools.2 start (by simp [fresh]) _ made rfl
    obtain ⟨after, final, -, done, completes, pushed⟩ := setting.exec_actOn_text text start
    rw [done] at made
    obtain ⟨error, raised⟩ := Option.ne_none_iff_exists'.mp raises
    have stopped := (pushed.resolve_left fun same => by simp [same, fresh] at made) _ error raised
    have settled : final.state = after.state := by
      rcases completes with same | ⟨task, _, sub, _⟩
      · exact same
      · rw [main] at sub
        cases sub
    rw [exec_recover, exec_recover, stopped, done]
    simp only [setting.exec_handleFailure_main main]
    exact settled.symm

/-- A subtask that a text reply leaves is not marked as failed. -/
theorem statusOf_completes {before after : TurnCourse} {task : String}
    (sub : setting.kind = .sub task) (known : (before.tasks.getRecord task).isSome = true)
    (running : before.tasks.isTerminal task = false) (completes : setting.Completes before after) :
    statusOf after task ≠ some "failed" := by
  rcases completes with rfl | ⟨other, text, same, rfl⟩
  · obtain ⟨record, stored⟩ := Option.isSome_iff_exists.mp known
    rw [SessionSubTaskState.isTerminal_eq stored] at running
    rw [statusOf, stored, Option.map_some]
    intro failed
    rw [Option.some.inj failed] at running
    exact absurd running (by decide)
  · cases sub.symm.trans same
    rw [statusOf_publishSubtaskBarrierIfReady, statusOf_markSubtaskIfNonTerminal known running]
    decide

/-- A turn stopped by another push ends in another state. -/
theorem onlyReplies_of_same {prepared : PreparedTurn} {start : Attempts PushSite TurnCourse}
    (fresh : start.attempted = []) (steps : ∀ index step, links (.toolStep index step) ≠ .closing)
    (subtask : ∀ task, setting.kind = .sub task →
      (start.state.tasks.getRecord task).isSome = true ∧
        start.state.tasks.isTerminal task = false ∧ ∀ index, links (.toolResult index) ≠ .closing)
    (same : (exec (recover (setting.actOn (setting.faults links) prepared) setting.handleFailure)
        start).2.state =
      (exec (recover (setting.actOn calm prepared) setting.handleFailure) start).2.state) :
    setting.OnlyReplies links (exec (setting.actOn calm prepared) start).2.attempted := by
  by_cases text : prepared.forceFinish ≠ none ∨ prepared.toolCalls = []
  · intro site made closing
    have reply : site = .reply := setting.stays_actOn_text calm text start (by simp [fresh]) site made
    subst reply
    refine ⟨?_, rfl⟩
    cases kind : setting.kind with
    | main => rfl
    | sub task =>
        exfalso
        obtain ⟨known, running, -⟩ := subtask task kind
        obtain ⟨after, final, tasks, done, completes, pushed⟩ := setting.exec_actOn_text text start
        rw [done] at made
        have stopped := (pushed.resolve_left fun same => by simp [same, fresh] at made)
          (setting.faults links) setting.sendError (if_pos closing)
        rw [exec_recover, exec_recover, stopped, done] at same
        simp only [setting.exec_handleFailure_sub kind] at same
        rw [← tasks] at known running
        refine setting.statusOf_completes kind known running completes ?_
        rw [← same]
        exact statusOf_handleFailure known running _
  · push Not at text
    have recorded : setting.kind = .main ∨ ∀ index, setting.faults links (.toolResult index) = none := by
      cases kind : setting.kind with
      | main => exact Or.inl rfl
      | sub task =>
          exact Or.inr fun index => setting.faults_eq_none.mpr ((subtask task kind).2.2 index)
    rcases setting.stops_actOn text.1 text.2
        (fun index step => setting.faults_eq_none.mpr (steps index step)) recorded start
        (by simp [fresh]) with clean | ⟨error, after, stopped, missing⟩
    · intro site made closing
      exact absurd closing (setting.faults_eq_none.mp (clean site made))
    · exfalso
      obtain ⟨_, final, done, -⟩ := setting.gains_actOn prepared start
      rw [exec_recover, exec_recover, stopped, done] at same
      rw [done] at missing
      have reported : progress (exec (setting.handleFailure error) after).2.state =
          progress after.state := by
        cases kind : setting.kind with
        | main => rw [setting.exec_handleFailure_main kind]
        | sub task =>
            rw [setting.exec_handleFailure_sub kind]
            exact progress_handleFailure after.state task error
      have equal := congrArg progress same
      change progress (exec (setting.handleFailure error) after).2.state = progress final.state at equal
      change progress after.state + 1 ≤ progress final.state at missing
      omega

/-- A call that reads a file. -/
def readCall : LlmToolCallRequest :=
  { callId := "call_1", name := "read_file", argumentsJson := "{}" }

/-- A call that writes a file. -/
def writeCall : LlmToolCallRequest :=
  { callId := "call_2", name := "write_file", argumentsJson := "{}" }

/-- A main session whose model asks for two calls. -/
def twoCalls : TurnSetting where
  kind := .main
  hasMemory := true
  sendError := "connection closed"
  prepare := fun _ => ([], .ok
    { taskType := "general", resolvedGroups := [], toolCalls := [readCall, writeCall],
      messageText := none, forceFinish := none })
  beforeTool := fun _ request _ => { effects := [], request := request, forceFinish := none }
  tool := fun _ _ => { steps := [], result := .ok "done" }
  recordEvent := fun _ => true
  afterTool := fun _ _ _ _ _ => { effects := [], forceFinish := none }

/-- The connection closes when the first result is pushed. -/
def closedAfterFirst (site : PushSite) : BridgeLink :=
  if site = .toolResult 0 then .closing else .live

end FairyClaw.TurnSetting
