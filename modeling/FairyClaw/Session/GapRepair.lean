import FairyClaw.Context.BeforeLlmCall
import FairyClaw.Foundation.Spans
import FairyClaw.Session.Memory

/-! # Gap repair

When the history of a turn is compressed, the session memory adds a note about the items that are
left out. The note and the end of the slice that it summarises are stored for the session, and the
note is used again while the slice of a turn ends no later. The end counts from the first item that
the turn loads, and a turn loads the most recent rows only.
-/

namespace FairyClaw

open Foundation

/-- What gap repair reads of the configuration. -/
structure SessionMemoryRuntimeConfig where
  gapHeadroomItems : Nat := 4
  minGapRepairCutItems : Nat := 3
  compactionMaxHistoryItems : Nat := 120
  summaryCharLimit : Nat := 1800

/-- The stored note, and what `load_gap_repair_state` gives without one. -/
structure GapRepairState where
  lastSliceExclusiveEnd : Nat := 0
  lastSummary : String := ""
  deriving DecidableEq, Repr

/-- `text[:limit]` -/
def clip (limit : Nat) (text : String) : String := String.ofList (text.toList.take limit)

/-- The line of an item in the transcript; none for a blank message. -/
def transcriptLine : ChatHistoryItem → Option String
  | .block block =>
      let text := strip block.asPlainText
      if text = "" then none else some (block.role.value ++ ": " ++ text)
  | .round round => some ("tool: " ++ Json.dumps (.obj
      [("tool", .str round.toolName), ("args", .str round.argumentsJson),
        ("result", .str (clip 400 round.toolResult))]))

/-- `_history_to_transcript` -/
def historyToTranscript (items : List ChatHistoryItem) : String :=
  String.intercalate "\n" (items.filterMap transcriptLine)

/-- The prompt of the summariser. -/
def gapRepairPrompt (previousSummary : Option String) (transcript : String) : String :=
  let priorBlock := match previousSummary with
    | none => ""
    | some previous =>
        "Previous gap-repair note for this session (same conversation; may overlap).\n" ++
        "Update only if the transcript adds material beyond it; otherwise tighten without " ++
        "repeating.\n\n" ++ previous ++ "\n\n---\n\n"
  "Summarize trimmed conversation context for gap repair after context compression.\n" ++
  "Preserve key user constraints, decisions, failures, and unfinished tasks.\n" ++
  "Keep under 8 bullet points. Do not ask questions. Do not include emojis or chit-chat.\n" ++
  "Return plain concise markdown only.\n\n" ++ priorBlock ++ transcript

/-- `_summarize_history_slice`; `chat` gives nothing where the client raises. -/
def summarizeHistorySlice (config : SessionMemoryRuntimeConfig) (chat : String → Option String)
    (sliceItems : List ChatHistoryItem) (previousSummary : Option String) : String :=
  let transcript := historyToTranscript sliceItems
  if transcript = "" then ""
  else
    match chat (gapRepairPrompt previousSummary transcript) with
    | some text => clip config.summaryCharLimit (strip text)
    | none => clip config.summaryCharLimit transcript

/-- `_strip_current_user_turn` -/
def stripCurrentUserTurn (fullHistory : List ChatHistoryItem) (userTurn : Option UserTurn) :
    List ChatHistoryItem :=
  match userTurn, fullHistory.getLast? with
  | some turn, some (.block tail) =>
      let currentUserText := strip turn.message.asPlainText
      if tail.role = .user ∧ currentUserText ≠ "" ∧ strip tail.asPlainText = currentUserText then
        fullHistory.dropLast
      else fullHistory
  | _, _ => fullHistory

/-- The history that is compared with the compressed one, and the end of its slice; none where
there is no gap to repair. -/
def gapSlice (config : SessionMemoryRuntimeConfig) (history : List ChatHistoryItem)
    (turn : LlmTurnContext) : Option (List ChatHistoryItem × Nat) :=
  let compressed := turn.historyItems
  if history.isEmpty || compressed.isEmpty then none
  else
    let fullHistory := stripCurrentUserTurn history turn.userTurn
    if fullHistory.length ≤ compressed.length then none
    else
      let cut := fullHistory.length - compressed.length
      if cut < max 1 config.minGapRepairCutItems then none
      else some (fullHistory, min fullHistory.length (cut + config.gapHeadroomItems))

/-- The note of a turn: none, the stored one, or a new one. -/
inductive GapRepairNote
  | none
  | reused (summary : String)
  | written (summary : String)
  deriving DecidableEq, Repr

/-- The text that a note adds to the messages. -/
def GapRepairNote.text : GapRepairNote → String
  | .none => ""
  | .reused summary | .written summary =>
      "[GapRepairContext]\n" ++ summary ++ "\n[/GapRepairContext]"

/-- `last_summary.strip() or None` -/
def GapRepairState.previousSummary (state : GapRepairState) : Option String :=
  if strip state.lastSummary = "" then none else some (strip state.lastSummary)

/-- `_build_gap_repair_patch`, for the history that it loads; `saves` tells whether the new state
can be written. -/
def buildGapRepairPatch (config : SessionMemoryRuntimeConfig) (chat : String → Option String)
    (saves : Bool) (history : List ChatHistoryItem) (turn : LlmTurnContext)
    (state : GapRepairState) : GapRepairNote × GapRepairState :=
  match gapSlice config history turn with
  | none => (.none, state)
  | some (fullHistory, stop) =>
      if stop ≤ state.lastSliceExclusiveEnd ∧ strip state.lastSummary ≠ "" then
        (.reused (strip state.lastSummary), state)
      else
        let summary := summarizeHistorySlice config chat (fullHistory.take stop)
          state.previousSummary
        if summary = "" then (.none, state)
        else if saves then
          (.written summary, { lastSliceExclusiveEnd := stop, lastSummary := summary })
        else (.written summary, state)

/-- What happens up to a turn and in it: the rows that are added to the history, the payload, the
block of the memory files, the client of the summariser, and whether the state can be written. -/
structure GapTurn where
  added : List EventRow
  payload : BeforeLlmCallHookPayload
  fileBlock : String
  chat : String → Option String
  saves : Bool

/-- A session between its turns: its rows, the stored state, and the spans of its items that the
stored note was made from, the newest first. -/
structure GapSession where
  rows : List EventRow := []
  state : GapRepairState := {}
  spans : List Span := []

/-- `str` on JSON values and on the parts of a message. -/
structure StrOf where
  value : Json → String
  parts : List JsonObject → String

namespace GapSession

variable (config : SessionMemoryRuntimeConfig) (str : StrOf) (session : GapSession)
  (turn : GapTurn)

/-- The history that a turn loads; none where a segment raises. -/
def load : Option (List ChatHistoryItem) :=
  getHistory str.value (session.rows ++ turn.added) config.compactionMaxHistoryItems

/-- The note and the state of a turn; a turn without messages skips gap repair. -/
def repair : Option (GapRepairNote × GapRepairState) :=
  if turn.payload.turn.llmMessages.isEmpty then some (.none, session.state)
  else (session.load config str turn).map fun history =>
    buildGapRepairPatch config turn.chat turn.saves history turn.payload.turn session.state

/-- `execute_hook`; none where it raises. -/
def executeHook : Option BeforeLlmCallHookPayload :=
  (session.repair config str turn).map fun repaired =>
    sessionMemoryPreContext str.parts
      ([turn.fileBlock, repaired.1.text].filter fun block => block ≠ "") turn.payload

/-- The items of a row, none where it raises. -/
def rowItems (row : EventRow) : List ChatHistoryItem := (parseRow str.value row).getD []

/-- The slice of a turn, as a span of the items of the session. -/
def span : Option Span := do
  let history ← session.load config str turn
  let (_, stop) ← gapSlice config history turn.payload.turn
  return {
    first := shownFrom (rowItems str) config.compactionMaxHistoryItems (session.rows ++ turn.added)
    count := stop }

/-- The spans that a new note is made from: its own, and those of the stored note when the
summariser is given it and returns. -/
def spansWith (new : Span) : List Span :=
  let returned := (session.load config str turn).bind fun history =>
    (gapSlice config history turn.payload.turn).bind fun slice =>
      turn.chat (gapRepairPrompt session.state.previousSummary
        (historyToTranscript (slice.1.take slice.2)))
  if session.state.previousSummary.isSome ∧ returned.isSome then new :: session.spans else [new]

/-- The session after a turn. -/
def after : GapSession :=
  match session.repair config str turn with
  | none => { session with rows := session.rows ++ turn.added }
  | some (note, state) => {
      rows := session.rows ++ turn.added
      state := state
      spans := match note, session.span config str turn with
        | .written _, some new =>
            if turn.saves then session.spansWith config str turn new else session.spans
        | _, _ => session.spans }

/-- The session after some turns. -/
def run (turns : List GapTurn) : GapSession := turns.foldl (after config str) {}

end GapSession

end FairyClaw
