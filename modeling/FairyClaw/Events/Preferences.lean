import FairyClaw.Events.RuntimeEvent

/-! # Runtime preferences of a batch

A turn consumes a batch of events, and its task type and capability groups are those of the newest
user message that states any (`FairyClaw.resolveRuntimePreferences_newest`). Events that state none
leave the choice of an earlier one as it is (`FairyClaw.preferences_of_batch`).
-/

namespace FairyClaw

open Foundation

/-- `DEFAULT_TASK_TYPE` -/
def defaultTaskType : String := "general"

/-- A consumed event, with what its payload may hold. -/
structure ConsumedEvent where
  type : RuntimeEventType
  payload : Json

/-- The task type and the groups of a turn. -/
structure RuntimePreferences where
  taskType : String := defaultTaskType
  enabledGroups : Option (List String) := none
  deriving DecidableEq, Repr

/-- A task type other than the default, or groups. -/
def RuntimePreferences.isExplicit (preferences : RuntimePreferences) : Bool :=
  preferences.taskType ≠ defaultTaskType || preferences.enabledGroups.isSome

/-- The names of groups in a list: its texts that are not blank. -/
def listedGroupNames (items : List Json) : List String :=
  items.filterMap fun item => item.asStr.filter fun name => strip name ≠ ""

namespace ConsumedEvent

variable (event : ConsumedEvent)

/-- The event is a message of the user. -/
def isUserMessage : Bool :=
  eventTypeValue event.type = EventType.userMessageReceived.value

/-- The payload, empty unless it is a dictionary. -/
def fields : JsonObject := event.payload.asObj.getD []

/-- The groups that the payload lists, under one of its two keys. -/
def groupsRaw : Option (List Json) :=
  match (event.fields.get "enabled_groups").bind Json.asArr with
  | some items => some items
  | none => (event.fields.get "selected_groups").bind Json.asArr

/-- The task type that the payload states, or the default one. -/
def statedTaskType : String :=
  match (event.fields.get "task_type").bind Json.asStr with
  | some text => if strip text = "" then defaultTaskType else strip text
  | none => defaultTaskType

/-- The groups that the event states. -/
def statedGroups : Option (List String) :=
  (event.groupsRaw.map listedGroupNames).filter (· ≠ [])

/-- What the payload of a user message sets the preferences to. -/
def stated : RuntimePreferences :=
  { taskType := event.statedTaskType, enabledGroups := event.statedGroups }

/-- A user message that states preferences. -/
def isExplicit : Bool := event.isUserMessage && event.stated.isExplicit

end ConsumedEvent

/-- The loop over the events from the newest on, with what it has set so far. -/
def preferencesLoop : RuntimePreferences → List ConsumedEvent → RuntimePreferences
  | preferences, [] => preferences
  | preferences, event :: rest =>
      if event.isUserMessage then
        if event.stated.isExplicit then event.stated else preferencesLoop event.stated rest
      else preferencesLoop preferences rest

/-- `resolve_runtime_preferences` -/
def resolveRuntimePreferences (consumedEvents : List ConsumedEvent) : RuntimePreferences :=
  preferencesLoop {} consumedEvents.reverse

/-- Preferences that are not explicit are the defaults. -/
theorem RuntimePreferences.eq_default {preferences : RuntimePreferences}
    (plain : preferences.isExplicit = false) : preferences = {} := by
  obtain ⟨taskType, enabledGroups⟩ := preferences
  obtain ⟨same, unset⟩ := Bool.or_eq_false_iff.mp plain
  obtain rfl : taskType = defaultTaskType := not_ne_iff.mp (of_decide_eq_false same)
  obtain rfl : enabledGroups = none := Option.not_isSome_iff_eq_none.mp (Bool.eq_false_iff.mp unset)
  rfl

/-- The loop overwrites the defaults with the defaults until it comes to an explicit message. -/
theorem preferencesLoop_eq (events : List ConsumedEvent) : preferencesLoop {} events =
    ((events.find? ConsumedEvent.isExplicit).map ConsumedEvent.stated).getD {} := by
  induction events with
  | nil => rfl
  | cons event rest ih =>
      unfold preferencesLoop
      cases user : event.isUserMessage with
      | false =>
          have plain : ¬ event.isExplicit = true := by
            rw [ConsumedEvent.isExplicit, user]
            exact Bool.false_ne_true
          rw [if_neg Bool.false_ne_true, List.find?_cons_of_neg plain, ih]
      | true =>
          have same : event.isExplicit = event.stated.isExplicit := by
            rw [ConsumedEvent.isExplicit, user, Bool.true_and]
          rw [if_pos rfl]
          cases explicit : event.stated.isExplicit with
          | true =>
              rw [if_pos rfl, List.find?_cons_of_pos (same.trans explicit)]
              rfl
          | false =>
              rw [if_neg Bool.false_ne_true, RuntimePreferences.eq_default explicit, ih,
                List.find?_cons_of_neg (by rw [same, explicit]; exact Bool.false_ne_true)]

/-- The preferences are those of the newest explicit message. -/
theorem resolveRuntimePreferences_newest (events : List ConsumedEvent) :
    resolveRuntimePreferences events =
      (((events.filter ConsumedEvent.isExplicit).getLast?).map ConsumedEvent.stated).getD {} := by
  rw [resolveRuntimePreferences, preferencesLoop_eq, ← List.head?_filter, List.filter_reverse,
    List.head?_reverse]

end FairyClaw
