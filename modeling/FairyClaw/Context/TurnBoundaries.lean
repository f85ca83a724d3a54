import FairyClaw.Context.Assembler
import FairyClaw.Foundation.Runs

/-! # Turn boundaries in the assembled messages

A planner turn numbers its tool calls from one and records some of them. The assembler
knows the turns only by these numbers. It keeps consecutive records of a turn together,
and it keeps two turns apart exactly when no turn opens with a record whose number
follows the last number recorded before it (`FairyClaw.turns_apart_iff`).
-/

namespace FairyClaw

open Foundation

/-! ## Call numbers -/

/-- `make_short_tool_call_id`; none where the number is too long to print. -/
def makeShortToolCallId (rawCallId : String) (index : Nat) : Option String := do
  let number ← printNat (index + 1)
  let normalized := (strip rawCallId).toList
  let suffix := if normalized ≠ [] then normalized.drop (normalized.length - 6) else number
  return String.ofList ("tc_".toList ++ number ++ '_' :: suffix)

/-- The ordinal of a short id is the number printed in it. -/
theorem toolCallOrdinal_of_printed {number : Nat} {digits : List Char}
    (printed : printNat number = some digits) (suffix : List Char) :
    toolCallOrdinal (String.ofList ("tc_".toList ++ digits ++ '_' :: suffix)) = some number := by
  have decimal := isDecimal_of_printNat printed
  have opened : "tc_".toList.isPrefixOf? ("tc_".toList ++ digits ++ '_' :: suffix) =
      some (digits ++ '_' :: suffix) := by
    rw [List.isPrefixOf?_eq_some_iff_append_eq, List.append_assoc]
  have taken : (digits ++ '_' :: suffix).takeWhile isDecimal = digits := by
    rw [List.takeWhile_append_of_pos decimal, List.takeWhile_cons_of_neg (by decide),
      List.append_nil]
  have left : (digits ++ '_' :: suffix).dropWhile isDecimal = '_' :: suffix := by
    rw [List.dropWhile_append_of_pos decimal, List.dropWhile_cons_of_neg (by decide)]
  have read : (String.ofList ("tc_".toList ++ digits ++ '_' :: suffix)).toList =
      "tc_".toList ++ digits ++ '_' :: suffix := String.toList_ofList
  rw [toolCallOrdinal, read, opened]
  simp [taken, left, printNat_ne_nil printed, parseInt_of_printNat printed]

/-- The number of a call is read back from its id. -/
theorem toolCallOrdinal_makeShort {rawCallId callId : String} {index : Nat}
    (made : makeShortToolCallId rawCallId index = some callId) :
    toolCallOrdinal callId = some (index + 1) := by
  unfold makeShortToolCallId at made
  obtain ⟨number, printed, made⟩ := Option.bind_eq_some_iff.mp made
  cases made
  exact toolCallOrdinal_of_printed printed _

/-! ## Batches with tags -/

section Tags

variable {Tag : Type}

/-- The tags of the calls, message by message: every message takes as many tags as it
has calls. -/
def callGroups (messages : List LlmChatMessage) (tags : List Tag) : List (List Tag) :=
  (messages.map fun message => message.toolCalls.length).splitLengths tags

/-- The tag of a round. -/
def roundTag (entry : ChatHistoryItem × Tag) : Option Tag :=
  match entry.1 with
  | .round _ => some entry.2
  | .block _ => none

/-- The second item goes on with the batch of the first. -/
def joinsTagged (first second : ChatHistoryItem × Tag) : Bool := first.1.joins second.1

/-- The groups that have a call. -/
def withCalls (groups : List (List Tag)) : List (List Tag) := groups.filter fun group => !group.isEmpty

/-- A group with a tag has calls. -/
theorem withCalls_cons {group : List Tag} (some_tag : group ≠ []) (groups : List (List Tag)) :
    withCalls (group :: groups) = group :: withCalls groups := by
  cases group with
  | nil => exact absurd rfl some_tag
  | cons => rfl

/-- A group without tags has none. -/
@[simp] theorem withCalls_nil_cons (groups : List (List Tag)) :
    withCalls ([] :: groups) = withCalls groups := rfl

/-- A message of the history makes a group without calls. -/
theorem callGroups_blockMessage (block : SessionMessageBlock) (messages : List LlmChatMessage)
    (tags : List Tag) :
    callGroups (blockMessage block :: messages) tags = [] :: callGroups messages tags := by
  simp [callGroups, blockMessage]

/-- Answers make no group with calls. -/
theorem callGroups_results (rounds : List ToolCallRound) (messages : List LlmChatMessage)
    (tags : List Tag) :
    withCalls (callGroups (rounds.map toolResultMessage ++ messages) tags) =
      withCalls (callGroups messages tags) := by
  induction rounds with
  | nil => rfl
  | cons round rounds ih => simpa [callGroups, withCalls, toolResultMessage] using ih

/-- A batch makes one group with the tags of its rounds. -/
theorem callGroups_toolBatch (content : OpenaiContent) {rounds : List ToolCallRound}
    (called : rounds ≠ []) (messages : List LlmChatMessage) {tags : List Tag}
    (as_many : tags.length = rounds.length) (more : List Tag) :
    withCalls (callGroups (toolBatch content rounds ++ messages) (tags ++ more)) =
      tags :: withCalls (callGroups messages more) := by
  have some_tag : tags ≠ [] := by
    rintro rfl
    exact called (List.length_eq_zero_iff.mp as_many.symm)
  have first : callGroups (toolBatch content rounds ++ messages) (tags ++ more) =
      tags :: callGroups (rounds.map toolResultMessage ++ messages) more := by
    simp [callGroups, toolBatch, ← as_many]
  rw [first, withCalls_cons some_tag, callGroups_results rounds]

/-- Without tags no group has calls. -/
theorem callGroups_nil (messages : List LlmChatMessage) :
    withCalls (callGroups messages ([] : List Tag)) = [] := by
  induction messages with
  | nil => rfl
  | cons message messages ih => simpa [callGroups, withCalls] using ih

/-- The tags of rounds are those of the run. -/
theorem filterMap_roundTag {run : List (ChatHistoryItem × Tag)} {rounds : List ToolCallRound}
    (called : run.map Prod.fst = rounds.map .round) :
    run.filterMap roundTag = run.map Prod.snd := by
  induction run generalizing rounds with
  | nil => rfl
  | cons entry run ih =>
      cases rounds with
      | nil => cases called
      | cons round rounds =>
          obtain ⟨first, others⟩ := List.cons_eq_cons.mp called
          have tagged : roundTag entry = some entry.2 := by rw [roundTag, first]
          rw [List.filterMap_cons_some tagged, ih others, List.map_cons]

/-- The rounds of a batch go on with each other. -/
theorem isChain_joinsTagged {run : List (ChatHistoryItem × Tag)} {rounds : List ToolCallRound}
    (called : run.map Prod.fst = rounds.map .round) (chain : rounds.IsChain (follows · ·)) :
    run.IsChain fun first second => joinsTagged first second := by
  have items : (run.map Prod.fst).IsChain fun first second => first.joins second := by
    rw [called]
    exact (List.isChain_map _).mpr chain
  exact (List.isChain_map _).mp items

/-- A batch at the head of the history is a group of its own. -/
theorem callGroups_batch (content : OpenaiContent) (messages : List LlmChatMessage)
    {tagged : List (ChatHistoryItem × Tag)} {entries : List ChatHistoryItem}
    (same : tagged.map Prod.fst = entries) :
    let rounds := collectConsecutiveToolRounds entries
    let rest := tagged.drop rounds.length
    rounds ≠ [] →
    withCalls (callGroups messages (rest.filterMap roundTag)) =
      withCalls ((rest.splitBy joinsTagged).map (List.filterMap roundTag)) →
    withCalls (callGroups (toolBatch content rounds ++ messages) (tagged.filterMap roundTag)) =
      withCalls ((tagged.splitBy joinsTagged).map (List.filterMap roundTag)) := by
  intro rounds rest called grouped
  have items : (tagged.take rounds.length).map Prod.fst = rounds.map .round := by
    rw [List.map_take, same]
    calc
      entries.take rounds.length =
          (rounds.map ChatHistoryItem.round ++ entries.drop rounds.length).take rounds.length := by
        rw [collect_append_drop entries]
      _ = rounds.map .round := List.take_left' (List.length_map _)
  have as_many : (tagged.take rounds.length).length = rounds.length := by
    simpa using congrArg List.length items
  have tags := filterMap_roundTag items
  have run : (tagged.take rounds.length ++ rest).splitBy joinsTagged =
      tagged.take rounds.length :: rest.splitBy joinsTagged := by
    refine splitBy_append ?_ (isChain_joinsTagged items (isChain_collect _)) ?_
    · rintro empty
      rw [empty] at as_many
      exact called (List.length_eq_zero_iff.mp as_many.symm)
    · intro last isLast next isNext
      have lastItem : last.1 ∈ (rounds.map ChatHistoryItem.round).getLast? := by
        rw [← items, List.getLast?_map]
        exact Option.mem_map_of_mem _ isLast
      rw [List.getLast?_map] at lastItem
      obtain ⟨final, isFinal, named⟩ := Option.map_eq_some_iff.mp lastItem
      have nextItem : next.1 ∈ (entries.drop rounds.length).head? := by
        rw [← same, ← List.map_drop, List.head?_map]
        exact Option.mem_map_of_mem _ isNext
      rw [joinsTagged, ← named]
      exact collect_stops _ final isFinal next.1 nextItem
  rw [List.take_append_drop] at run
  have split : tagged.filterMap roundTag =
      (tagged.take rounds.length).map Prod.snd ++ rest.filterMap roundTag := by
    rw [← tags, ← List.filterMap_append, List.take_append_drop]
  have some_tag : (tagged.take rounds.length).map Prod.snd ≠ [] := by
    intro empty
    rw [List.map_eq_nil_iff.mp empty] at as_many
    exact called (List.length_eq_zero_iff.mp as_many.symm)
  rw [split, callGroups_toolBatch content called messages (by simpa using as_many), grouped, run,
    List.map_cons, tags, withCalls_cons some_tag]

/-- A message stands alone. -/
theorem splitBy_block (block : SessionMessageBlock) (tag : Tag)
    (tagged : List (ChatHistoryItem × Tag)) :
    ((ChatHistoryItem.block block, tag) :: tagged).splitBy joinsTagged =
      [(.block block, tag)] :: tagged.splitBy joinsTagged := by
  rw [← List.singleton_append]
  refine splitBy_append (by simp) (List.isChain_singleton _) ?_
  rintro last ⟨⟩ next _
  rfl

/-- The groups of the assembled messages are the runs of the history. -/
theorem callGroups_assembleEntries (tagged : List (ChatHistoryItem × Tag))
    (messages : List LlmChatMessage) :
    withCalls (callGroups (assembleEntries (tagged.map Prod.fst) ++ messages)
        (tagged.filterMap roundTag)) =
      withCalls ((tagged.splitBy joinsTagged).map (List.filterMap roundTag)) := by
  generalize same : tagged.map Prod.fst = entries
  induction entries using assembleEntries.induct generalizing tagged with
  | case1 =>
      rw [List.map_eq_nil_iff.mp same]
      exact callGroups_nil _
  | case2 block entries rounds speaks ih =>
      obtain ⟨⟨item, tag⟩, tagged, rfl, rfl, others⟩ := List.map_eq_cons_iff.mp same
      rw [assembleEntries, if_pos speaks, List.append_assoc, splitBy_block]
      refine callGroups_batch _ _ others speaks.2 (ih _ ?_)
      rw [List.map_drop, others]
  | case3 block entries rounds silent ih =>
      obtain ⟨⟨item, tag⟩, tagged, rfl, rfl, others⟩ := List.map_eq_cons_iff.mp same
      rw [assembleEntries, if_neg silent, splitBy_block, List.cons_append,
        callGroups_blockMessage]
      exact ih tagged others
  | case4 round entries rounds ih =>
      rw [assembleEntries, List.append_assoc]
      refine callGroups_batch _ _ same (by simp) (ih _ ?_)
      rw [List.map_drop, same]

/-- Only rounds go on with each other. -/
theorem roundTags_of_joins {first second : ChatHistoryItem × Tag}
    (joined : joinsTagged first second) :
    roundTag first = some first.2 ∧ roundTag second = some second.2 := by
  obtain ⟨firstItem, firstTag⟩ := first
  obtain ⟨secondItem, secondTag⟩ := second
  cases firstItem with
  | block => cases joined
  | round =>
      cases secondItem with
      | block => cases joined
      | round => exact ⟨rfl, rfl⟩

/-- Rounds that follow each other in the history are calls of one message. -/
theorem isChain_sameGroup (tagged : List (ChatHistoryItem × Tag))
    (messages : List LlmChatMessage) :
    tagged.IsChain fun first second => joinsTagged first second →
      ∃ group ∈ callGroups (assembleEntries (tagged.map Prod.fst) ++ messages)
        (tagged.filterMap roundTag), first.2 ∈ group ∧ second.2 ∈ group := by
  refine (isChain_sameRun joinsTagged tagged).imp ?_
  intro first second together joined
  obtain ⟨run, isRun, isFirst, isSecond⟩ := together joined
  obtain ⟨firstTag, secondTag⟩ := roundTags_of_joins joined
  have firstIn : first.2 ∈ run.filterMap roundTag := List.mem_filterMap.mpr ⟨_, isFirst, firstTag⟩
  refine ⟨run.filterMap roundTag, ?_, firstIn, List.mem_filterMap.mpr ⟨_, isSecond, secondTag⟩⟩
  have kept : run.filterMap roundTag ∈
      withCalls ((tagged.splitBy joinsTagged).map (List.filterMap roundTag)) :=
    List.mem_filter.mpr ⟨List.mem_map_of_mem isRun, by simp [List.ne_nil_of_mem firstIn]⟩
  rw [← callGroups_assembleEntries tagged messages] at kept
  exact List.mem_of_mem_filter kept

/-- An observation is constant on the calls of every message exactly when rounds that
follow each other in the history agree on it. -/
theorem groups_constant_iff {Value : Type} (tagged : List (ChatHistoryItem × Tag))
    (messages : List LlmChatMessage) (observe : Tag → Value) :
    (∀ group ∈ callGroups (assembleEntries (tagged.map Prod.fst) ++ messages)
        (tagged.filterMap roundTag), ∀ first ∈ group, ∀ second ∈ group,
          observe first = observe second) ↔
      tagged.IsChain fun first second =>
        joinsTagged first second → observe first.2 = observe second.2 := by
  constructor
  · intro constant
    refine (isChain_sameGroup tagged messages).imp ?_
    intro first second together joined
    obtain ⟨group, isGroup, isFirst, isSecond⟩ := together joined
    exact constant group isGroup _ isFirst _ isSecond
  · intro agree group isGroup first isFirst second isSecond
    have kept : group ∈ withCalls (callGroups (assembleEntries (tagged.map Prod.fst) ++ messages)
        (tagged.filterMap roundTag)) :=
      List.mem_filter.mpr ⟨isGroup, by simp [List.ne_nil_of_mem isFirst]⟩
    rw [callGroups_assembleEntries] at kept
    obtain ⟨run, isRun, rfl⟩ := List.mem_map.mp (List.mem_of_mem_filter kept)
    have tag_of {tag : Tag} (member : tag ∈ run.filterMap roundTag) :
        ∃ entry ∈ run, entry.2 = tag := by
      obtain ⟨⟨item, own⟩, inRun, tagIs⟩ := List.mem_filterMap.mp member
      refine ⟨_, inRun, ?_⟩
      cases item with
      | block => cases tagIs
      | round => exact Option.some.inj tagIs
    obtain ⟨firstEntry, firstIn, rfl⟩ := tag_of isFirst
    obtain ⟨secondEntry, secondIn, rfl⟩ := tag_of isSecond
    exact constant_on_runs (fun entry => observe entry.2) agree run isRun _ firstIn _ secondIn

end Tags

/-! ## Planner turns -/

/-- What happens around one tool call: the request as the hooks before it hand it on,
whether they or the hooks after it force the batch to finish, and what the tool gives. -/
structure ToolCallRun where
  request : LlmToolCallRequest
  finishedBefore : Bool := false
  recordEvent : Bool := true
  resultText : String
  succeeded : Bool := true
  finishedAfter : Bool := false

/-- The rounds that `_process_tool_calls` records from a call's index on. -/
def processToolCalls : Nat → List ToolCallRun → List ToolCallRound
  | _, [] => []
  | index, run :: rest =>
      if run.finishedBefore then []
      else
        match (if run.request.callId ≠ "" then some run.request.callId
          else makeShortToolCallId "" index) with
        | none => []
        | some callId =>
            let recorded :=
              if run.recordEvent then
                [{ toolName := run.request.name
                   callId := callId
                   argumentsJson := run.request.argumentsJson
                   toolResult := run.resultText
                   success := run.succeeded }]
              else []
            if run.finishedAfter then recorded else recorded ++ processToolCalls (index + 1) rest

/-- A turn with its numbered calls, the blocks it recorded before its rounds (messages
that came in, the assistant's preface), and the rounds it recorded for some calls. -/
structure PlannerTurn where
  calls : List LlmToolCallRequest
  opening : List SessionMessageBlock
  recorded : List ToolCallRound
  numbered : ∀ index request, calls[index]? = some request →
    ∃ rawCallId, makeShortToolCallId rawCallId index = some request.callId
  subsequence : (recorded.map ToolCallRound.callId).Sublist
    (calls.map LlmToolCallRequest.callId)

/-- The ids of the recorded rounds are those of the calls, in their order. -/
theorem processToolCalls_sublist (index : Nat) (runs : List ToolCallRun)
    (named : ∀ run ∈ runs, run.request.callId ≠ "") :
    ((processToolCalls index runs).map ToolCallRound.callId).Sublist
      (runs.map fun run => run.request.callId) := by
  induction runs generalizing index with
  | nil => exact List.Sublist.slnil
  | cons run rest ih =>
      have others := ih (index + 1) fun run member => named run (List.mem_cons_of_mem _ member)
      have own : run.request.callId ≠ "" := named run List.mem_cons_self
      simp only [processToolCalls, own, ne_eq, not_false_eq_true, ↓reduceIte, List.map_cons]
      cases run.finishedBefore with
      | true => simp
      | false =>
          cases run.recordEvent <;> cases run.finishedAfter
          · simpa using others.cons run.request.callId
          · simp
          · simpa using others.cons_cons run.request.callId
          · simp

namespace PlannerTurn

/-- The turn that `_process_tool_calls` makes of numbered calls whose ids the hooks keep. -/
def ofRuns (calls : List LlmToolCallRequest) (opening : List SessionMessageBlock)
    (runs : List ToolCallRun)
    (numbered : ∀ index request, calls[index]? = some request →
      ∃ rawCallId, makeShortToolCallId rawCallId index = some request.callId)
    (kept : (runs.map fun run => run.request.callId) = calls.map LlmToolCallRequest.callId) :
    PlannerTurn where
  calls := calls
  opening := opening
  recorded := processToolCalls 0 runs
  numbered := numbered
  subsequence := by
    rw [← kept]
    refine processToolCalls_sublist 0 runs ?_
    intro run member empty
    have listed : "" ∈ calls.map LlmToolCallRequest.callId := by
      rw [← kept, ← empty]
      exact List.mem_map_of_mem member
    obtain ⟨request, isCall, named⟩ := List.mem_map.mp listed
    obtain ⟨index, found⟩ := List.mem_iff_getElem?.mp isCall
    obtain ⟨rawCallId, made⟩ := numbered index request found
    have number := toolCallOrdinal_makeShort made
    rw [named] at number
    have unnumbered : toolCallOrdinal "" = none := by decide
    rw [unnumbered] at number
    cases number

/-- The items that a turn leaves in the history. -/
def history (turn : PlannerTurn) : List ChatHistoryItem :=
  turn.opening.map .block ++ turn.recorded.map .round

/-- The numbers of the recorded calls. -/
def numbers (turn : PlannerTurn) : List Nat :=
  turn.recorded.filterMap fun round => toolCallOrdinal round.callId

/-- The turn leaves something in the history. -/
def records (turn : PlannerTurn) : Bool := !turn.history.isEmpty

/-- The later turn records a block first, or does not go on with the earlier turn's
numbers. -/
def Apart (earlier later : PlannerTurn) : Prop :=
  later.opening = [] → ∀ last ∈ earlier.numbers.getLast?, later.numbers.head? ≠ some (last + 1)

/-- A recorded round has the ordinal of its call. -/
theorem ordinal_of_recorded (turn : PlannerTurn) {round : ToolCallRound}
    (member : round ∈ turn.recorded) :
    ∃ index, toolCallOrdinal round.callId = some (index + 1) := by
  obtain ⟨request, isCall, same⟩ :=
    List.mem_map.mp (turn.subsequence.subset (List.mem_map_of_mem member))
  obtain ⟨index, found⟩ := List.mem_iff_getElem?.mp isCall
  obtain ⟨rawCallId, made⟩ := turn.numbered index request found
  rw [same] at made
  exact ⟨index, toolCallOrdinal_makeShort made⟩

/-- The ordinals of the rounds are the numbers of the turn. -/
theorem map_ordinal (turn : PlannerTurn) :
    (turn.recorded.map fun round => toolCallOrdinal round.callId) = turn.numbers.map some := by
  have numbered : ∀ round ∈ turn.recorded, ∃ index, toolCallOrdinal round.callId = some (index + 1) :=
    fun _ => turn.ordinal_of_recorded
  unfold numbers
  generalize turn.recorded = rounds at numbered
  induction rounds with
  | nil => rfl
  | cons round rest ih =>
      obtain ⟨index, number⟩ := numbered round List.mem_cons_self
      have others := ih fun round member => numbered round (List.mem_cons_of_mem _ member)
      simp [number, others]

/-- The last number is that of the last round. -/
theorem getLast?_numbers (turn : PlannerTurn) :
    turn.numbers.getLast? = turn.recorded.getLast?.bind fun round => toolCallOrdinal round.callId := by
  have mapped := congrArg List.getLast? turn.map_ordinal
  rw [List.getLast?_map, List.getLast?_map] at mapped
  cases last : turn.recorded.getLast? <;> cases number : turn.numbers.getLast? <;>
    simp_all

/-- The first number is that of the first round. -/
theorem head?_numbers (turn : PlannerTurn) :
    turn.numbers.head? = turn.recorded.head?.bind fun round => toolCallOrdinal round.callId := by
  have mapped := congrArg List.head? turn.map_ordinal
  rw [List.head?_map, List.head?_map] at mapped
  cases next : turn.recorded.head? <;> cases number : turn.numbers.head? <;>
    simp_all

/-- Two turns are apart when the last item of the one does not join the first of the other. -/
theorem apart_iff (earlier later : PlannerTurn) :
    (∀ last ∈ earlier.history.getLast?, ∀ next ∈ later.history.head?, last.joins next = false) ↔
      Apart earlier later := by
  unfold history Apart
  rw [getLast?_numbers, head?_numbers]
  cases later.opening with
  | cons block rest => simp [ChatHistoryItem.joins]
  | nil =>
      cases later.recorded with
      | nil => simp
      | cons next rest =>
          rw [List.getLast?_append, List.getLast?_map]
          cases earlier.recorded.getLast? with
          | none =>
              simp only [Option.map_none, Option.none_or, Option.bind_none]
              simp [ChatHistoryItem.joins]
          | some last =>
              simp [ChatHistoryItem.joins, ← Bool.not_eq_true, follows_iff]

end PlannerTurn

/-- The history that a sequence of turns leaves. -/
def turnsHistory (turns : List PlannerTurn) : List ChatHistoryItem :=
  turns.flatMap PlannerTurn.history

/-- The records of a sequence of turns: the index of the turn, and of its recorded round. -/
def recordTags (turns : List PlannerTurn) : List (Nat × Nat) :=
  turns.zipIdx.flatMap fun entry => (List.range entry.1.recorded.length).map fun round =>
    (entry.2, round)

/-- No message carries calls of two turns. -/
def RespectsTurns (messages : List LlmChatMessage) (turns : List PlannerTurn) : Prop :=
  ∀ group ∈ callGroups messages (recordTags turns), ∀ first ∈ group, ∀ second ∈ group,
    first.1 = second.1

/-- Neighbouring records of a turn with consecutive numbers are calls of one message. -/
def KeepsTogether (messages : List LlmChatMessage) (turns : List PlannerTurn) : Prop :=
  ∀ index turn place first second, turns[index]? = some turn →
    turn.recorded[place]? = some first → turn.recorded[place + 1]? = some second →
    follows first second →
    ∃ group ∈ callGroups messages (recordTags turns),
      (index, place) ∈ group ∧ (index, place + 1) ∈ group

/-- The items of a turn with the tags of its records. -/
def taggedTurn (entry : PlannerTurn × Nat) : List (ChatHistoryItem × (Nat × Nat)) :=
  (entry.1.opening.map fun block => (.block block, (entry.2, 0))) ++
    entry.1.recorded.zipIdx.map fun round => (.round round.1, (entry.2, round.2))

/-- The items of all turns, with their turns and rounds. -/
def taggedTurns (turns : List PlannerTurn) : List (ChatHistoryItem × (Nat × Nat)) :=
  turns.zipIdx.flatMap taggedTurn

/-- Without tags these are the items of the turn. -/
theorem taggedTurn_items (entry : PlannerTurn × Nat) :
    (taggedTurn entry).map Prod.fst = entry.1.history := by
  have rounds : (entry.1.recorded.zipIdx.map fun round => ChatHistoryItem.round round.1) =
      entry.1.recorded.map .round := by
    calc
      _ = (entry.1.recorded.zipIdx.map Prod.fst).map ChatHistoryItem.round := by
        rw [List.map_map]; rfl
      _ = entry.1.recorded.map .round := by rw [List.zipIdx_map_fst]
  simp [taggedTurn, PlannerTurn.history, Function.comp_def, rounds]

/-- Without tags these are the items of the turns. -/
theorem taggedTurns_items (turns : List PlannerTurn) :
    (taggedTurns turns).map Prod.fst = turnsHistory turns := by
  calc
    _ = turns.zipIdx.flatMap fun entry => entry.1.history := by
      simp only [taggedTurns, List.map_flatMap, taggedTurn_items]
    _ = (turns.zipIdx.map Prod.fst).flatMap PlannerTurn.history := by rw [List.flatMap_map]
    _ = turnsHistory turns := by rw [List.zipIdx_map_fst, turnsHistory]

/-- The rounds of a turn are numbered from zero. -/
theorem taggedTurn_tags (entry : PlannerTurn × Nat) :
    (taggedTurn entry).filterMap roundTag =
      (List.range entry.1.recorded.length).map fun round => (entry.2, round) := by
  have rounds : (entry.1.recorded.zipIdx.map fun round => (entry.2, round.2)) =
      (List.range entry.1.recorded.length).map fun round => (entry.2, round) := by
    rw [List.range_eq_range', ← List.zipIdx_map_snd, List.map_map]
    rfl
  simpa [taggedTurn, List.filterMap_append, List.filterMap_map, Function.comp_def, roundTag]
    using rounds

/-- The tags of the rounds are those of the records. -/
theorem taggedTurns_tags (turns : List PlannerTurn) :
    (taggedTurns turns).filterMap roundTag = recordTags turns := by
  simp only [taggedTurns, List.filterMap_flatMap, taggedTurn_tags, recordTags]

/-- An item has the tag of its turn. -/
theorem taggedTurn_turn {entry : PlannerTurn × Nat} {item : ChatHistoryItem × (Nat × Nat)}
    (member : item ∈ taggedTurn entry) : item.2.1 = entry.2 := by
  rcases List.mem_append.mp member with isBlock | isRound
  · obtain ⟨block, _, rfl⟩ := List.mem_map.mp isBlock
    rfl
  · obtain ⟨round, _, rfl⟩ := List.mem_map.mp isRound
    rfl

/-- A turn has items when it records something. -/
theorem taggedTurn_isEmpty (entry : PlannerTurn × Nat) :
    (!(taggedTurn entry).isEmpty) = entry.1.records := by
  rw [PlannerTurn.records, ← taggedTurn_items, List.isEmpty_map]

/-- The later of two turns opens a batch of its own exactly when they are apart. -/
theorem boundary_iff {earlier later : PlannerTurn × Nat} (before : earlier.2 < later.2) :
    (∀ last ∈ (taggedTurn earlier).getLast?, ∀ next ∈ (taggedTurn later).head?,
      joinsTagged last next → last.2.1 = next.2.1) ↔ earlier.1.Apart later.1 := by
  rw [← PlannerTurn.apart_iff, ← taggedTurn_items, ← taggedTurn_items, List.getLast?_map,
    List.head?_map]
  constructor
  · intro agree last isLast next isNext
    obtain ⟨lastEntry, inEarlier, rfl⟩ := Option.map_eq_some_iff.mp isLast
    obtain ⟨nextEntry, inLater, rfl⟩ := Option.map_eq_some_iff.mp isNext
    by_contra joined
    have same := agree lastEntry inEarlier nextEntry inLater (Bool.not_eq_false _ ▸ joined)
    rw [taggedTurn_turn (List.mem_of_getLast? inEarlier),
      taggedTurn_turn (List.mem_of_head? inLater)] at same
    omega
  · intro separated last isLast next isNext joined
    have apart := separated last.1 (Option.mem_map_of_mem _ isLast) next.1
      (Option.mem_map_of_mem _ isNext)
    rw [joinsTagged, apart] at joined
    cases joined

/-- Neighbours of the tagged history that share a batch are of one turn exactly when
neighbouring turns that record something are apart. -/
theorem isChain_taggedTurns_iff (turns : List PlannerTurn) :
    ((taggedTurns turns).IsChain fun first second =>
      joinsTagged first second → first.2.1 = second.2.1) ↔
      (turns.filter PlannerTurn.records).IsChain PlannerTurn.Apart := by
  let recording := turns.zipIdx.filter fun entry => entry.1.records
  have kept : recording.map taggedTurn =
      (turns.zipIdx.map taggedTurn).filter fun piece => !piece.isEmpty := by
    rw [List.filter_map]
    congr 1
    exact List.filter_congr fun entry _ => (taggedTurn_isEmpty entry).symm
  have pieces : (recording.map taggedTurn).flatten = taggedTurns turns := by
    rw [kept, List.flatten_filter_not_isEmpty, taggedTurns, List.flatMap_def]
  have nonempty : [] ∉ recording.map taggedTurn := by
    rw [kept]
    intro member
    simpa using List.of_mem_filter member
  have ordered : recording.IsChain fun first second => first.2 < second.2 := by
    have indices : (turns.zipIdx.map Prod.snd).Pairwise (· < ·) := by
      rw [List.zipIdx_map_snd]
      exact List.pairwise_lt_range'
    exact ((List.pairwise_map.mp indices).filter _).isChain
  have turnsOf : recording.map Prod.fst = turns.filter PlannerTurn.records := by
    calc
      recording.map Prod.fst = (turns.zipIdx.map Prod.fst).filter PlannerTurn.records := by
        rw [List.filter_map]; rfl
      _ = turns.filter PlannerTurn.records := by rw [List.zipIdx_map_fst]
  rw [← pieces, List.isChain_flatten nonempty, ← turnsOf, List.isChain_map, List.isChain_map]
  constructor
  · rintro ⟨_, apart⟩
    exact isChain_mp ordered (apart.imp fun _ _ separated before => (boundary_iff before).mp separated)
  · intro apart
    refine ⟨?_, isChain_mp ordered
      (apart.imp fun _ _ separated before => (boundary_iff before).mpr separated)⟩
    intro piece member
    obtain ⟨entry, _, rfl⟩ := List.mem_map.mp member
    refine List.Pairwise.isChain (List.pairwise_of_forall_mem_list ?_)
    intro first isFirst second isSecond _
    rw [taggedTurn_turn isFirst, taggedTurn_turn isSecond]

/-- The groups of the prompt are those of the turns. -/
theorem callGroups_assemble (systemPrompt : SystemPromptPart) (turns : List PlannerTurn)
    (userEntry : Option UserTurn) :
    callGroups (assemble systemPrompt (turnsHistory turns) userEntry) (recordTags turns) =
      [] :: callGroups (assembleEntries ((taggedTurns turns).map Prod.fst) ++
        (userEntry.map fun entry => blockMessage entry.message).toList)
          ((taggedTurns turns).filterMap roundTag) := by
  rw [taggedTurns_items, taggedTurns_tags]
  simp [callGroups, assemble]

/-- A turn that records its first call is kept apart from every turn before it. -/
theorem PlannerTurn.apart_of_first {earlier later : PlannerTurn}
    (first : later.numbers.head? = some 1) : earlier.Apart later := by
  rintro - last isLast follow
  rw [first] at follow
  obtain ⟨round, recorded, number⟩ := List.mem_filterMap.mp (List.mem_of_getLast? isLast)
  obtain ⟨index, numbered⟩ := earlier.ordinal_of_recorded recorded
  have positive : last = index + 1 := Option.some.inj (number.symm.trans numbered)
  have one : last + 1 = 1 := (Option.some.inj follow).symm
  omega

/-- No batch crosses a turn when turns that record something are apart. -/
theorem respectsTurns_iff (systemPrompt : SystemPromptPart) (turns : List PlannerTurn)
    (userEntry : Option UserTurn) :
    RespectsTurns (assemble systemPrompt (turnsHistory turns) userEntry) turns ↔
      (turns.filter PlannerTurn.records).IsChain PlannerTurn.Apart := by
  rw [RespectsTurns, callGroups_assemble, List.forall_mem_cons, ← isChain_taggedTurns_iff,
    ← groups_constant_iff _ (userEntry.map fun entry => blockMessage entry.message).toList]
  exact and_iff_right fun first member => (List.not_mem_nil member).elim

/-- No batch of a turn is broken. -/
theorem keepsTogether (systemPrompt : SystemPromptPart) (turns : List PlannerTurn)
    (userEntry : Option UserTurn) :
    KeepsTogether (assemble systemPrompt (turnsHistory turns) userEntry) turns := by
  intro index turn place first second isTurn isFirst isSecond following
  rw [callGroups_assemble]
  have chain := isChain_sameGroup (taggedTurns turns)
    (userEntry.map fun entry => blockMessage entry.message).toList
  have rounds : [(ChatHistoryItem.round first, (index, place)),
      (ChatHistoryItem.round second, (index, place + 1))] <:+: taggedTurn (turn, index) := by
    refine (infix_of_neighbours place ?_ ?_).trans (List.suffix_append _ _).isInfix
    · simp [isFirst]
    · simp [isSecond]
  have inside : taggedTurn (turn, index) <:+: taggedTurns turns := by
    rw [taggedTurns, List.flatMap_def]
    exact List.infix_of_mem_flatten
      (List.mem_map_of_mem (List.mk_mem_zipIdx_iff_getElem?.mpr isTurn))
  have pair := List.IsChain.infix chain (rounds.trans inside)
  obtain ⟨group, isGroup, together⟩ := List.isChain_pair.mp pair following
  exact ⟨group, List.mem_cons_of_mem _ isGroup, together⟩

/-- No message carries calls of two turns, and neighbouring records with consecutive
numbers stay together, exactly when neighbouring turns that record something are apart. -/
theorem turns_apart_iff (systemPrompt : SystemPromptPart) (turns : List PlannerTurn)
    (userEntry : Option UserTurn) :
    (RespectsTurns (assemble systemPrompt (turnsHistory turns) userEntry) turns ∧
      KeepsTogether (assemble systemPrompt (turnsHistory turns) userEntry) turns) ↔
      (turns.filter PlannerTurn.records).IsChain PlannerTurn.Apart := by
  rw [respectsTurns_iff, and_iff_left (keepsTogether systemPrompt turns userEntry)]

/-- A turn that records its only call. -/
def recordedTurn : PlannerTurn where
  calls := [{ callId := "tc_1_1", name := "list_files", argumentsJson := "null" }]
  opening := []
  recorded := [
    { toolName := "list_files", callId := "tc_1_1", argumentsJson := "null", toolResult := "" }]
  numbered := by
    rintro (_ | index) request found
    · cases found
      exact ⟨"", by decide⟩
    · cases found
  subsequence := List.Sublist.refl _

/-- A turn whose first call is not recorded. -/
def secondOnlyTurn : PlannerTurn where
  calls := [
    { callId := "tc_1_1", name := "ping", argumentsJson := "null" },
    { callId := "tc_2_2", name := "list_files", argumentsJson := "null" }]
  opening := []
  recorded := [
    { toolName := "list_files", callId := "tc_2_2", argumentsJson := "null", toolResult := "" }]
  numbered := by
    rintro (_ | _ | index) request found
    · cases found
      exact ⟨"", by decide⟩
    · cases found
      exact ⟨"", by decide⟩
    · cases found
  subsequence := List.Sublist.cons _ (List.Sublist.refl _)

/-- The calls of two turns become one batch. -/
theorem turns_merge :
    ¬(RespectsTurns (assemble { text := "" } (turnsHistory [recordedTurn, secondOnlyTurn]) none)
        [recordedTurn, secondOnlyTurn] ∧
      KeepsTogether (assemble { text := "" } (turnsHistory [recordedTurn, secondOnlyTurn]) none)
        [recordedTurn, secondOnlyTurn]) := by
  rintro ⟨respects, _⟩
  have chain := (respectsTurns_iff _ _ _).mp respects
  have apart : recordedTurn.Apart secondOnlyTurn := List.isChain_pair.mp chain
  exact apart rfl 1 (by decide) (by decide)

end FairyClaw
