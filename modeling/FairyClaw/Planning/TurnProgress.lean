import FairyClaw.Planning.Turn

/-! # The progress obligation of a turn

A turn that is not skipped and not forced to finish either ends with the task
terminal and the barrier checked, or publishes its own follow-up, unless the
response it acts on is empty (`FairyClaw.TurnWorld.progress_obligation`). With an empty
response it leaves the task running and nothing to start another turn
(`FairyClaw.TurnWorld.silent_turn`).
-/

namespace FairyClaw

open Foundation

/-- A hook output requests a forced finish. -/
def TurnAction.forcesFinish : TurnAction → Bool
  | respond forced _ => forced
  | forceFinish => true
  | _ => false

namespace TurnWorld

variable {task : String} {world next : TurnWorld}

/-- Steps of one turn without forced finishes, between which anybody else may take
steps that do not reopen the task behind the turn's terminal mark. -/
def withinTurn (task : String) : Machine.Guard TurnWorld TurnAction := fun world action =>
  action.begins = false ∧ action.forcesFinish = false ∧
    (action.isMessage = true → world.isTerminal task = false ∨ world.turn.beforeMark = true)

instance : DecidableRel (withinTurn task) := fun world _ =>
  inferInstanceAs (Decidable (_ ∧ _ ∧ (_ → world.isTerminal task = false ∨ _)))

/-- The turn has acted on an empty response. -/
def silent (world : TurnWorld) : Bool := world.response.any TurnResponse.isEmpty

/-- What the turn has discharged, or still stands to discharge, at each point. -/
def Progress (task : String) (world : TurnWorld) : Prop :=
  match world.turn with
  | .preparing | .deciding =>
      world.response = none ∧ world.checked = false ∧ world.followedUp = false
  | .replying _ | .beforeTool _ _ | .runningTool _ _ | .afterTool _ => world.silent = false
  | .shortReply => False
  | .marked _ | .notifying => world.silent = false ∧ world.isTerminal task = true
  | .barrier => world.silent = false ∧ world.isTerminal task = true ∧ world.checked = true
  | .idle =>
      (world.silent = true ∧ world.checked = false ∧ world.followedUp = false) ∨
        (world.silent = false ∧
          ((world.isTerminal task = true ∧ world.checked = true) ∨ world.followedUp = true))

/-- Progress depends on the turn and on what it has done. -/
theorem Progress.frame (progress : world.Progress task) (turn : next.turn = world.turn)
    (response : next.response = world.response) (checked : next.checked = world.checked)
    (followedUp : next.followedUp = world.followedUp)
    (ended : world.turn.beforeMark = false → world.isTerminal task = true →
      next.isTerminal task = true) :
    next.Progress task := by
  unfold Progress silent at *
  rw [turn, response, checked, followedUp]
  cases stands : world.turn with
  | idle =>
      rw [stands] at progress ended
      rcases progress with quiet | ⟨loud, ⟨terminal, barrier⟩ | followed⟩
      · exact Or.inl quiet
      · exact Or.inr ⟨loud, Or.inl ⟨ended rfl terminal, barrier⟩⟩
      · exact Or.inr ⟨loud, Or.inr followed⟩
  | marked | notifying =>
      rw [stands] at progress ended
      exact ⟨progress.1, ended rfl progress.2⟩
  | barrier =>
      rw [stands] at progress ended
      exact ⟨progress.1, ended rfl progress.2.1, progress.2.2⟩
  | _ =>
      rw [stands] at progress
      exact progress

/-- Acting on a response without a forced finish. -/
theorem Progress.respond (progress : world.Progress task) (deciding : world.turn = .deciding)
    (response : TurnResponse) : (world.actOnResponse false response).Progress task := by
  unfold Progress at progress
  rw [deciding] at progress
  obtain ⟨_, unchecked, quiet⟩ := progress
  unfold Progress silent actOnResponse TurnResponse.branch TurnResponse.isEmpty
  cases calls : response.calls with
  | nil =>
      by_cases empty : response.text.getD "" = ""
      · simp [calls, empty, unchecked, quiet]
      · simp [calls, empty]
  | cons call rest => simp [calls]

/-- A terminal mark of the turn. -/
theorem progress_marked (registered : world.Registered task) (loud : world.silent = false)
    (status summary : String) (failed : Bool) :
    { world.markSubtaskIfNonTerminal task status summary with
      turn := .marked failed }.Progress task :=
  ⟨loud, isTerminal_markSubtaskIfNonTerminal registered.known status summary⟩

/-- Every step of a turn keeps its progress. -/
theorem Progress.step (progress : world.Progress task) (registered : world.Registered task)
    {action : TurnAction} (allowed : withinTurn task world action)
    (stepped : world.step task action = some next) : next.Progress task := by
  have effect := step_cases stepped
  obtain ⟨continues, unforced, unopened⟩ := allowed
  have valid := progress
  unfold Progress at progress
  cases action with
  | begin => cases continues
  | forceFinish => cases unforced
  | read =>
      obtain ⟨stood, rfl⟩ := effect
      rw [stood] at progress
      exact progress
  | respond forced response =>
      obtain ⟨stood, rfl⟩ := effect
      cases forced with
      | true => cases unforced
      | false => exact valid.respond stood response
  | startTool | toolEnded =>
      obtain ⟨_, _, stood, rfl⟩ := effect
      rw [stood] at progress
      exact progress
  | nextTool =>
      obtain ⟨_, _, stood, rfl⟩ | ⟨stood, rfl⟩ := effect
      · rw [stood] at progress
        exact progress
      · rw [stood] at progress
        unfold handleToolFollowUp
        split
        · rename_i ended
          exact ⟨progress, ended, ended⟩
        · exact Or.inr ⟨progress, Or.inr rfl⟩
  | report status summary =>
      obtain ⟨_, stood, rfl⟩ := effect
      rw [stood] at progress
      unfold reportSubtaskDone
      split
      · exact valid
      · unfold Progress
        simp only [stood]
        exact progress
  | replied =>
      obtain ⟨text, stood, rfl⟩ := effect
      rw [stood] at progress
      exact progress_marked registered progress "completed" text false
  | raised exc =>
      obtain ⟨raises, rfl⟩ := effect
      refine progress_marked registered ?_ "failed" exc true
      cases stood : world.turn with
      | preparing | deciding =>
          rw [stood] at progress
          rw [silent, progress.1]
          rfl
      | shortReply =>
          rw [stood] at progress
          exact progress.elim
      | replying | beforeTool | runningTool | afterTool =>
          rw [stood] at progress
          exact progress
      | idle | marked | notifying | barrier =>
          rw [stood] at raises
          cases raises
  | persisted =>
      obtain ⟨_, stood, rfl⟩ := effect
      rw [stood] at progress
      unfold afterMark
      split
      · exact progress
      · exact ⟨progress.1, progress.2, progress.2⟩
  | notified =>
      obtain ⟨stood, rfl⟩ := effect
      rw [stood] at progress
      exact ⟨progress.1, progress.2, progress.2⟩
  | returned =>
      obtain ⟨stood, rfl⟩ := effect
      rw [stood] at progress
      exact Or.inr ⟨progress.1, Or.inl progress.2⟩
  | hookPublish | killReturned | append | sent | messageFailed =>
      obtain ⟨_, rfl⟩ := effect
      exact valid.frame rfl rfl rfl rfl fun _ => id
  | trigger | write =>
      subst effect
      exact valid.frame rfl rfl rfl rfl fun _ => id
  | kill =>
      obtain ⟨_, rfl⟩ := effect
      exact valid.frame rfl rfl rfl rfl fun _ _ =>
        SessionSubTaskState.isTerminal_markTerminal registered.known ..
  | message =>
      obtain ⟨_, rfl⟩ := effect
      refine valid.frame rfl rfl rfl rfl fun behind ended => ?_
      rcases unopened rfl with running | before
      · rw [running] at ended
        cases ended
      · rw [behind] at before
        cases before
  | other op =>
      obtain ⟨apart, tasks, performed, rfl⟩ := effect
      refine valid.frame rfl rfl rfl rfl fun _ ended => ?_
      have same := SessionSubTaskState.perform_getRecord_of_ne apart performed
      unfold isTerminal SessionSubTaskState.isTerminal at ended ⊢
      rw [same]
      exact ended

/-- **Progress.** For a turn that is not skipped and not forced to finish, when it
has returned: the task is terminal and the barrier was checked behind the terminal
mark, or a triggering event was published during the turn, exactly if the turn did
not act on an empty response, or somebody other than its own follow-up published a
triggering event. -/
theorem progress_obligation (task : String) (before start final : TurnWorld) (consumed : Nat)
    (reached : (machine task).Reachable Machine.anyStep before)
    (running : before.isTerminal task = false)
    (begun : (machine task).step before (.begin consumed) = some start)
    (run : (machine task).Steps (withinTurn task) start final) (returned : final.turn = .idle) :
    ((final.isTerminal task = true ∧ final.checked = true) ∨
      final.followedUp = true ∨ final.triggered = true) ↔
    ((∀ response, final.response = some response → response.isEmpty = false) ∨
      final.triggered = true) := by
  have progress : final.Progress task := by
    apply invariant_of_registered run (reachable_registered (reached.tail trivial begun))
    · intro before action after registered valid allowed stepped
      exact valid.step registered allowed stepped
    · have moved : before.step task (.begin consumed) = some start := begun
      obtain ⟨_, _, ⟨ended, _⟩ | ⟨_, rfl⟩⟩ := step_cases moved
      · rw [running] at ended
        cases ended
      · exact ⟨rfl, rfl, rfl⟩
  unfold Progress at progress
  rw [returned] at progress
  have silentIff : final.silent = false ↔
      ∀ response, final.response = some response → response.isEmpty = false := by
    unfold silent
    cases final.response with
    | none => exact ⟨fun _ => nofun, fun _ => rfl⟩
    | some response =>
        exact ⟨fun loud _ same => Option.some.inj same ▸ loud, fun loud => loud response rfl⟩
  rw [← silentIff]
  rcases progress with ⟨quiet, unchecked, unfollowed⟩ | ⟨loud, done⟩
  · rw [quiet, unchecked, unfollowed]
    simp only [Bool.false_eq_true, and_false, false_or, Bool.true_eq_false]
  · constructor
    · exact fun _ => Or.inl loud
    · intro _
      rcases done with checked | followed
      · exact Or.inl checked
      · exact Or.inr (Or.inl followed)

/-- The first turn replies with text. -/
def repliedRun : List TurnAction :=
  [.read, .respond false { text := some "done", calls := [] }, .replied, .persisted, .returned]

/-- The turn of the run ends its task, and checks the barrier. -/
theorem progress_obligation_of_repliedRun :
    ((after (.trigger :: .begin 1 :: repliedRun)).isTerminal "main_sub_1" = true ∧
      (after (.trigger :: .begin 1 :: repliedRun)).checked = true) ∨
    (after (.trigger :: .begin 1 :: repliedRun)).followedUp = true ∨
    (after (.trigger :: .begin 1 :: repliedRun)).triggered = true := by
  have triggered : (machine "main_sub_1").step delegated .trigger = some (after [.trigger]) := rfl
  have reached : (machine "main_sub_1").Reachable Machine.anyStep (after [.trigger]) :=
    .tail (.initial delegated_initial) trivial triggered
  have replayed : (machine "main_sub_1").replay (withinTurn "main_sub_1")
      (after [.trigger, .begin 1]) repliedRun =
        some (after (.trigger :: .begin 1 :: repliedRun)) := rfl
  have discharged := progress_obligation "main_sub_1" (after [.trigger]) (after [.trigger, .begin 1])
    (after (.trigger :: .begin 1 :: repliedRun)) 1 reached (by decide) rfl (.of_replay replayed) rfl
  refine discharged.mpr (Or.inl ?_)
  rintro _ ⟨rfl⟩
  decide

/-- The model answers the first turn with neither text nor tool calls. -/
def silentRun : List TurnAction :=
  [.trigger, .begin 1, .read, .respond false { text := none, calls := [] }]

/-- The turn has returned with the task running and nothing published, and no event
is owed that would start another. -/
theorem silent_turn : (machine "main_sub_1").Reachable Machine.anyStep (after silentRun) ∧
    (after silentRun).turn = .idle ∧ (after silentRun).isTerminal "main_sub_1" = false ∧
    (after silentRun).followedUp = false ∧ (after silentRun).triggered = false ∧
    (after silentRun).owed = 0 := by
  have replayed : (machine "main_sub_1").replay Machine.anyStep delegated silentRun =
      some (after silentRun) := rfl
  exact ⟨.of_replay delegated_initial replayed, rfl, by decide, rfl, rfl, rfl⟩

end TurnWorld

end FairyClaw
