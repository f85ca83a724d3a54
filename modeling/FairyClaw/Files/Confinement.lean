import FairyClaw.Files.Tools

/-! # What file tools leave alone

However many sessions call the tools that write files, and in whatever order, outside the places
that their roots lead to nothing changes but for directories made on the way into them, and every
path goes on leading where it led (`FairyClaw.file_tools_stay_within_roots`).
-/

namespace FairyClaw

open Foundation

variable {host : PathHost} {tree before after : HostTree} {place : List String}
  {within : List String → Prop}

/-- A place that an allowed root of one of the contexts leads above. -/
def WithinRoots (host : PathHost) (tree : HostTree) (contexts : PathContext → Prop)
    (place : List String) : Prop :=
  ∃ context, contexts context ∧ ∃ root ∈ context.allowedRoots,
    ∃ held, PathLeads host tree root held ∧ held <+: place

/-- Where nothing but files changes, the links are the same. -/
theorem links_congr (stays : before.Stays within after) :
    after.links.target = before.links.target :=
  stays.1

/-- There a path leads where it led. -/
theorem pathLeads_congr (stays : before.Stays within after) {path : String} :
    PathLeads host after path place ↔ PathLeads host before path place :=
  ⟨Leads.congr (links_congr stays), Leads.congr (links_congr stays).symm⟩

/-- There a settled place stays settled. -/
theorem settled_congr (stays : before.Stays within after) :
    Settled after.links place ↔ Settled before.links place := by
  rw [Settled, Settled, links_congr stays]

/-- No link leads on from a settled place. -/
theorem throughLinks_of_settled (settled : Settled tree.links place) :
    throughLinks tree place = some place :=
  follow_eq_some_iff.mpr (@Settled.leads _ tree.links [] place settled)

/-- What stands at a settled place stands there itself. -/
theorem standing_of_settled (settled : Settled tree.links place) :
    standing tree place = tree.node place := by
  rw [standing, throughLinks_of_settled settled]
  rfl

/-- No link stands at a settled place. -/
theorem linkTarget_of_settled (settled : Settled tree.links place) :
    tree.linkTarget place = none := by
  rcases List.eq_nil_or_concat place with rfl | ⟨front, name, rfl⟩
  · rw [FileTree.linkTarget, FileTree.node_root]
  · rw [List.concat_eq_append] at settled ⊢
    exact settled front name (List.prefix_refl _)

/-! ## Accepted paths -/

/-- An accepted path is settled and lies within a root. -/
theorem resolveSafePath_ok (loopless : Loopless tree.links) {context : PathContext}
    {path : String} {safe : SafeFilesystemPath}
    (accepted : resolveSafePath host tree context path = .ok safe) :
    Settled tree.links safe.path ∧ ∃ root ∈ context.allowedRoots,
      ∃ held, PathLeads host tree root held ∧ held <+: safe.path := by
  unfold resolveSafePath at accepted
  dsimp only at accepted
  split at accepted
  · cases accepted
  · obtain ⟨place, leads⟩ := loopless.leads
      ((abspath host (basedPath path (stated context.workspaceRoot))).map .name) []
    rcases firstWithin_spec _ loopless leads context.allowedRoots with
      ⟨other, found, same, inside, root, member, rooted⟩ | ⟨refused, _⟩
    · cases accepted.symm.trans found
      rw [same]
      exact ⟨PathLeads.settled leads, root, member, _, rooted, inside⟩
    · cases accepted.symm.trans refused

/-- An accepted argument leads to a settled place under an allowed root. -/
theorem resolveArgument_ok (loopless : Loopless tree.links) {context : PathContext}
    {path : Json} {safe : SafeFilesystemPath}
    (accepted : resolveArgument host tree context path = .ok safe) :
    Settled tree.links safe.path ∧ ∃ root ∈ context.allowedRoots,
      ∃ held, PathLeads host tree root held ∧ held <+: safe.path := by
  unfold resolveArgument at accepted
  split at accepted
  · exact resolveSafePath_ok loopless accepted
  · split at accepted
    · cases accepted
    · cases accepted

/-- Opening a file and writing to it changes its place only. -/
theorem openAndWrite_stays {answers : FileAnswers} {content : Except String (List UInt8)}
    (settled : Settled tree.links place) (inside : within place) :
    tree.Stays within (openAndWrite answers tree place content).1 := by
  have stored : ∀ bytes, ((throughLinks tree place).bind fun final =>
      tree.writeFile final bytes) = tree.writeFile place bytes := by
    intro bytes
    rw [throughLinks_of_settled settled]
    rfl
  have kept : ∀ bytes written, tree.writeFile place bytes = some written →
      tree.Stays within written :=
    fun _ _ done => FileTree.stays_writeFile inside (linkTarget_of_settled settled) done
  unfold openAndWrite
  simp only [stored]
  split
  · split
    · split
      · next done => exact kept _ _ done
      · exact .refl tree
    · split
      · split
        · next done => exact kept _ _ done
        · exact .refl tree
      · next count _ =>
          cases done : tree.writeFile place (List.take count _) with
          | none => exact .refl tree
          | some written => exact kept _ _ done
  · exact .refl tree

/-- Storing a file changes its place and makes the directories above it. -/
theorem storeFile_stays {answers : FileAnswers} {content : Except String (List UInt8)}
    (settled : Settled tree.links place) (inside : within place) :
    tree.Stays within (storeFile answers tree place content).1 := by
  have made : tree.Stays within
      (FileTree.makeDirs answers.allowsDirectory tree [] place.dropLast).1 :=
    FileTree.stays_makeDirs inside (List.dropLast_prefix place)
  unfold storeFile
  split
  · next dirs same =>
      rw [same] at made
      exact made.trans (openAndWrite_stays ((settled_congr made).mpr settled) inside)
  · next dirs same =>
      rw [same] at made
      exact made

/-! ## One call -/

section Calls

variable {answers : FileAnswers} {context : PathContext} {args : JsonObject}

/-- So it does when the outcome is known. -/
theorem storeFile_stays_of_eq {content : Except String (List UInt8)} {problem : Option String}
    (settled : Settled tree.links place) (inside : within place)
    (stored : storeFile answers tree place content = (after, problem)) :
    tree.Stays within after := by
  have kept : tree.Stays within (storeFile answers tree place content).1 :=
    storeFile_stays settled inside
  rw [stored] at kept
  exact kept

/-- A result has a value when it is one. -/
theorem toOption_eq_some {Error Value : Type} {result : Except Error Value} {value : Value} :
    result.toOption = some value ↔ result = .ok value := by
  cases result with
  | error => exact iff_of_false (by rintro ⟨⟩) (by rintro ⟨⟩)
  | ok other => exact ⟨fun same => congrArg _ (Option.some.inj same),
      fun same => congrArg _ (Except.ok.inj same)⟩

/-- The place of a call is settled and lies within a root of the caller, but for the place of an
image, which has been resolved before. -/
theorem target_settled (loopless : Loopless tree.links) {action : FileAction}
    (early : ∀ finished image, action.call ≠ .finishImage finished image)
    (targeted : action.target host tree = some place) :
    Settled tree.links place ∧ ∃ root ∈ action.context.allowedRoots,
      ∃ held, PathLeads host tree root held ∧ held <+: place := by
  have resolved : ∀ path safe, resolveSafePath host tree action.context path = .ok safe →
      Settled tree.links safe.path ∧ ∃ root ∈ action.context.allowedRoots,
        ∃ held, PathLeads host tree root held ∧ held <+: safe.path :=
    fun _ _ => resolveSafePath_ok loopless
  have argued : ∀ path safe, resolveArgument host tree action.context path = .ok safe →
      Settled tree.links safe.path ∧ ∃ root ∈ action.context.allowedRoots,
        ∃ held, PathLeads host tree root held ∧ held <+: safe.path :=
    fun _ _ => resolveArgument_ok loopless
  obtain ⟨context, answers, call⟩ := action
  cases call with
  | fsWrite args =>
      obtain ⟨path, _, targeted⟩ := Option.bind_eq_some_iff.mp targeted
      obtain ⟨safe, accepted, ⟨⟩⟩ := Option.bind_eq_some_iff.mp targeted
      exact argued path safe (toOption_eq_some.mp accepted)
  | fsDelete args =>
      obtain ⟨path, _, targeted⟩ := Option.bind_eq_some_iff.mp targeted
      obtain ⟨safe, accepted, ⟨⟩⟩ := Option.bind_eq_some_iff.mp targeted
      exact argued path safe (toOption_eq_some.mp accepted)
  | exportSessionFile args lookup =>
      obtain ⟨file, _, targeted⟩ := Option.bind_eq_some_iff.mp targeted
      obtain ⟨safeTarget, _, targeted⟩ := Option.bind_eq_some_iff.mp targeted
      obtain ⟨safeDest, accepted, ⟨⟩⟩ := Option.bind_eq_some_iff.mp targeted
      exact resolved _ safeDest (toOption_eq_some.mp accepted)
  | saveDownload url targetPath filename contentType content =>
      obtain ⟨safe, accepted, ⟨⟩⟩ := Option.bind_eq_some_iff.mp targeted
      exact resolved _ safe (toOption_eq_some.mp accepted)
  | beginImage outputPath =>
      obtain ⟨safe, accepted, ⟨⟩⟩ := Option.bind_eq_some_iff.mp targeted
      have found := toOption_eq_some.mp accepted
      unfold resolveOutput at found
      split at found
      · cases found
      · exact resolved _ safe found
  | finishImage finished image => exact absurd rfl (early finished image)

/-- `fs_write` changes the place of its path only. -/
theorem fsWrite_stays (settles : ∀ path safe, filePathArgument args = some path →
      resolveArgument host tree context path = .ok safe →
      Settled tree.links safe.path ∧ within safe.path) :
    tree.Stays within (fsWrite host answers context args tree).1 := by
  unfold fsWrite
  split
  · exact .refl tree
  · exact .refl tree
  · exact .refl tree
  · next found _ =>
      split
      · exact .refl tree
      · next accepted =>
          obtain ⟨settled, inside⟩ := settles _ _ found accepted
          split
          · next stored => exact storeFile_stays_of_eq settled inside stored
          · next stored => exact storeFile_stays_of_eq settled inside stored

/-- `fs_delete` changes the place of its path only. -/
theorem fsDelete_stays (settles : ∀ path safe, filePathArgument args = some path →
      resolveArgument host tree context path = .ok safe →
      Settled tree.links safe.path ∧ within safe.path) :
    tree.Stays within (fsDelete host answers context args tree).1 := by
  unfold fsDelete
  split
  · exact .refl tree
  · next found =>
      split
      · exact .refl tree
      · next accepted =>
          obtain ⟨settled, inside⟩ := settles _ _ found accepted
          split
          · dsimp only
            split
            · next deleted =>
                split at deleted
                · exact FileTree.stays_delete inside (linkTarget_of_settled settled) deleted
                · cases deleted
            · exact .refl tree
          · exact .refl tree

/-- `export_session_file` changes the place of its destination only. -/
theorem exportSessionFile_stays {lookup : Except String (Option SessionFile)}
    (settles : ∀ file safeTarget safe, lookup = .ok (some file) →
      resolveArgument host tree context (exportTarget host context args) = .ok safeTarget →
      resolveSafePath host tree context (exportDestination tree safeTarget file.filename) =
        .ok safe → Settled tree.links safe.path ∧ within safe.path) :
    tree.Stays within (exportSessionFile host answers context args lookup tree).1 := by
  unfold exportSessionFile
  split
  · exact .refl tree
  · exact .refl tree
  · exact .refl tree
  · split
    · exact .refl tree
    · next target =>
        split
        · exact .refl tree
        · next accepted =>
            obtain ⟨settled, inside⟩ := settles _ _ _ rfl target accepted
            split
            · next stored => exact storeFile_stays_of_eq settled inside stored
            · next stored => exact storeFile_stays_of_eq settled inside stored

/-- `download_file` changes the place of its file only. -/
theorem saveDownload_stays {url targetPath filename contentType : String} {content : List UInt8}
    (settles : ∀ safe, resolveSafePath host tree context
        (downloadCandidate answers targetPath filename) = .ok safe →
      Settled tree.links safe.path ∧ within safe.path) : tree.Stays within
      (saveDownload host answers context url targetPath filename contentType content tree).1 := by
  unfold saveDownload
  split
  · exact .refl tree
  · next accepted =>
      obtain ⟨settled, inside⟩ := settles _ accepted
      split
      · next stored => exact storeFile_stays_of_eq settled inside stored
      · next stored => exact storeFile_stays_of_eq settled inside stored

/-- **One call.** It changes its place only, but for directories made on the way, and an image that
is waited for changes nothing yet. -/
theorem step_stays {state next : FileState} {action : FileAction}
    (settles : ∀ place, action.target host state.tree = some place →
      Settled state.tree.links place ∧ within place)
    (steps : state.step host action = some next) :
    state.tree.Stays within next.tree ∧
      ∀ place ∈ next.awaited,
        place ∈ state.awaited ∨ action.target host state.tree = some place := by
  obtain ⟨context, answers, call⟩ := action
  cases call with
  | fsWrite args =>
      cases steps
      refine ⟨fsWrite_stays ?_, fun _ => Or.inl⟩
      intro path safe found accepted
      refine settles _ (Option.bind_eq_some_iff.mpr ⟨path, found, ?_⟩)
      exact Option.bind_eq_some_iff.mpr ⟨safe, toOption_eq_some.mpr accepted, rfl⟩
  | fsDelete args =>
      cases steps
      refine ⟨fsDelete_stays ?_, fun _ => Or.inl⟩
      intro path safe found accepted
      refine settles _ (Option.bind_eq_some_iff.mpr ⟨path, found, ?_⟩)
      exact Option.bind_eq_some_iff.mpr ⟨safe, toOption_eq_some.mpr accepted, rfl⟩
  | exportSessionFile args lookup =>
      cases steps
      refine ⟨exportSessionFile_stays ?_, fun _ => Or.inl⟩
      intro file safeTarget safe found target accepted
      refine settles _ (Option.bind_eq_some_iff.mpr ⟨file, by rw [found]; rfl, ?_⟩)
      refine Option.bind_eq_some_iff.mpr ⟨safeTarget, toOption_eq_some.mpr target, ?_⟩
      exact Option.bind_eq_some_iff.mpr ⟨safe, toOption_eq_some.mpr accepted, rfl⟩
  | saveDownload url targetPath filename contentType content =>
      cases steps
      refine ⟨saveDownload_stays fun safe accepted => settles _ ?_, fun _ => Or.inl⟩
      exact Option.bind_eq_some_iff.mpr ⟨safe, toOption_eq_some.mpr accepted, rfl⟩
  | beginImage outputPath =>
      rw [FileState.step] at steps
      cases resolved : resolveOutput host context outputPath state.tree with
      | error refusal =>
          simp only [resolved] at steps
          cases steps
          exact ⟨.refl _, fun _ => Or.inl⟩
      | ok safe =>
          simp only [resolved] at steps
          cases steps
          refine ⟨.refl _, fun place member => ?_⟩
          rcases List.mem_cons.mp member with rfl | old
          · exact Or.inr (Option.bind_eq_some_iff.mpr
              ⟨safe, toOption_eq_some.mpr resolved, rfl⟩)
          · exact Or.inl old
  | finishImage place image =>
      rw [FileState.step] at steps
      dsimp only at steps
      split at steps
      · cases steps
        obtain ⟨settled, inside⟩ := settles place rfl
        exact ⟨storeFile_stays settled inside, fun other left =>
          Or.inl (List.mem_of_mem_erase left)⟩
      · cases steps

end Calls

/-! ## Every run -/

/-- The sessions that take part. -/
def calledBy (contexts : PathContext → Prop) : Machine.Guard FileState FileAction :=
  fun _ action => contexts action.context

/-- What has changed so far is within the roots, and so are the places that images are waited for;
no link stands on the way to them. -/
structure RootConfined (host : PathHost) (before : HostTree) (contexts : PathContext → Prop)
    (state : FileState) : Prop where
  stays : before.Stays (WithinRoots host before contexts) state.tree
  awaited : ∀ place ∈ state.awaited, Settled before.links place ∧
    WithinRoots host before contexts place

variable {contexts : PathContext → Prop} {state next : FileState} {action : FileAction}

/-- The place of a call is settled and within the roots as they were before the run. -/
theorem RootConfined.target (loopless : Loopless before.links)
    (confined : RootConfined host before contexts state) (takesPart : contexts action.context)
    (steps : state.step host action = some next)
    (targeted : action.target host state.tree = some place) :
    Settled before.links place ∧ WithinRoots host before contexts place := by
  by_cases image : ∃ finished bytes, action.call = .finishImage finished bytes
  · obtain ⟨finished, bytes, same⟩ := image
    rw [FileAction.target, same] at targeted
    cases targeted
    rw [FileState.step, same] at steps
    dsimp only at steps
    split at steps
    · next member => exact confined.awaited _ member
    · cases steps
  · have circleless : Loopless state.tree.links :=
      loopless.congr (links_congr confined.stays).symm
    obtain ⟨settled, root, member, held, rooted, inside⟩ := target_settled circleless
      (fun finished bytes same => image ⟨finished, bytes, same⟩) targeted
    exact ⟨(settled_congr confined.stays).mp settled, _, takesPart, root, member, held,
      (pathLeads_congr confined.stays).mp rooted, inside⟩

/-- Every call of a session leaves the tree within its roots. -/
theorem RootConfined.step (loopless : Loopless before.links)
    (confined : RootConfined host before contexts state) (takesPart : contexts action.context)
    (steps : state.step host action = some next) : RootConfined host before contexts next := by
  have inside : ∀ place, action.target host state.tree = some place →
      Settled before.links place ∧ WithinRoots host before contexts place :=
    fun _ targeted => confined.target loopless takesPart steps targeted
  have settles : ∀ place, action.target host state.tree = some place →
      Settled state.tree.links place ∧ WithinRoots host before contexts place :=
    fun place targeted => ⟨(settled_congr confined.stays).mpr (inside place targeted).1,
      (inside place targeted).2⟩
  obtain ⟨stays, awaited⟩ := step_stays settles steps
  refine ⟨confined.stays.trans stays, fun place member => ?_⟩
  rcases awaited place member with old | targeted
  · exact confined.awaited place old
  · exact inside place targeted

/-- So do all calls of a run. -/
theorem RootConfined.run {start finish : FileState} (loopless : Loopless start.tree.links)
    (idle : start.awaited = [])
    (run : (fileTools host).Steps (calledBy contexts) start finish) :
    RootConfined host start.tree contexts finish := by
  refine run.invariant ?_ ?_
  · intro state action next confined takesPart steps
    exact confined.step loopless takesPart steps
  · refine ⟨.refl _, ?_⟩
    rw [idle]
    rintro _ ⟨⟩

/-- **Confinement.** Whatever tools the sessions call, in whatever order and with whatever failures,
outside the places of their roots nothing changes but for missing directories on the way into them,
no link changes, and every path leads where it led. -/
theorem file_tools_stay_within_roots (host : PathHost) (contexts : PathContext → Prop)
    (start finish : FileState) (loopless : Loopless start.tree.links) (idle : start.awaited = [])
    (run : (fileTools host).Steps (calledBy contexts) start finish) :
    start.tree.Stays (WithinRoots host start.tree contexts) finish.tree ∧
      ∀ path place,
        PathLeads host finish.tree path place ↔ PathLeads host start.tree path place := by
  have confined := RootConfined.run loopless idle run
  exact ⟨confined.stays, fun path place => pathLeads_congr confined.stays⟩

/-- A text for a file in the workspace. -/
def noteArgs : JsonObject := [("file_path", .str "/w/a.txt"), ("content", .str "hi")]

/-- A call of `fs_write` is a step. -/
theorem steps_fsWrite (start : FileState) (context : PathContext) (answers : FileAnswers)
    (args : JsonObject) (takesPart : contexts context) :
    (fileTools host).Steps (calledBy contexts) start
      { start with tree := (fsWrite host answers context args start.tree).1 } :=
  have steps : start.step host ⟨context, answers, .fsWrite args⟩ =
      some { start with tree := (fsWrite host answers context args start.tree).1 } := rfl
  have allowed : calledBy contexts start ⟨context, answers, .fsWrite args⟩ := takesPart
  .tail (.refl start) allowed steps

/-- A note is written within the workspace. -/
theorem file_tools_stay_within_workspace :
    linkedTree.Stays (WithinRoots {} linkedTree (· = workspace))
      (fsWrite {} {} workspace noteArgs linkedTree).1 := by
  have takesPart : (· = workspace) workspace := rfl
  have run : (fileTools {}).Steps (calledBy (· = workspace)) { tree := linkedTree }
      { tree := (fsWrite {} {} workspace noteArgs linkedTree).1 } :=
    steps_fsWrite { tree := linkedTree } workspace {} noteArgs takesPart
  generalize (fsWrite {} {} workspace noteArgs linkedTree).1 = after at run ⊢
  exact (file_tools_stay_within_roots {} (· = workspace) { tree := linkedTree } { tree := after }
    loopless_linkedTree rfl run).1

end FairyClaw
