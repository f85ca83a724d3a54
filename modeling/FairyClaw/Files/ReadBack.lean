import FairyClaw.Files.Confinement

/-! # What is read

A text that has been written is read back, with its line ends as Python reads them, until another
call works on its place; by which path or session it is read does not matter
(`FairyClaw.fs_read_after_fs_write`). What the reading tools answer depends on the links and on what
stands within the roots only (`FairyClaw.file_readers_see_roots_only`).
-/

namespace FairyClaw

open Foundation

variable {host : PathHost} {tree other before after : HostTree} {place : List String}

/-- A text reads back from its bytes. -/
theorem decodeUtf8_encodeUtf8 (text : String) : decodeUtf8 (encodeUtf8 text) = some text := by
  unfold decodeUtf8 encodeUtf8
  rw [Array.toArray_toList, String.fromUTF8?, dif_pos text.isValidUTF8]
  rfl

/-! ## The same links -/

/-- The real path depends on the links only. -/
theorem realpath_congr (same : other.linkTarget = tree.linkTarget) (path : String) :
    realpath host other path = realpath host tree path := by
  refine Option.ext fun place => ?_
  rw [realpath_eq_some_iff, realpath_eq_some_iff]
  exact ⟨Leads.congr same, Leads.congr same.symm⟩

/-- So does the safe path. -/
theorem resolveSafePath_congr (same : other.linkTarget = tree.linkTarget) (context : PathContext)
    (path : String) :
    resolveSafePath host other context path = resolveSafePath host tree context path := by
  have roots : ∀ baseDir refusal roots, firstWithin host other path baseDir refusal roots =
      firstWithin host tree path baseDir refusal roots := by
    intro baseDir refusal roots
    induction roots with
    | nil => rfl
    | cons root rest ih =>
        simp only [firstWithin, SafeFilesystemPath.resolve, realpath_congr same, ih]
  simp only [resolveSafePath, outsideText, realpath_congr same, roots]

/-- So does the place of an argument. -/
theorem resolveArgument_congr (same : other.linkTarget = tree.linkTarget) (context : PathContext)
    (path : Json) :
    resolveArgument host other context path = resolveArgument host tree context path := by
  cases path with
  | str path => exact resolveSafePath_congr same context path
  | null => rfl
  | bool => rfl
  | int => rfl
  | float => rfl
  | arr => rfl
  | obj => rfl

/-! ## Reading back -/

/-- What has been put at a place, the operating system finds there. -/
theorem node_of_openAndWrite {answers : FileAnswers} {bytes : List UInt8}
    (settled : Settled tree.links place)
    (stored : openAndWrite answers tree place (.ok bytes) = (after, none)) :
    after.node place = some (.file bytes) := by
  unfold openAndWrite at stored
  split at stored
  · dsimp only at stored
    split at stored
    · rw [throughLinks_of_settled settled] at stored
      split at stored
      · next written =>
          cases stored
          exact (FileTree.node_of_writeFile written place).trans (if_pos rfl)
      · cases stored
    · cases stored
  · cases stored

/-- A file that was stored stands at its place. -/
theorem node_of_storeFile {answers : FileAnswers} {bytes : List UInt8}
    (settled : Settled tree.links place)
    (stored : storeFile answers tree place (.ok bytes) = (after, none)) :
    after.node place = some (.file bytes) := by
  have made : tree.Stays (Eq place)
      (FileTree.makeDirs answers.allowsDirectory tree [] place.dropLast).1 :=
    FileTree.stays_makeDirs rfl (List.dropLast_prefix place)
  unfold storeFile at stored
  split at stored
  · next dirs same =>
      rw [same] at made
      exact node_of_openAndWrite ((settled_congr made).mpr settled) stored
  · cases stored

/-- The argument `file_path` leads to a place that the session may use. -/
def Reaches (host : PathHost) (tree : HostTree) (context : PathContext) (args : JsonObject)
    (place : List String) : Prop :=
  ∃ path safe, filePathArgument args = some path ∧
    resolveArgument host tree context path = .ok safe ∧ safe.path = place

/-- A call that reports its success has put the text at its place. -/
theorem node_of_fsWrite {answers : FileAnswers} {context : PathContext} {args : JsonObject}
    {text : String} (settled : Settled tree.links place)
    (reaches : Reaches host tree context args place)
    (given : args.get "content" = some (.str text))
    (written : fsWrite host answers context args tree = (after, some (writtenText place))) :
    after.node place = some (.file (encodeUtf8 text)) := by
  obtain ⟨path, safe, named, accepted, rfl⟩ := reaches
  simp only [fsWrite, named, given, accepted] at written
  split at written
  · next stored =>
      cases written
      exact node_of_storeFile settled stored
  · next problem stored =>
      have first : ∀ rest, ("Error writing file: " ++ rest).toList.head? = some 'E' := by
        intro rest
        rw [String.toList_append]
        rfl
      have other : ∀ rest, ("File written successfully to " ++ rest).toList.head? = some 'F' := by
        intro rest
        rw [String.toList_append]
        rfl
      have same := Option.some.inj (congrArg Prod.snd written)
      cases (first problem).symm.trans ((congrArg (·.toList.head?) same).trans (other _))

/-- The calls that work on other places. -/
def sparing (host : PathHost) (place : List String) : Machine.Guard FileState FileAction :=
  fun state action => action.target host state.tree ≠ some place

/-- Calls that work on other places leave a file as it is. -/
theorem node_of_sparing {start state finish : FileState} {bytes : List UInt8}
    (loopless : Loopless start.tree.links)
    (confined : RootConfined host start.tree (fun _ => True) state)
    (stands : state.tree.node place = some (.file bytes))
    (run : (fileTools host).Steps (sparing host place) state finish) :
    RootConfined host start.tree (fun _ => True) finish ∧
      finish.tree.node place = some (.file bytes) := by
  let holds (state : FileState) : Prop := RootConfined host start.tree (fun _ => True) state ∧
    state.tree.node place = some (.file bytes)
  have begun : holds state := ⟨confined, stands⟩
  refine run.invariant ?_ begun
  rintro state action next ⟨confined, stands⟩ spared steps
  have takesPart : (fun _ : PathContext => True) action.context := trivial
  refine ⟨confined.step loopless takesPart steps, ?_⟩
  have settles : ∀ target, action.target host state.tree = some target →
      Settled state.tree.links target ∧ (fun other => other ≠ place) target :=
    fun target targeted =>
      ⟨(settled_congr confined.stays).mpr (confined.target loopless takesPart steps targeted).1,
        fun same => spared (same ▸ targeted)⟩
  obtain ⟨stays, _⟩ := step_stays settles steps
  rcases stays.2 place (fun different => different rfl) with same | ⟨absent, _⟩
  · exact same.trans stands
  · cases absent.symm.trans stands

/-- **Reading back.** After any calls, a session writes a text and is told so, and later calls work
on other places. Then whoever reads the place, by whatever path leads there, reads the text. -/
theorem fs_read_after_fs_write (host : PathHost) (start state finish : FileState) (after : HostTree)
    (loopless : Loopless start.tree.links) (idle : start.awaited = [])
    (earlier : (fileTools host).Steps Machine.anyStep start state)
    (writer reader : PathContext) (answers reading : FileAnswers) (args readArgs : JsonObject)
    (text : String) (place : List String)
    (reaches : Reaches host state.tree writer args place)
    (given : args.get "content" = some (.str text))
    (written : fsWrite host answers writer args state.tree = (after, some (writtenText place)))
    (later : (fileTools host).Steps (sparing host place) { state with tree := after } finish)
    (found : Reaches host finish.tree reader readArgs place)
    (opened : reading.opens place = true) :
    fsRead host reading reader readArgs finish.tree =
      some (String.ofList (universalNewlines text.toList)) := by
  have before : RootConfined host start.tree (fun _ => True) state :=
    RootConfined.run loopless idle (earlier.mono fun _ _ _ => trivial)
  have circleless : Loopless state.tree.links :=
    loopless.congr (links_congr before.stays).symm
  have settled : Settled state.tree.links place := by
    obtain ⟨_, safe, _, accepted, rfl⟩ := reaches
    exact (resolveArgument_ok circleless accepted).1
  have confined : RootConfined host start.tree (fun _ => True) { state with tree := after } := by
    have steps : state.step host ⟨writer, answers, .fsWrite args⟩ =
        some { state with tree := after } := by
      rw [FileState.step]
      simp only [written]
    exact before.step loopless trivial steps
  have stands := node_of_fsWrite settled reaches given written
  obtain ⟨last, kept⟩ := node_of_sparing loopless confined stands later
  have settledLast : Settled finish.tree.links place :=
    (settled_congr last.stays).mpr ((settled_congr before.stays).mp settled)
  obtain ⟨path, safe, named, accepted, rfl⟩ := found
  have standing : standing finish.tree safe.path = some (.file (encodeUtf8 text)) :=
    (standing_of_settled settledLast).trans kept
  simp only [fsRead, named, accepted, pathExists, fileAt, standing, Option.isSome_some, if_true,
    opened, decodeUtf8_encodeUtf8]

/-- A picture is to be generated in the workspace. -/
def paintingState : FileState := { tree := linkedTree, awaited := [["w", "pic.png"]] }

/-- A note is written while a picture is generated, the picture is stored, and then the note is read
by another path that leads there. -/
theorem fs_read_note : ∃ after,
    fsWrite {} {} workspace noteArgs linkedTree = (after, some (writtenText ["w", "a.txt"])) ∧
    fsRead {} {} workspace [("file_path", .str "up/w/a.txt")]
      (storeFile {} after ["w", "pic.png"] (.ok [137, 80])).1 =
      some (String.ofList (universalNewlines "hi".toList)) := by
  let safe : SafeFilesystemPath := { path := ["w", "a.txt"], root := ["w"] }
  have named : filePathArgument noteArgs = some (.str "/w/a.txt") := rfl
  have given : noteArgs.get "content" = some (.str "hi") := rfl
  have accepted : resolveArgument {} linkedTree workspace (.str "/w/a.txt") = .ok safe := rfl
  have settles : ∀ path other, filePathArgument noteArgs = some path →
      resolveArgument {} linkedTree workspace path = .ok other →
      Settled linkedTree.links other.path ∧ Settled linkedTree.links other.path :=
    fun _ _ _ found => and_self_iff.mpr (resolveArgument_ok loopless_linkedTree found).1
  have stays : linkedTree.Stays _ (fsWrite {} {} workspace noteArgs linkedTree).1 :=
    fsWrite_stays settles
  have written : ∃ after, fsWrite {} {} workspace noteArgs linkedTree =
      (after, some (writtenText safe.path)) := by
    cases stored : storeFile {} linkedTree safe.path (.ok (encodeUtf8 "hi")) with
    | mk after problem =>
        have failed : (storeFile {} linkedTree safe.path (.ok (encodeUtf8 "hi"))).2 = none := rfl
        obtain rfl : problem = none := (congrArg Prod.snd stored).symm.trans failed
        refine ⟨after, ?_⟩
        simp only [fsWrite, named, given, accepted, writtenBytes, stored]
  obtain ⟨after, written⟩ := written
  rw [written] at stays
  refine ⟨after, written, ?_⟩
  have earlier : (fileTools {}).Steps Machine.anyStep { tree := linkedTree } paintingState := by
    have stepped : (fileTools {}).step { tree := linkedTree }
        ⟨workspace, {}, .beginImage "/w/pic.png"⟩ = some paintingState := rfl
    exact .tail (.refl _) trivial stepped
  have later : (fileTools {}).Steps (sparing {} safe.path) { paintingState with tree := after }
      { tree := (storeFile {} after ["w", "pic.png"] (.ok [137, 80])).1 } := by
    have stepped : (fileTools {}).step { paintingState with tree := after }
        ⟨workspace, {}, .finishImage ["w", "pic.png"] [137, 80]⟩ =
          some { tree := (storeFile {} after ["w", "pic.png"] (.ok [137, 80])).1 } := rfl
    have spared : sparing {} safe.path { paintingState with tree := after }
        ⟨workspace, {}, .finishImage ["w", "pic.png"] [137, 80]⟩ := by
      have elsewhere : some ["w", "pic.png"] ≠ some ["w", "a.txt"] := by decide
      exact elsewhere
    exact .tail (.refl _) spared stepped
  have placed : Settled after.links ["w", "pic.png"] := by
    have resolved : resolveArgument {} linkedTree workspace (.str "/w/pic.png") =
        .ok { path := ["w", "pic.png"], root := ["w"] } := rfl
    exact (settled_congr stays).mpr (resolveArgument_ok loopless_linkedTree resolved).1
  have painted : after.Stays (Eq ["w", "pic.png"])
      (storeFile {} after ["w", "pic.png"] (.ok [137, 80])).1 := storeFile_stays placed rfl
  refine fs_read_after_fs_write {} { tree := linkedTree } paintingState _ after loopless_linkedTree
    rfl earlier workspace workspace {} {} noteArgs _ "hi" safe.path ⟨_, _, named, accepted, rfl⟩
    given written later ⟨.str "up/w/a.txt", safe, rfl, ?_, rfl⟩ rfl
  rw [resolveArgument_congr painted.1, resolveArgument_congr stays.1]
  rfl

/-! ## What readers see -/

/-- Trees with the same links that agree at the places within the roots. -/
structure AgreeWithin (host : PathHost) (context : PathContext) (tree other : HostTree) : Prop where
  links : other.linkTarget = tree.linkTarget
  nodes : ∀ place, WithinRoots host tree (· = context) place → other.node place = tree.node place

/-- **What readers see.** A tool that reads answers the same in trees with the same links that agree
within the roots of its session. -/
theorem file_readers_see_roots_only (host : PathHost) (context : PathContext)
    (tree other : HostTree) (loopless : Loopless tree.links)
    (agree : AgreeWithin host context tree other) (answers : FileAnswers) (args : JsonObject) :
    fsRead host answers context args other = fsRead host answers context args tree ∧
      sentFile host answers context args other = sentFile host answers context args tree := by
  have seen : ∀ path safe, resolveArgument host tree context path = .ok safe →
      pathExists other safe.path = pathExists tree safe.path ∧
        fileAt other safe.path = fileAt tree safe.path := by
    intro path safe accepted
    obtain ⟨settled, root, member, held, rooted, inside⟩ := resolveArgument_ok loopless accepted
    have settledOther : Settled other.links safe.path :=
      fun front name before => (congrFun agree.links _).trans (settled front name before)
    have same : standing other safe.path = standing tree safe.path := by
      rw [standing_of_settled settled, standing_of_settled settledOther]
      exact agree.nodes _ ⟨context, rfl, root, member, held, rooted, inside⟩
    rw [pathExists, pathExists, fileAt, fileAt, same]
    exact ⟨rfl, rfl⟩
  cases named : filePathArgument args with
  | none => simp only [fsRead, sentFile, named, and_self]
  | some path =>
      cases accepted : resolveArgument host tree context path with
      | error refusal =>
          simp only [fsRead, sentFile, named, resolveArgument_congr agree.links, accepted, and_self]
      | ok safe =>
          obtain ⟨stands, content⟩ := seen path safe accepted
          simp only [fsRead, sentFile, named, resolveArgument_congr agree.links, accepted, stands,
            content, and_self]

/-- A file outside of the workspace makes no difference. -/
theorem file_readers_see_workspace_only :
    ∃ other : HostTree, other.node ["etc"] = some (.file [1]) ∧
      ∀ args, fsRead {} {} workspace args other = fsRead {} {} workspace args linkedTree := by
  obtain ⟨other, written⟩ : ∃ other, linkedTree.writeFile ["etc"] [1] = some other := ⟨_, rfl⟩
  have changed := FileTree.node_of_writeFile written
  refine ⟨other, (changed ["etc"]).trans (if_pos rfl), fun args => ?_⟩
  have plain : linkedTree.linkTarget ["etc"] = none := rfl
  have agree : AgreeWithin {} workspace linkedTree other := by
    have stays : linkedTree.Stays (Eq ["etc"]) other :=
      FileTree.stays_writeFile rfl plain written
    refine ⟨stays.1, ?_⟩
    rintro place ⟨_, rfl, root, member, held, leads, inside⟩
    have allowed : workspace.allowedRoots = ["/w"] := rfl
    rw [allowed] at member
    obtain rfl := List.mem_singleton.mp member
    have place : realpath {} linkedTree "/w" = some ["w"] := rfl
    obtain rfl := (realpath_eq_some_iff.mp place).unique leads
    refine (changed _).trans (if_neg ?_)
    rintro rfl
    exact absurd inside (by decide)
  exact (file_readers_see_roots_only {} workspace linkedTree other loopless_linkedTree agree {}
    args).1

end FairyClaw
