import FairyClaw.Config.EnvFile
import FairyClaw.Files.SafePath
import FairyClaw.Foundation.Machine

/-! # File tools

What the tools that work on files do to the tree of files. Each resolves the path it is given and
works on the place it leads to; a tool that waits for an image in between works on the place it has
resolved before (`FairyClaw.fileTools`). The operating system may refuse any directory and any file,
and a disk may be full after some bytes.
-/

namespace FairyClaw

open Foundation

/-- What the operating system answers, and how it says so. -/
structure FileAnswers where
  allowsDirectory : List String → Bool := fun _ => true
  opens : List String → Bool := fun _ => true
  kept : List String → Option Nat := fun _ => none
  problem : List String → String := fun _ => ""
  typeError : String := ""
  isFolder : String → Bool := fun _ => false

/-- What a tool leaves behind, and its answer unless it raises. -/
abbrev FileReply := HostTree × Option String

/-- What a tool answers when a path is refused. -/
def PathRefusal.reply : PathRefusal → Option String
  | .denied message => some message
  | .untyped | .looped => none

/-- A refusal inside of a block that catches everything. -/
def PathRefusal.caught (answers : FileAnswers) (start : String) : PathRefusal → Option String
  | .denied message => some message
  | .untyped => some (start ++ answers.typeError)
  | .looped => none

/-- `resolve_safe_path` of an argument, which need not be a text. -/
def resolveArgument (host : PathHost) (tree : HostTree) (context : PathContext) :
    Json → Except PathRefusal SafeFilesystemPath
  | .str path => resolveSafePath host tree context path
  | _ => if context.allowedRoots = [] then .error (.denied noRootsText) else .error .untyped

/-- Where the operating system finds a place. -/
def throughLinks (tree : HostTree) (place : List String) : Option (List String) :=
  follow tree.links tree.links.places.length [] (place.map .name)

/-- What a reader finds at a place, through links. -/
def standing (tree : HostTree) (place : List String) : Option (FileNode String (List UInt8)) :=
  (throughLinks tree place).bind tree.node

/-- `os.path.exists` -/
def pathExists (tree : HostTree) (place : List String) : Bool := (standing tree place).isSome

/-- `os.path.isdir` -/
def isDir (tree : HostTree) (place : List String) : Bool :=
  match standing tree place with
  | some .directory => true
  | _ => false

/-- The content of a file, if one stands at the place. -/
def fileAt (tree : HostTree) (place : List String) : Option (List UInt8) :=
  match standing tree place with
  | some (.file content) => some content
  | _ => none

/-- The bytes of a text. -/
def encodeUtf8 (text : String) : List UInt8 := text.toByteArray.data.toList

/-- The text of bytes, if they are one. -/
def decodeUtf8 (bytes : List UInt8) : Option String := String.fromUTF8? ⟨bytes.toArray⟩

/-! ## Writing -/

/-- `open` for writing, and the writing of some bytes, or of a value that is no text. -/
def openAndWrite (answers : FileAnswers) (tree : HostTree) (place : List String)
    (content : Except String (List UInt8)) : HostTree × Option String :=
  if answers.opens place then
    let stored (bytes : List UInt8) : Option HostTree :=
      (throughLinks tree place).bind fun final => tree.writeFile final bytes
    match content with
    | .error problem =>
        match stored [] with
        | some after => (after, some problem)
        | none => (tree, some (answers.problem place))
    | .ok bytes =>
        match answers.kept place with
        | none =>
            match stored bytes with
            | some after => (after, none)
            | none => (tree, some (answers.problem place))
        | some count => ((stored (bytes.take count)).getD tree, some (answers.problem place))
  else (tree, some (answers.problem place))

/-- `os.makedirs` of the directory of a file, and the writing of the file. -/
def storeFile (answers : FileAnswers) (tree : HostTree) (place : List String)
    (content : Except String (List UInt8)) : HostTree × Option String :=
  match FileTree.makeDirs answers.allowsDirectory tree [] place.dropLast with
  | (dirs, true) => openAndWrite answers dirs place content
  | (dirs, false) => (dirs, some (answers.problem place))

/-- What is written of a value. -/
def writtenBytes (answers : FileAnswers) : Json → Except String (List UInt8)
  | .str text => .ok (encodeUtf8 text)
  | _ => .error answers.typeError

/-- The argument `file_path`, if it is there and not empty. -/
def filePathArgument (args : JsonObject) : Option Json := (args.get "file_path").filter Json.truthy

/-- The error when no path is given. -/
def pathRequiredText : String := "Error: file_path is required."

/-- The answer when a file was written. -/
def writtenText (place : List String) : String :=
  "File written successfully to " ++ pathText place

/-- `fs_write` -/
def fsWrite (host : PathHost) (answers : FileAnswers) (context : PathContext) (args : JsonObject)
    (tree : HostTree) : FileReply :=
  match filePathArgument args, args.get "content" with
  | none, _ => (tree, some pathRequiredText)
  | some _, none | some _, some .null => (tree, some "Error: content is required.")
  | some path, some content =>
      match resolveArgument host tree context path with
      | .error refusal => (tree, refusal.reply)
      | .ok safe =>
          match storeFile answers tree safe.path (writtenBytes answers content) with
          | (after, none) => (after, some (writtenText safe.path))
          | (after, some problem) => (after, some ("Error writing file: " ++ problem))

/-- `fs_delete` -/
def fsDelete (host : PathHost) (answers : FileAnswers) (context : PathContext) (args : JsonObject)
    (tree : HostTree) : FileReply :=
  match filePathArgument args with
  | none => (tree, some pathRequiredText)
  | some path =>
      match resolveArgument host tree context path with
      | .error refusal => (tree, refusal.reply)
      | .ok safe =>
          if pathExists tree safe.path then
            let kind := if isDir tree safe.path then "Directory" else "File"
            match if answers.opens safe.path then tree.delete safe.path else none with
            | some after =>
                (after, some (kind ++ " removed successfully from " ++ pathText safe.path))
            | none => (tree, some ("Error deleting file: " ++ answers.problem safe.path))
          else (tree, some ("Error: File not found at " ++ pathText safe.path))

/-- A row of the session's files. -/
structure SessionFile where
  filename : String
  content : List UInt8

/-- Where an export goes to, before it is resolved. -/
def exportTarget (host : PathHost) (context : PathContext) (args : JsonObject) : Json :=
  ((args.get "target_path").filter Json.truthy).getD
    (.str ((context.workspaceRoot.filter fun root => root ≠ "").getD (pathText host.cwd)))

/-- The path of an exported file: in the target, if it is a directory, or the target itself. -/
def exportDestination (tree : HostTree) (safeTarget : SafeFilesystemPath) (filename : String) :
    String :=
  if isDir tree safeTarget.path then joinPath (pathText safeTarget.path) filename
  else pathText safeTarget.path

/-- `export_session_file`, with what the lookup of the file gives, or the text it fails with. -/
def exportSessionFile (host : PathHost) (answers : FileAnswers) (context : PathContext)
    (args : JsonObject) (lookup : Except String (Option SessionFile)) (tree : HostTree) :
    FileReply :=
  match (args.get "file_id").filter Json.truthy, lookup with
  | none, _ => (tree, some "Error: file_id is required.")
  | some _, .error message => (tree, some message)
  | some fileId, .ok none =>
      (tree, some ("Error: File with ID '" ++ host.str fileId ++
        "' not found in the current session."))
  | some fileId, .ok (some file) =>
      match resolveArgument host tree context (exportTarget host context args) with
      | .error refusal => (tree, refusal.caught answers "Error exporting file: ")
      | .ok safeTarget =>
          match resolveSafePath host tree context
              (exportDestination tree safeTarget file.filename) with
          | .error refusal => (tree, refusal.caught answers "Error exporting file: ")
          | .ok safeDest =>
              match storeFile answers tree safeDest.path (.ok file.content) with
              | (after, none) =>
                  (after, some ("Success: File '" ++ file.filename ++ "' (ID: " ++
                    host.str fileId ++ ") has been exported to '" ++ pathText safeDest.path ++
                    "'."))
              | (after, some problem) => (after, some ("Error exporting file: " ++ problem))

/-- The path of a downloaded file. -/
def downloadCandidate (answers : FileAnswers) (targetPath filename : String) : String :=
  if targetPath.toList.getLast? = some '/' ∨ answers.isFolder targetPath then
    joinPath targetPath filename
  else targetPath

/-- The last stage of `download_file`, with a content that is not empty. -/
def saveDownload (host : PathHost) (answers : FileAnswers) (context : PathContext)
    (url targetPath filename contentType : String) (content : List UInt8) (tree : HostTree) :
    FileReply :=
  match resolveSafePath host tree context (downloadCandidate answers targetPath filename) with
  | .error refusal => (tree, refusal.caught answers ("Error downloading " ++ url ++ ": "))
  | .ok safe =>
      match storeFile answers tree safe.path (.ok content) with
      | (after, none) =>
          (after, some ("Downloaded successfully. saved_path: " ++ pathText safe.path ++
            ", filename: " ++ safe.path.getLast?.getD "" ++ ", size: " ++
            toString content.length ++ " bytes, mime_type: " ++ orElse contentType "unknown" ++
            "."))
      | (after, some problem) => (after, some ("Error downloading " ++ url ++ ": " ++ problem))

/-- `generate_or_edit_image` up to its first wait: the place of the output. -/
def resolveOutput (host : PathHost) (context : PathContext) (outputPath : String)
    (tree : HostTree) : Except PathRefusal SafeFilesystemPath :=
  if strip outputPath = "" then .error (.denied "Error: output_path is required.")
  else resolveSafePath host tree context outputPath

/-! ## Reading -/

/-- `fs_read` -/
def fsRead (host : PathHost) (answers : FileAnswers) (context : PathContext) (args : JsonObject)
    (tree : HostTree) : Option String :=
  match filePathArgument args with
  | none => some pathRequiredText
  | some path =>
      match resolveArgument host tree context path with
      | .error refusal => refusal.reply
      | .ok safe =>
          if pathExists tree safe.path then
            match fileAt tree safe.path with
            | none => some ("Error: " ++ pathText safe.path ++ " is not a file.")
            | some bytes =>
                if answers.opens safe.path then
                  match decodeUtf8 bytes with
                  | none => some "Error: File is binary and cannot be read as text."
                  | some text => some (String.ofList (universalNewlines text.toList))
                else some ("Error reading file: " ++ answers.problem safe.path)
          else some ("Error: File not found at " ++ pathText safe.path)

/-- The file that `send_file` hands to the user, or its answer; nothing if it raises. -/
def sentFile (host : PathHost) (answers : FileAnswers) (context : PathContext) (args : JsonObject)
    (tree : HostTree) : Option (Except String SessionFile) :=
  match filePathArgument args with
  | none => some (.error pathRequiredText)
  | some path =>
      match resolveArgument host tree context path with
      | .error refusal => refusal.reply.map .error
      | .ok safe =>
          if pathExists tree safe.path then
            match if answers.opens safe.path then fileAt tree safe.path else none with
            | some content =>
                some (.ok { filename := safe.path.getLast?.getD "", content := content })
            | none => some (.error ("Error binding file to session: " ++
                answers.problem safe.path))
          else some (.error ("Error: File not found at " ++ pathText safe.path))

/-! ## Any tools in any order -/

/-- The files, and the places that images are waited for. -/
structure FileState where
  tree : HostTree
  awaited : List (List String) := []

/-- A call of a tool that writes files. -/
inductive FileCall
  | fsWrite (args : JsonObject)
  | fsDelete (args : JsonObject)
  | exportSessionFile (args : JsonObject) (lookup : Except String (Option SessionFile))
  | saveDownload (url targetPath filename contentType : String) (content : List UInt8)
  | beginImage (outputPath : String)
  | finishImage (place : List String) (image : List UInt8)

/-- A call with its session and the answers of the system. -/
structure FileAction where
  context : PathContext
  answers : FileAnswers
  call : FileCall

/-- A call changes the tree, or notes the place for an image. -/
def FileState.step (host : PathHost) (state : FileState) (action : FileAction) :
    Option FileState :=
  match action.call with
  | .fsWrite args =>
      some { state with tree := (fsWrite host action.answers action.context args state.tree).1 }
  | .fsDelete args =>
      some { state with tree := (fsDelete host action.answers action.context args state.tree).1 }
  | .exportSessionFile args lookup =>
      some { state with
        tree := (exportSessionFile host action.answers action.context args lookup state.tree).1 }
  | .saveDownload url targetPath filename contentType content =>
      some { state with
        tree := (saveDownload host action.answers action.context url targetPath filename
          contentType content state.tree).1 }
  | .beginImage outputPath =>
      match resolveOutput host action.context outputPath state.tree with
      | .error _ => some state
      | .ok safe => some { state with awaited := safe.path :: state.awaited }
  | .finishImage place image =>
      if place ∈ state.awaited then
        some { tree := (storeFile action.answers state.tree place (.ok image)).1,
               awaited := state.awaited.erase place }
      else none

/-- Calls of the tools that write, by any sessions and in any order. -/
def fileTools (host : PathHost) : Machine FileState FileAction where
  initial state := state.awaited = []
  step := FileState.step host

/-- The place that a call writes or removes, if it gets that far. -/
def FileAction.target (host : PathHost) (tree : HostTree) (action : FileAction) :
    Option (List String) :=
  match action.call with
  | .fsWrite args | .fsDelete args => do
      let path ← filePathArgument args
      let safe ← (resolveArgument host tree action.context path).toOption
      return safe.path
  | .exportSessionFile args lookup => do
      let file ← lookup.toOption.join
      let safeTarget ← (resolveArgument host tree action.context
        (exportTarget host action.context args)).toOption
      let safeDest ← (resolveSafePath host tree action.context
        (exportDestination tree safeTarget file.filename)).toOption
      return safeDest.path
  | .saveDownload _ targetPath filename _ _ => do
      let safe ← (resolveSafePath host tree action.context
        (downloadCandidate action.answers targetPath filename)).toOption
      return safe.path
  | .beginImage outputPath => do
      let safe ← (resolveOutput host action.context outputPath tree).toOption
      return safe.path
  | .finishImage place _ => some place

end FairyClaw
