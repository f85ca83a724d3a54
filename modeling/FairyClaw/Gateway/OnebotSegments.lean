import FairyClaw.Context.HistoryIr
import FairyClaw.Foundation.Fallible
import FairyClaw.Foundation.Scan
import FairyClaw.Gateway.Onebot
import Mathlib.Data.Bool.AllAny

/-! # The segments of a OneBot message

A OneBot message comes as a text with CQ codes or as an array of segments
(`FairyClaw.OnebotAdapter.convertMessageToSegments`). The text form and the array form of one
message become the same segments, after the same downloads in the same order
(`FairyClaw.OnebotAdapter.convert_textForm`).
-/

namespace FairyClaw

open Foundation Fallible

namespace OnebotAdapter

/-- `_upload_remote_file`: fetch a URL and store the content under a name. -/
abbrev UploadRemoteFile (World : Type) :=
  (url filename : String) → Fallible String World (Option String)

/-- `.*?file=(.*?)\]` on a line: what stands before the first `file=`, and what stands between that
and the next closing bracket. A later `file=` stands before no bracket that the first one does not
stand before. -/
def readFile (line : List Char) : Option (List Char × List Char) := do
  let (front, rest) ← splitAtMark "file=".toList line
  let (body, _) ← splitAtMark "]".toList rest
  some (front, body)

/-- `\[CQ:(image|file),.*?file=(.*?)\]`, with its second group; `.` does not match a line break. -/
def readCq : Pattern Char (List Char) := fun items =>
  ["[CQ:image,".toList, "[CQ:file,".toList].findSome? fun opening =>
    if opening <+: items then
      (readFile ((items.drop opening.length).takeWhile (· ≠ '\n'))).map fun found =>
        (found.2, (opening ++ (found.1 ++ ("file=".toList ++ (found.2 ++ "]".toList)))).length)
    else none

section Convert

variable {World : Type} (adapter : OnebotAdapter) (upload : UploadRemoteFile World)

/-- A text becomes a segment unless it is blank. -/
def textSegments (text : String) : List ContentSegment :=
  if strip text = "" then [] else [.textSegment (strip text)]

/-- A file becomes a segment when its upload gives an id. -/
def fileSegments (url filename : String) : Fallible String World (List ContentSegment) := do
  match ← upload url filename with
  | some fileId => return if fileId = "" then [] else [.fileSegment fileId none]
  | none => return []

/-- The codes of a text, each after the text before it. -/
def convertCodes : List (List Char × List Char) → Fallible String World (List ContentSegment)
  | [] => return []
  | (before, urlOrFile) :: codes => do
      let url := String.ofList (urlOrFile.takeWhile (· ≠ ','))
      let files ← fileSegments upload url "upload"
      return textSegments (String.ofList before) ++ files ++ (← convertCodes codes)

/-- `str(value or other)` -/
def strOr (value : Option Json) (other : String) : String :=
  match value with
  | some (.str text) => orElse text other
  | some value => if value.truthy then adapter.str value else other
  | none => other

/-- The file of a segment: the URL of its data, or else its file. -/
def convertFile (data : JsonObject) : Fallible String World (List ContentSegment) :=
  let url := if (data.get "url").any Json.truthy then data.get "url" else data.get "file"
  match url with
  | some (.str url) =>
      if url = "" then return []
      else fileSegments upload url (adapter.strOr (data.get "name") "upload")
  | _ => return []

/-- One segment of a message in the array form. -/
def convertSegment (segment : JsonObject) : Fallible String World (List ContentSegment) :=
  match segment.get "type" with
  | some (.str segType) =>
      if segType = "text" then
        match (segment.get "data").getD (.obj []) with
        | .obj data => return textSegments (adapter.strOr (JsonObject.get data "text") "")
        | _ => throw "AttributeError"
      else if segType ∈ ["image", "file"] then
        match (segment.get "data").getD (.obj []) with
        | .obj data => adapter.convertFile upload data
        | _ => return []
      else return []
  -- a type that cannot be hashed raises when it is looked up in a set
  | some (.arr _) => throw "TypeError"
  | some (.obj _) => throw "TypeError"
  | _ => return []

/-- The segments of an array, one after the other. -/
def convertSegments : List Json → Fallible String World (List ContentSegment)
  | [] => return []
  | .obj segment :: rest => do
      return (← adapter.convertSegment upload segment) ++ (← convertSegments rest)
  | _ :: rest => convertSegments rest

/-- `_convert_message_to_segments` -/
def convertMessageToSegments : Json → Fallible String World (List ContentSegment)
  | .str message => do
      let (codes, last) := scan readCq message.toList
      return (← convertCodes upload codes) ++ textSegments (String.ofList last)
  | .arr segments => adapter.convertSegments upload segments
  | _ => return []

end Convert

/-! ## Messages with two forms -/

/-- A text in which no CQ code begins. -/
def PlainText := { text : String // ¬"[CQ:".toList <:+: text.toList }

/-- The parameters of a code, each followed by a comma. -/
def frontText (params : List (String × String)) : List Char :=
  params.flatMap fun param => param.1.toList ++ "=".toList ++ param.2.toList ++ ",".toList

/-- The parameters of a code, each after a comma. -/
def backText (params : List (String × String)) : List Char :=
  params.flatMap fun param => ",".toList ++ param.1.toList ++ "=".toList ++ param.2.toList

/-- The kinds of files that a code may carry. -/
inductive MediaKind
  | image
  | file

/-- The word for a kind. -/
def MediaKind.word : MediaKind → String
  | image => "image"
  | file => "file"

/-- A media code on one line: its file, with parameters before and after it that say nothing about
the download. -/
structure MediaCode where
  kind : MediaKind
  front : List (String × String)
  file : String
  back : List (String × String)
  filled : file ≠ ""
  whole : ∀ char ∈ file.toList, char ≠ ',' ∧ char ≠ ']' ∧ char ≠ '\n'
  unbroken : ∀ char ∈ frontText front, char ≠ '\n'
  first : ¬"file=".toList <:+: frontText front
  closed : ∀ char ∈ backText back, char ≠ ']' ∧ char ≠ '\n'
  plain : ∀ param ∈ front ++ back, param.1 ∉ ["url", "file", "name"]

namespace MediaCode

variable (code : MediaCode)

/-- The file of the code and the parameters behind it. -/
def body : List Char := code.file.toList ++ backText code.back

/-- The beginning of the code, up to its parameters. -/
def opening : List Char := "[CQ:".toList ++ code.kind.word.toList ++ ",".toList

/-- The code in the text form. -/
def chars : List Char :=
  code.opening ++ (frontText code.front ++ ("file=".toList ++ (code.body ++ "]".toList)))

/-- The parameters of the code, as the data of a segment. -/
def data : JsonObject :=
  (code.front ++ ("file", code.file) :: code.back).map fun param => (param.1, .str param.2)

/-- The segment in the array form. -/
def segment : JsonObject := [("type", .str code.kind.word), ("data", .obj code.data)]

end MediaCode

/-- A message: media codes, each after a text, and a last text. -/
structure CqMessage where
  parts : List (PlainText × MediaCode)
  last : PlainText

/-- A text as a segment of an array. -/
def PlainText.segment (text : PlainText) : JsonObject :=
  [("type", .str "text"), ("data", .obj [("text", .str text.1)])]

namespace CqMessage

variable (message : CqMessage)

/-- The message as a text with codes. -/
def textForm : String :=
  String.ofList (message.parts.flatMap (fun part => part.1.1.toList ++ part.2.chars) ++
    message.last.1.toList)

/-- The message as an array of segments. -/
def arrayForm : List Json :=
  message.parts.flatMap (fun part => [.obj part.1.segment, .obj part.2.segment]) ++
    [.obj message.last.segment]

end CqMessage

/-! ## The text form -/

/-- A code is read only where one opens. -/
theorem opens_of_readCq {items : List Char} (reads : readCq items ≠ none) :
    "[CQ:".toList <+: items := by
  by_contra other
  apply reads
  have unopened (opening : List Char) (begins : "[CQ:".toList <+: opening) :
      ¬opening <+: items := fun stands => other (begins.trans stands)
  have image := unopened "[CQ:image,".toList (by decide)
  have file := unopened "[CQ:file,".toList (by decide)
  simp only [readCq, List.findSome?_cons, List.findSome?_nil, if_neg image, if_neg file]

namespace MediaCode

variable (code : MediaCode)

/-- The body of a code does not close it. -/
theorem unclosed : ¬"]".toList <:+: code.body := by
  intro closed
  have member : ']' ∈ code.body := closed.subset List.mem_cons_self
  rcases List.mem_append.mp member with inFile | inBack
  · exact (code.whole _ inFile).2.1 rfl
  · exact (code.closed _ inBack).1 rfl

/-- The code ends on its line. -/
theorem solid : ∀ char ∈ frontText code.front ++ ("file=".toList ++ (code.body ++ "]".toList)),
    decide (char ≠ '\n') = true := by
  intro char member
  apply decide_eq_true
  rcases List.mem_append.mp member with inFront | member
  · exact code.unbroken char inFront
  rcases List.mem_append.mp member with inName | member
  · rintro rfl
    exact absurd inName (by decide)
  rcases List.mem_append.mp member with inBody | inClosing
  · rcases List.mem_append.mp inBody with inFile | inBack
    · exact (code.whole char inFile).2.2
    · exact (code.closed char inBack).2
  · rintro rfl
    exact absurd inClosing (by decide)

/-- The file of a code is read from its line. -/
theorem readFile_line (rest : List Char) :
    readFile ((frontText code.front ++ ("file=".toList ++ (code.body ++ "]".toList)) ++
      rest).takeWhile (· ≠ '\n')) = some (frontText code.front, code.body) := by
  have line := @List.takeWhile_append_of_pos _ _ _ rest code.solid
  have named := splitAtMark_append (code.body ++ ("]".toList ++ rest.takeWhile (· ≠ '\n')))
    (by decide) code.first
  have ended := splitAtMark_append (rest.takeWhile (· ≠ '\n')) (by decide) code.unclosed
  rw [line, List.append_assoc, List.append_assoc, List.append_assoc, readFile]
  refine (congrArg (· >>= _) named).trans ?_
  exact congrArg (· >>= _) ended

/-- A code is read to its end. -/
theorem readCq_chars (rest : List Char) :
    readCq (code.chars ++ rest) = some (code.body, code.chars.length) := by
  have opens : code.opening <+: code.chars ++ rest :=
    (List.prefix_append _ _).trans (List.prefix_append _ rest)
  have dropped : (code.chars ++ rest).drop code.opening.length = frontText code.front ++
      ("file=".toList ++ (code.body ++ "]".toList)) ++ rest := by
    rw [chars, List.append_assoc, List.drop_left]
  have read := code.readFile_line rest
  rw [← dropped] at read
  unfold readCq
  cases word : code.kind with
  | image =>
      have opening : code.opening = "[CQ:image,".toList := by rw [MediaCode.opening, word]; rfl
      rw [opening] at opens read
      rw [List.findSome?_cons, if_pos opens, read, chars, opening]
      rfl
  | file =>
      have opening : code.opening = "[CQ:file,".toList := by rw [MediaCode.opening, word]; rfl
      have other : ¬"[CQ:image,".toList <+: code.chars ++ rest := by
        rw [chars, opening]
        intro stands
        rcases List.prefix_or_prefix_of_prefix stands
          ((List.prefix_append _ _).trans (List.prefix_append _ rest)) with first | first
        · exact absurd first (by decide)
        · exact absurd first (by decide)
      rw [opening] at opens read
      rw [List.findSome?_cons, if_neg other]
      simp only [List.findSome?_cons, if_pos opens, read, Option.map_some]
      rw [chars, opening]

/-- The file is what comes before the first comma. -/
theorem takeWhile_body : code.body.takeWhile (· ≠ ',') = code.file.toList := by
  have named : code.body.takeWhile (· ≠ ',') =
      code.file.toList ++ (backText code.back).takeWhile (· ≠ ',') :=
    List.takeWhile_append_of_pos fun char member => decide_eq_true (code.whole char member).1
  have ended : (backText code.back).takeWhile (· ≠ ',') = [] := by
    cases code.back with
    | nil => rfl
    | cons param params => rfl
  rw [named, ended, List.append_nil]

/-- A code begins with a bracket. -/
theorem chars_eq_cons : ∃ others, code.chars = '[' :: others := ⟨_, rfl⟩

end MediaCode

/-- The scan of the text form gives the codes, each after the text before it. -/
theorem scanned_textForm (last : PlainText) (parts : List (PlainText × MediaCode)) :
    Scanned readCq (CqMessage.textForm ⟨parts, last⟩).toList
      (parts.map fun part => (part.1.1.toList, part.2.body)) last.1.toList := by
  rw [CqMessage.textForm, String.toList_ofList]
  apply scanned_parts (fun _ => opens_of_readCq) (by decide) _ last.2 _ _
  · exact fun part => part.1.2
  · exact fun part => part.2.chars_eq_cons
  · exact fun part => part.2.readCq_chars

/-! ## Both forms -/

section Forms

variable {World : Type} (adapter : OnebotAdapter) (upload : UploadRemoteFile World)

/-- A text segment is converted to its text. -/
theorem convertSegment_plain (text : PlainText) :
    adapter.convertSegment upload text.segment = pure (textSegments text.1) := by
  have written : adapter.strOr (some (.str text.1)) "" = text.1 := by
    rw [strOr, orElse]
    split
    · next blank => exact blank.symm
    · rfl
  have converted : adapter.convertSegment upload text.segment =
      pure (textSegments (adapter.strOr (some (.str text.1)) "")) := rfl
  rw [converted, written]

namespace MediaCode

variable (code : MediaCode)

/-- The parameters of a code name neither an address nor a name. -/
theorem get_data_of_other {key : String} (other : key ∈ ["url", "name"]) :
    code.data.get key = none := by
  have apart : ["url", "name"] ⊆ ["url", "file", "name"] := by decide
  apply List.lookup_eq_none_iff.mpr
  intro entry member
  obtain ⟨param, listed, rfl⟩ := List.mem_map.mp member
  rw [bne_iff_ne]
  intro same
  rw [same] at other
  rcases List.mem_append.mp listed with inFront | listed
  · exact code.plain param (List.mem_append_left _ inFront) (apart other)
  rcases List.mem_cons.mp listed with rfl | inBack
  · have named : "file" ∈ ["url", "name"] := other
    exact absurd named (by decide)
  · exact code.plain param (List.mem_append_right _ inBack) (apart other)

/-- The file of a code is its parameter. -/
theorem get_data_file : code.data.get "file" = some (.str code.file) := by
  have inFront :
      (code.front.map fun param => (param.1, Json.str param.2)).lookup "file" = none := by
    apply List.lookup_eq_none_iff.mpr
    intro entry member
    obtain ⟨param, listed, rfl⟩ := List.mem_map.mp member
    rw [bne_iff_ne]
    intro same
    apply code.plain param (List.mem_append_left _ listed)
    rw [← same]
    decide
  rw [data, JsonObject.get, List.map_append, List.lookup_append, inFront, List.map_cons,
    Option.none_or, List.lookup_cons_self]

/-- A media segment is converted to its file. -/
theorem convertSegment_media : adapter.convertSegment upload code.segment =
    fileSegments upload code.file "upload" := by
  have type : JsonObject.get code.segment "type" = some (.str code.kind.word) := rfl
  have data : JsonObject.get code.segment "data" = some (.obj code.data) := rfl
  have media : code.kind.word ≠ "text" ∧ code.kind.word ∈ ["image", "file"] := by
    cases code.kind with
    | image => decide
    | file => decide
  have url : code.data.get "url" = none := code.get_data_of_other (by decide)
  have name : code.data.get "name" = none := code.get_data_of_other (by decide)
  rw [convertSegment, type]
  simp only [if_neg media.1, if_pos media.2, data, Option.getD_some]
  rw [convertFile, url, name, code.get_data_file]
  simp only [Option.any_none, Bool.false_eq_true, ↓reduceIte, if_neg code.filled]
  rfl

end MediaCode

/-- An array of texts and codes is converted part by part. -/
theorem convert_parts (last : PlainText) (parts : List (PlainText × MediaCode)) :
    adapter.convertSegments upload (CqMessage.arrayForm ⟨parts, last⟩) = (do
      return (← convertCodes upload (parts.map fun part => (part.1.1.toList, part.2.body))) ++
        textSegments last.1) := by
  have step (segment : JsonObject) (rest : List Json) :
      adapter.convertSegments upload (.obj segment :: rest) = (do
        return (← adapter.convertSegment upload segment) ++
          (← adapter.convertSegments upload rest)) := rfl
  induction parts with
  | nil =>
      rw [CqMessage.arrayForm, List.flatMap_nil, List.nil_append, step, convertSegment_plain]
      simp only [convertSegments, convertCodes, List.map_nil, pure_bind, List.append_nil,
        List.nil_append]
  | cons part parts ih =>
      have form : CqMessage.arrayForm ⟨part :: parts, last⟩ = .obj part.1.segment ::
        .obj part.2.segment :: CqMessage.arrayForm ⟨parts, last⟩ := rfl
      rw [form, step, step, ih, convertSegment_plain, MediaCode.convertSegment_media,
        List.map_cons, convertCodes, MediaCode.takeWhile_body]
      simp only [pure_bind, bind_assoc, String.ofList_toList, List.append_assoc]

/-- **Both forms.** The text form and the array form of a message become the same segments, after
the same downloads in the same order and with the same outcome. -/
theorem convert_textForm (message : CqMessage) :
    adapter.convertMessageToSegments upload (.str message.textForm) =
      adapter.convertMessageToSegments upload (.arr message.arrayForm) := by
  have codes := scan_eq_of_scanned (scanned_textForm message.last message.parts)
  rw [convertMessageToSegments, convertMessageToSegments, convert_parts, codes]
  simp only [String.ofList_toList]

end Forms

/-- A picture with one more parameter. -/
def pictureCode : MediaCode where
  kind := .image
  front := []
  file := "cat.png"
  back := [("subType", "0")]
  filled := by decide
  whole := List.all_iff_forall_prop.mp (by decide)
  unbroken := List.all_iff_forall_prop.mp (by decide)
  first := by decide
  closed := List.all_iff_forall_prop.mp (by decide)
  plain := by decide

example : CqMessage.textForm ⟨[(⟨"look ", by decide⟩, pictureCode)], ⟨" here", by decide⟩⟩ =
    "look [CQ:image,file=cat.png,subType=0] here" := by decide

end OnebotAdapter

end FairyClaw
