import Mathlib.Data.List.DropRight
import FairyClaw.Config.EnvFile
import FairyClaw.Foundation.Edits

/-! # Applying a unified patch

`applyPatch` reads the hunks of a patch and edits the lines of a source. It searches the old lines
of a hunk from the end of the hunk before on, and does not read the places in the hunk's header. An
error carries its text.
-/

namespace FairyClaw

open Foundation

/-- A line, as its characters. -/
abbrev Line := List Char

/-! ## Lines -/

/-- The lines of a text with the breaks that end them; `current` is the line read so far. -/
def splitPieces (current : Line) : List Char → List (Line × Line)
  | [] => if current = [] then [] else [(current, [])]
  | '\r' :: '\n' :: rest => (current, ['\r', '\n']) :: splitPieces [] rest
  | char :: rest =>
      if isLineBreak char then (current, [char]) :: splitPieces [] rest
      else splitPieces (current ++ [char]) rest

/-- `str.splitlines` -/
def splitlines (text : List Char) : List Line := (splitPieces [] text).map Prod.fst

/-- `str.splitlines(keepends=True)` -/
def splitlinesKeep (text : List Char) : List Line :=
  (splitPieces [] text).map fun piece => piece.1 ++ piece.2

/-- `str.rstrip("\n")` -/
def rstripNewline (line : Line) : Line := line.rdropWhile (· = '\n')

/-- `l + "\n"` -/
def withNewline (line : Line) : Line := line ++ ['\n']

/-! ## Hunks -/

/-- A line that opens a hunk. -/
def isHeader (line : Line) : Bool := ['@', '@'].isPrefixOf line

/-- A line that removes one. -/
def isRemoval (line : Line) : Bool := line.head? = some '-'

/-- A line that adds one. -/
def isAddition (line : Line) : Bool := line.head? = some '+'

/-- The hunks of a patch, each with its header; `current` is the hunk read so far. -/
def splitHunks (current : List Line) : List Line → List (List Line)
  | [] => if current = [] then [] else [current]
  | line :: rest =>
      if isHeader line then
        if current = [] then splitHunks [line] rest else current :: splitHunks [line] rest
      else if current = [] then splitHunks [] rest
      else splitHunks (current ++ [line]) rest

/-- The lines that a line of a hunk adds to `expected_old` and `replacement_new`. -/
def readLine : Line → List Line × List Line
  | ' ' :: text => ([text], [text])
  | '-' :: text => ([text], [])
  | '+' :: text => ([], [text])
  | line => if line ≠ [] && !isHeader line then ([line], [line]) else ([], [])

/-- `expected_old` -/
def expectedOld (body : List Line) : List Line := body.flatMap fun line => (readLine line).1

/-- `replacement_new` -/
def replacementNew (body : List Line) : List Line := body.flatMap fun line => (readLine line).2

/-- `_find_sequence`, `none` being -1. -/
def findSequence (lines seq : List Line) (start : Nat) : Option Nat :=
  if seq = [] then some start
  else findFrom (lines.map rstripNewline) (seq.map rstripNewline) start

/-- `_find_anchor`, `none` being -1. -/
def findAnchor (lines context : List Line) (start : Nat) : Option Nat :=
  if context = [] then some (min start lines.length)
  else findSequence (lines.map rstripNewline) (context.map rstripNewline) start

/-- The lines of the source and the place after the last edit. -/
structure PatchState where
  lines : List Line
  cursor : Nat
  deriving DecidableEq, Repr

/-- The body of the loop over the hunks in `_apply_patch`. -/
def applyHunk (state : PatchState) (hunk : List Line) : Except String PatchState :=
  let body := hunk.drop 1
  let expected := expectedOld body
  let replacement := replacementNew body
  if !body.any isRemoval && !body.any isAddition then .ok state
  else if body.any isRemoval then
    match (findSequence state.lines expected state.cursor).orElse
        fun _ => findSequence state.lines expected 0 with
    | none => .error "removal lines do not match target file"
    | some place => .ok {
        lines := state.lines.take place ++ replacement.map withNewline ++
          state.lines.drop (place + expected.length)
        cursor := place + replacement.length }
  else
    let anchor := (findAnchor state.lines expected state.cursor).getD
      (min state.cursor state.lines.length)
    let added := (body.filter isAddition).map fun line => withNewline (line.drop 1)
    .ok {
      lines := state.lines.take anchor ++ added ++ state.lines.drop anchor
      cursor := anchor + added.length }

/-- `_apply_patch`: the updated text, or the detail of a failure. -/
def applyPatch (source patchText : List Char) : Except String (List Char) :=
  let hunks := splitHunks [] (splitlines patchText)
  if hunks = [] then .error "patch has no @@ hunks"
  else (hunks.foldlM applyHunk { lines := splitlinesKeep source, cursor := 0 }).map
    fun state => state.lines.flatten

/-! ## Lines of a text -/

/-- A carriage return and a newline are one break. -/
theorem splitPieces_crlf (current rest : Line) :
    splitPieces current ('\r' :: '\n' :: rest) = (current, ['\r', '\n']) :: splitPieces [] rest :=
  rfl

/-- The first character ends the line, or belongs to it. -/
theorem splitPieces_cons {char : Char} {rest : List Char} (current : Line)
    (single : ∀ later, char = '\r' → rest ≠ '\n' :: later) :
    splitPieces current (char :: rest) =
      if isLineBreak char then (current, [char]) :: splitPieces [] rest
      else splitPieces (current ++ [char]) rest := by
  rw [splitPieces]
  intro later same rest_eq
  exact single later same rest_eq

end FairyClaw
