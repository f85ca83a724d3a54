import FairyClaw.Foundation.Lines

/-! # Lines with their ends

A text is a number of closed lines, each with the break that ends it, and a rest without a break. It
is split into its lines with the breaks kept (`Foundation.splitKeepEnds_join`) or removed
(`Foundation.splitLines_join`), so both splittings see the same lines.
-/

namespace Foundation

variable {Item : Type*} (breaks : Item → Bool)

/-- Split at the breaks and keep them; `current` is the line read so far, reversed. -/
def splitKeepEndsFrom (current : List Item) : List Item → List (List Item)
  | [] => if current.isEmpty then [] else [current.reverse]
  | item :: rest =>
      if breaks item then (item :: current).reverse :: splitKeepEndsFrom [] rest
      else splitKeepEndsFrom (item :: current) rest

/-- Split at the breaks; each line keeps the break that ends it. -/
def splitKeepEnds (items : List Item) : List (List Item) := splitKeepEndsFrom breaks [] items

/-- The line after the last break, if there is one. -/
def openLine (rest : List Item) : List (List Item) := if rest.isEmpty then [] else [rest]

/-- An open line that is not empty is changed on its own. -/
theorem map_openLine {Result : Type*} (change : List Item → Result) {rest : List Item}
    (filled : rest ≠ []) : (openLine rest).map change = [change rest] := by
  rw [openLine, if_neg (by rwa [List.isEmpty_iff]), List.map_singleton]

/-- A change that leaves the rest leaves the open line. -/
theorem map_openLine_of_fixed {change : List Item → List Item} {rest : List Item}
    (fixed : change rest = rest) : (openLine rest).map change = openLine rest := by
  rw [openLine]
  split
  · rfl
  · rw [List.map_singleton, fixed]

/-- Closed lines, each with its break, and what comes after the last break. -/
structure LineForm where
  closed : List (List Item × Item)
  rest : List Item
  unbroken : ∀ line ∈ closed, ∀ item ∈ line.1, breaks item = false
  stops : ∀ line ∈ closed, breaks line.2 = true
  open_ : ∀ item ∈ rest, breaks item = false

namespace LineForm

variable {breaks}

/-- The text of the lines. -/
def text (form : LineForm breaks) : List Item :=
  form.closed.flatMap (fun line => line.1 ++ [line.2]) ++ form.rest

/-- The lines without their breaks. -/
def bodies (form : LineForm breaks) : List (List Item) :=
  form.closed.map Prod.fst ++ openLine form.rest

/-- The lines with their breaks. -/
def lines (form : LineForm breaks) : List (List Item) :=
  form.closed.map (fun line => line.1 ++ [line.2]) ++ openLine form.rest

/-- The open line is the rest. -/
theorem flatten_openLine (rest : List Item) : (openLine rest).flatten = rest := by
  cases rest with
  | nil => rfl
  | cons item rest => exact List.append_nil _

/-- The lines of a text make it up. -/
theorem flatten_lines (form : LineForm breaks) : form.lines.flatten = form.text := by
  rw [lines, List.flatten_append, flatten_openLine, ← List.flatMap_def, text]

/-- No line is empty. -/
theorem ne_nil_of_mem_lines {form : LineForm breaks} {line : List Item}
    (listed : line ∈ form.lines) : line ≠ [] := by
  rcases List.mem_append.mp listed with closed | last
  · obtain ⟨line, -, rfl⟩ := List.mem_map.mp closed
    exact List.append_ne_nil_of_right_ne_nil _ (List.cons_ne_nil _ _)
  · rw [openLine] at last
    split at last
    · cases last
    · rename_i filled
      rw [List.mem_singleton.mp last]
      exact fun blank => filled (List.isEmpty_iff.mpr blank)

/-- The last line is the rest, if there is one. -/
theorem getLast?_lines {form : LineForm breaks} (filled : form.rest ≠ []) :
    form.lines.getLast? = some form.rest := by
  rw [lines, openLine, if_neg (by rwa [List.isEmpty_iff]), List.getLast?_concat]

/-- Without a rest the last line is the last closed one. -/
theorem getLast?_lines_of_closed {form : LineForm breaks} {front : List (List Item × Item)}
    {last : List Item × Item} (complete : form.rest = []) (closed : form.closed = front ++ [last]) :
    form.lines.getLast? = some (last.1 ++ [last.2]) := by
  rw [lines, complete, closed, List.map_append, List.map_singleton]
  exact (congrArg List.getLast? (List.append_nil _)).trans List.getLast?_concat

/-- Without a rest the text ends with a break. -/
theorem getLast?_text_of_closed {form : LineForm breaks} {front : List (List Item × Item)}
    {last : List Item × Item} (complete : form.rest = []) (closed : form.closed = front ++ [last]) :
    form.text.getLast? = some last.2 := by
  rw [text, complete, closed, List.append_nil, List.flatMap_append, List.flatMap_singleton,
    ← List.append_assoc, List.getLast?_concat]

/-- Nothing is open in a text that ends with a break. -/
theorem rest_eq_nil {form : LineForm breaks} {stop : Item} (ends : form.text.getLast? = some stop)
    (stops : breaks stop = true) : form.rest = [] := by
  by_contra filled
  rw [text, List.getLast?_append_of_ne_nil _ filled] at ends
  exact Bool.false_ne_true ((form.open_ stop (List.mem_of_getLast? ends)).symm.trans stops)

/-- Every text has a form. -/
theorem exists_text_eq (items : List Item) : ∃ form : LineForm breaks, form.text = items := by
  induction items with
  | nil =>
      exact ⟨⟨[], [], List.forall_mem_nil _, List.forall_mem_nil _, List.forall_mem_nil _⟩, rfl⟩
  | cons item items ih =>
      obtain ⟨⟨closed, rest, unbroken, stops, open_⟩, rfl⟩ := ih
      cases stop : breaks item with
      | true =>
          refine ⟨⟨([], item) :: closed, rest, ?_, ?_, open_⟩, rfl⟩
          · exact List.forall_mem_cons.mpr ⟨List.forall_mem_nil _, unbroken⟩
          · exact List.forall_mem_cons.mpr ⟨stop, stops⟩
      | false =>
          cases closed with
          | nil =>
              refine ⟨⟨[], item :: rest, unbroken, stops, ?_⟩, rfl⟩
              exact List.forall_mem_cons.mpr ⟨stop, open_⟩
          | cons first closed =>
              obtain ⟨body, later⟩ := List.forall_mem_cons.mp unbroken
              refine ⟨⟨(item :: first.1, first.2) :: closed, rest, ?_, ?_, open_⟩, rfl⟩
              · exact List.forall_mem_cons.mpr ⟨List.forall_mem_cons.mpr ⟨stop, body⟩, later⟩
              · exact List.forall_mem_cons.mpr (List.forall_mem_cons.mp stops)

end LineForm

section Split

variable {breaks}

/-- Without a break there is one open line. -/
theorem splitKeepEndsFrom_open {rest : List Item} (unbroken : ∀ item ∈ rest, breaks item = false) :
    ∀ current : List Item,
      splitKeepEndsFrom breaks current rest = openLine (current.reverse ++ rest) := by
  induction rest with
  | nil =>
      intro current
      cases current with
      | nil => rfl
      | cons item current =>
          rw [splitKeepEndsFrom, openLine, List.append_nil, List.isEmpty_reverse]
  | cons item rest ih =>
      intro current
      obtain ⟨solid, unbroken⟩ := List.forall_mem_cons.mp unbroken
      rw [splitKeepEndsFrom, if_neg (by rw [solid]; exact Bool.false_ne_true), ih unbroken,
        List.reverse_cons, List.append_assoc, List.singleton_append]

/-- The first line ends after the first break, which it keeps. -/
theorem splitKeepEndsFrom_append {line : List Item} {stop : Item} (rest : List Item)
    (stops : breaks stop = true) (unbroken : ∀ item ∈ line, breaks item = false) :
    ∀ current : List Item,
      splitKeepEndsFrom breaks current (line ++ stop :: rest) =
        (current.reverse ++ line ++ [stop]) :: splitKeepEndsFrom breaks [] rest := by
  induction line with
  | nil =>
      intro current
      rw [List.nil_append, splitKeepEndsFrom, if_pos stops, List.reverse_cons, List.append_nil]
  | cons item line ih =>
      intro current
      obtain ⟨solid, unbroken⟩ := List.forall_mem_cons.mp unbroken
      rw [List.cons_append, splitKeepEndsFrom, if_neg (by rw [solid]; exact Bool.false_ne_true),
        ih unbroken, List.reverse_cons, List.append_assoc current.reverse, List.singleton_append]

/-- Without a break there is one open line, whether breaks are kept or not. -/
theorem splitLinesFrom_open {rest : List Item} (unbroken : ∀ item ∈ rest, breaks item = false) :
    ∀ current : List Item,
      splitLinesFrom breaks current rest = openLine (current.reverse ++ rest) := by
  induction rest with
  | nil =>
      intro current
      cases current with
      | nil => rfl
      | cons item current =>
          rw [splitLinesFrom, openLine, List.append_nil, List.isEmpty_reverse]
  | cons item rest ih =>
      intro current
      obtain ⟨solid, unbroken⟩ := List.forall_mem_cons.mp unbroken
      rw [splitLinesFrom, if_neg (by rw [solid]; exact Bool.false_ne_true), ih unbroken,
        List.reverse_cons, List.append_assoc, List.singleton_append]

end Split

variable {breaks}

/-- The lines of a text with their breaks. -/
theorem splitKeepEnds_join (form : LineForm breaks) :
    splitKeepEnds breaks form.text = form.lines := by
  obtain ⟨closed, rest, unbroken, stops, open_⟩ := form
  show splitKeepEnds breaks (closed.flatMap (fun line => line.1 ++ [line.2]) ++ rest) =
    closed.map (fun line => line.1 ++ [line.2]) ++ openLine rest
  induction closed with
  | nil => exact splitKeepEndsFrom_open open_ []
  | cons line closed ih =>
      obtain ⟨body, unbroken⟩ := List.forall_mem_cons.mp unbroken
      obtain ⟨stop, stops⟩ := List.forall_mem_cons.mp stops
      have later := ih unbroken stops
      rw [splitKeepEnds] at later ⊢
      rw [List.flatMap_cons, List.append_assoc, List.append_assoc, List.singleton_append,
        splitKeepEndsFrom_append _ stop body, later]
      rfl

/-- The lines of a text without their breaks. -/
theorem splitLines_join (form : LineForm breaks) : splitLines breaks form.text = form.bodies := by
  obtain ⟨closed, rest, unbroken, stops, open_⟩ := form
  show splitLines breaks (closed.flatMap (fun line => line.1 ++ [line.2]) ++ rest) =
    closed.map Prod.fst ++ openLine rest
  induction closed with
  | nil => exact splitLinesFrom_open open_ []
  | cons line closed ih =>
      obtain ⟨body, unbroken⟩ := List.forall_mem_cons.mp unbroken
      obtain ⟨stop, stops⟩ := List.forall_mem_cons.mp stops
      have later := ih unbroken stops
      rw [splitLines] at later ⊢
      rw [List.flatMap_cons, List.append_assoc, List.append_assoc, List.singleton_append,
        splitLinesFrom_append _ stop body, later]
      rfl

end Foundation
