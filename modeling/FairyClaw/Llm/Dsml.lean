import FairyClaw.Foundation.JsonText
import FairyClaw.Foundation.Scan
import FairyClaw.Hooks.Runtime
import Mathlib.Data.Bool.AllAny

/-! # Tool calls written as DSML tags

Some models write tool calls as DSML tags into their reasoning instead of giving them in the field
for tool calls (`FairyClaw.parseDsmlToolCalls`). The calls of a reasoning text, whatever else it
says, are read back in their order with the names and the arguments that were written
(`FairyClaw.parse_reasoning`).
-/

namespace FairyClaw

open Foundation

/-- The two kinds of quotation marks. -/
def isQuote (char : Char) : Bool := char = '\'' || char = '"'

/-- `<tag\s+name=['"]([^'"]+)['"]`, with its group and what follows. -/
def readName (tag items : List Char) : Option (List Char × List Char) :=
  let spaced := items.drop tag.length
  let named := spaced.dropWhile isSpace
  let rest := named.drop "name=".length
  let quoted := rest.drop 1
  let name := quoted.takeWhile (!isQuote ·)
  let closing := quoted.dropWhile (!isQuote ·)
  if tag <+: items ∧ named.length < spaced.length ∧ "name=".toList <+: named ∧
      rest.head?.any isQuote ∧ name ≠ [] ∧ closing ≠ [] then some (name, closing.drop 1)
  else none

/-- `invoke_pattern`, with its two groups -/
def readInvoke : Pattern Char (List Char × List Char) := fun items => do
  let (name, rest) ← readName "<｜DSML｜invoke".toList items
  match rest with
  | '>' :: rest =>
      let (body, after) ← splitAtMark "</｜DSML｜invoke>".toList rest
      some ((name, body), items.length - after.length)
  | _ => none

/-- `param_pattern`, with its two groups -/
def readParameter : Pattern Char (List Char × List Char) := fun items => do
  let (name, rest) ← readName "<｜DSML｜parameter".toList items
  match rest.dropWhile (· ≠ '>') with
  | _ :: rest =>
      let (value, after) ← splitAtMark "</｜DSML｜parameter>".toList rest
      some ((name, value), items.length - after.length)
  | [] => none

/-- The arguments of a call, the last value of a name in the place of the first. -/
def dsmlArguments (body : List Char) : JsonObject :=
  (scan readParameter body).1.foldl (fun arguments found =>
    arguments.set (strip (String.ofList found.2.1)) (.str (strip (String.ofList found.2.2)))) []

/-- The request of a call; `hex` gives the digits of its fresh identifier. -/
def dsmlCall (hex : Nat → String) (index : Nat) (found : List Char × List Char) :
    LlmToolCallRequest where
  callId := "dsml_" ++ hex index
  name := strip (String.ofList found.1)
  argumentsJson := Json.dumps (.obj (dsmlArguments found.2))

/-- `_parse_dsml_tool_calls` -/
def parseDsmlToolCalls (hex : Nat → String) (reasoning : String) : List LlmToolCallRequest :=
  if contains reasoning "<｜DSML｜" then
    ((scan readInvoke reasoning.toList).1.map Prod.snd).mapIdx (dsmlCall hex)
  else []

/-! ## Written calls -/

/-- A name as it stands in a tag. -/
structure DsmlName where
  chars : List Char
  filled : chars ≠ []
  unquoted : ∀ char ∈ chars, isQuote char = false

/-- A tag with a name, up to the quote after it. -/
def DsmlName.tagged (name : DsmlName) (tag : List Char) : List Char :=
  tag ++ (" name=\"".toList ++ (name.chars ++ "\"".toList))

/-- A parameter; its tag may say more about the value. -/
structure DsmlParameter where
  name : DsmlName
  attributes : List Char
  value : List Char
  inTag : ∀ char ∈ attributes, char ≠ '>'
  closed : ¬"</｜DSML｜parameter>".toList <:+: value

/-- A parameter as it is written. -/
def DsmlParameter.chars (parameter : DsmlParameter) : List Char :=
  parameter.name.tagged "<｜DSML｜parameter".toList ++ (parameter.attributes ++ (">".toList ++
    (parameter.value ++ "</｜DSML｜parameter>".toList)))

/-- What stands between tags of a kind. -/
def DsmlGap (tag : List Char) := { chars : List Char // ¬tag <:+: chars }

/-- The parameters of a call, each after a gap, and what stands after the last one. -/
structure DsmlBody where
  parameters : List (DsmlGap "<｜DSML｜parameter".toList × DsmlParameter)
  last : DsmlGap "<｜DSML｜parameter".toList

/-- The parameters and the text between them, as they are written. -/
def DsmlBody.chars (body : DsmlBody) : List Char :=
  body.parameters.flatMap (fun part => part.1.1 ++ part.2.chars) ++ body.last.1

/-- A call whose parameters do not end it. -/
structure DsmlCall where
  name : DsmlName
  body : DsmlBody
  closed : ¬"</｜DSML｜invoke>".toList <:+: body.chars

/-- A call as it is written. -/
def DsmlCall.chars (call : DsmlCall) : List Char :=
  call.name.tagged "<｜DSML｜invoke".toList ++ (">".toList ++
    (call.body.chars ++ "</｜DSML｜invoke>".toList))

/-- A reasoning text: calls, each after a gap, and what stands after the last one. -/
structure DsmlReasoning where
  calls : List (DsmlGap "<｜DSML｜invoke".toList × DsmlCall)
  last : DsmlGap "<｜DSML｜invoke".toList

/-- A reasoning text as it is written. -/
def DsmlReasoning.text (reasoning : DsmlReasoning) : String :=
  String.ofList (reasoning.calls.flatMap (fun part => part.1.1 ++ part.2.chars) ++
    reasoning.last.1)

/-! ## Reading a tag -/

/-- A tag is read only where it begins. -/
theorem prefix_of_readName {tag items : List Char} (reads : readName tag items ≠ none) :
    tag <+: items := by
  by_contra other
  exact reads (if_neg fun all => other all.1)

/-- A written tag is read with its name. -/
theorem readName_tagged (name : DsmlName) (tag rest : List Char) :
    readName tag (name.tagged tag ++ rest) = some (name.chars, rest) := by
  have stops : ∀ char ∈ name.chars, (!isQuote char) = true := by
    intro char member
    rw [name.unquoted char member]
    rfl
  have spaced : (name.tagged tag ++ rest).drop tag.length =
      " name=\"".toList ++ (name.chars ++ ('"' :: rest)) := by
    rw [DsmlName.tagged, List.append_assoc, List.drop_left, List.append_assoc, List.append_assoc]
    rfl
  have named : (" name=\"".toList ++ (name.chars ++ ('"' :: rest))).dropWhile isSpace =
      "name=\"".toList ++ (name.chars ++ ('"' :: rest)) := rfl
  have taken : (name.chars ++ ('"' :: rest)).takeWhile (!isQuote ·) = name.chars := by
    rw [List.takeWhile_append_of_pos stops]
    exact List.append_nil _
  have closing : (name.chars ++ ('"' :: rest)).dropWhile (!isQuote ·) = '"' :: rest := by
    rw [List.dropWhile_append_of_pos stops]
    rfl
  have quoted : ("name=\"".toList ++ (name.chars ++ ('"' :: rest))).drop "name=".length =
      '"' :: (name.chars ++ ('"' :: rest)) := rfl
  unfold readName
  simp only [spaced, named, quoted, List.drop_succ_cons, List.drop_zero, taken, closing]
  rw [if_pos]
  refine ⟨?_, Nat.lt_succ_self _, ?_, rfl, name.filled, List.cons_ne_nil _ _⟩
  · rw [DsmlName.tagged, List.append_assoc]
    exact List.prefix_append _ _
  · exact (List.prefix_append "name=".toList ['"']).trans (List.prefix_append _ _)

/-! ## Reading the parameters -/

/-- A parameter is read only where its tag begins. -/
theorem prefix_of_readParameter {items : List Char} (reads : readParameter items ≠ none) :
    "<｜DSML｜parameter".toList <+: items := by
  apply prefix_of_readName
  intro unread
  apply reads
  rw [readParameter, unread]
  rfl

/-- A written parameter is read as it is. -/
theorem readParameter_chars (parameter : DsmlParameter) (rest : List Char) :
    readParameter (parameter.chars ++ rest) =
      some ((parameter.name.chars, parameter.value), parameter.chars.length) := by
  have named := readName_tagged parameter.name "<｜DSML｜parameter".toList
    (parameter.attributes ++ (">".toList ++
      (parameter.value ++ ("</｜DSML｜parameter>".toList ++ rest))))
  have inTag : ∀ char ∈ parameter.attributes, decide (char ≠ '>') = true :=
    fun char member => decide_eq_true (parameter.inTag char member)
  have opened : (parameter.attributes ++ (">".toList ++
      (parameter.value ++ ("</｜DSML｜parameter>".toList ++ rest)))).dropWhile (· ≠ '>') =
        '>' :: (parameter.value ++ ("</｜DSML｜parameter>".toList ++ rest)) := by
    rw [List.dropWhile_append_of_pos inTag]
    rfl
  have ended := splitAtMark_append rest (by decide) parameter.closed
  have size : (parameter.chars ++ rest).length - rest.length = parameter.chars.length := by
    rw [List.length_append, Nat.add_sub_cancel]
  have written : parameter.chars ++ rest = parameter.name.tagged "<｜DSML｜parameter".toList ++
      (parameter.attributes ++ (">".toList ++
        (parameter.value ++ ("</｜DSML｜parameter>".toList ++ rest)))) := by
    rw [DsmlParameter.chars]
    simp only [List.append_assoc]
  rw [← written] at named
  rw [readParameter, named]
  simp only [Option.bind_eq_bind, Option.bind_some, opened]
  refine (congrArg (Option.bind · _) ended).trans ?_
  simp only [Option.bind_some, size]

/-- The scan finds the parameters of a call. -/
theorem scanned_body (body : DsmlBody) :
    Scanned readParameter body.chars (body.parameters.map fun part =>
      (part.1.1, part.2.name.chars, part.2.value)) body.last.1 := by
  apply scanned_parts (fun _ => prefix_of_readParameter) (by decide) _ body.last.2 _ _
  · exact fun part => part.1.2
  · exact fun _ => ⟨_, rfl⟩
  · exact fun part => readParameter_chars part.2

/-! ## Reading the calls -/

/-- A call is read only where its tag begins. -/
theorem prefix_of_readInvoke {items : List Char} (reads : readInvoke items ≠ none) :
    "<｜DSML｜invoke".toList <+: items := by
  apply prefix_of_readName
  intro unread
  apply reads
  rw [readInvoke, unread]
  rfl

/-- A written call is read as it is. -/
theorem readInvoke_chars (call : DsmlCall) (rest : List Char) :
    readInvoke (call.chars ++ rest) =
      some ((call.name.chars, call.body.chars), call.chars.length) := by
  have named := readName_tagged call.name "<｜DSML｜invoke".toList
    ('>' :: (call.body.chars ++ ("</｜DSML｜invoke>".toList ++ rest)))
  have ended := splitAtMark_append rest (by decide) call.closed
  have size : (call.chars ++ rest).length - rest.length = call.chars.length := by
    rw [List.length_append, Nat.add_sub_cancel]
  have written : call.chars ++ rest = call.name.tagged "<｜DSML｜invoke".toList ++
      ('>' :: (call.body.chars ++ ("</｜DSML｜invoke>".toList ++ rest))) := by
    rw [DsmlCall.chars, List.append_assoc, List.append_assoc, List.append_assoc]
    rfl
  rw [← written] at named
  rw [readInvoke, named]
  simp only [Option.bind_eq_bind, Option.bind_some]
  refine (congrArg (Option.bind · _) ended).trans ?_
  simp only [Option.bind_some, size]

/-- The scan finds the calls of a reasoning text. -/
theorem scanned_reasoning (reasoning : DsmlReasoning) :
    Scanned readInvoke reasoning.text.toList (reasoning.calls.map fun part =>
      (part.1.1, part.2.name.chars, part.2.body.chars)) reasoning.last.1 := by
  rw [DsmlReasoning.text, String.toList_ofList]
  apply scanned_parts (fun _ => prefix_of_readInvoke) (by decide) _ reasoning.last.2 _ _
  · exact fun part => part.1.2
  · exact fun _ => ⟨_, rfl⟩
  · exact fun part => readInvoke_chars part.2

/-! ## What is read back -/

/-- The arguments that a call writes. -/
def DsmlCall.arguments (call : DsmlCall) : JsonObject :=
  call.body.parameters.foldl (fun arguments part => arguments.set
    (strip (String.ofList part.2.name.chars)) (.str (strip (String.ofList part.2.value)))) []

/-- The request that a call stands for. -/
def DsmlCall.request (hex : Nat → String) (index : Nat) (call : DsmlCall) :
    LlmToolCallRequest where
  callId := "dsml_" ++ hex index
  name := strip (String.ofList call.name.chars)
  argumentsJson := Json.dumps (.obj call.arguments)

/-- The arguments of a written call are its parameters. -/
theorem dsmlArguments_chars (call : DsmlCall) : dsmlArguments call.body.chars = call.arguments := by
  rw [dsmlArguments, scan_eq_of_scanned (scanned_body call.body), List.foldl_map]
  rfl

/-- **Reading the reasoning.** The calls are read back in their order. -/
theorem parse_reasoning (hex : Nat → String) (reasoning : DsmlReasoning) :
    parseDsmlToolCalls hex reasoning.text =
      (reasoning.calls.map Prod.snd).mapIdx (DsmlCall.request hex) := by
  have found := scan_eq_of_scanned (scanned_reasoning reasoning)
  have calls : ((scan readInvoke reasoning.text.toList).1.map Prod.snd).mapIdx (dsmlCall hex) =
      (reasoning.calls.map Prod.snd).mapIdx (DsmlCall.request hex) := by
    rw [found, List.map_map, List.mapIdx_eq_iff]
    intro index
    rw [List.getElem?_mapIdx, List.getElem?_map, List.getElem?_map, Option.map_map, Option.map_map]
    refine congrArg (Option.map · _) (funext fun part => ?_)
    simp only [Function.comp_apply, dsmlCall, DsmlCall.request, dsmlArguments_chars]
  rw [parseDsmlToolCalls]
  split
  · exact calls
  · next untagged =>
      -- without any tag there are no calls
      cases listed : reasoning.calls with
      | nil => rfl
      | cons part parts =>
          refine absurd (contains_iff.mpr ?_) untagged
          have written : reasoning.text.toList = part.1.1 ++ (part.2.chars ++
              (parts.flatMap (fun part => part.1.1 ++ part.2.chars) ++ reasoning.last.1)) := by
            rw [DsmlReasoning.text, String.toList_ofList, listed, List.flatMap_cons,
              List.append_assoc, List.append_assoc]
          rw [written]
          have opened : "<｜DSML｜".toList <+: part.2.chars :=
            (by decide : "<｜DSML｜".toList <+: "<｜DSML｜invoke".toList).trans
              ((List.prefix_append _ _).trans (List.prefix_append _ _))
          exact (opened.trans (List.prefix_append _ _)).isInfix.trans
            (List.suffix_append _ _).isInfix

/-- The parameter of the example in the client's own documentation. -/
def echoParameter : DsmlParameter where
  name := ⟨"command".toList, by decide, List.all_iff_forall_prop.mp (by decide)⟩
  attributes := " string=\"true\"".toList
  value := "echo hi".toList
  inTag := List.all_iff_forall_prop.mp (by decide)
  closed := by decide

/-- The call of the example. -/
def runCommandCall : DsmlCall where
  name := ⟨"run_command".toList, by decide, List.all_iff_forall_prop.mp (by decide)⟩
  body := ⟨[(⟨"\n".toList, by decide⟩, echoParameter)], ⟨"\n".toList, by decide⟩⟩
  closed := by decide +kernel

/-- The example, after a thought. -/
def runCommandReasoning : DsmlReasoning where
  calls := [(⟨"I greet.\n<｜DSML｜function_calls>\n".toList, by decide⟩, runCommandCall)]
  last := ⟨"\n</｜DSML｜function_calls>".toList, by decide⟩

end FairyClaw
