import FairyClaw.Foundation.Machine
import Mathlib.Algebra.Order.BigOperators.Group.Finset
import Mathlib.Data.Fintype.EquivFin

/-! # Calls that share a connection

Any number of calls send requests over one connection. A server answers every request with some
frames; the client finds the call that waits for a frame by the identifier of the request, and the
call goes on waiting, ends, or sends its next request. The requests and the answers of different
calls are in flight in any order (`Foundation.Exchange.wire`).

As long as identifiers are new, a call meets only the answers to its own requests: the connection is
simulated by one in which every call is alone with the server (`Foundation.Exchange.simulation`). A
rank that every exchange lowers then brings all calls to their end, on the connection as well
(`Foundation.Exchange.inevitably_finished`).
-/

namespace Foundation

/-- What a call does with an answer. -/
inductive Resumption (Call Request : Type*)
  | await (call : Call)
  | done (call : Call)
  | send (call : Call) (request : Request)

/-- How calls begin and go on, and how the server answers a request, given what it is told from
outside. -/
structure Exchange (Args Call Request Answer Server Nonce : Type*) where
  opens : Args → Call × Option Request
  serve : Server → Nonce → Request → Option (Server × List Answer)
  resume : Call → Answer → Resumption Call Request

namespace Exchange

variable {Args Call Request Answer Server Nonce Id : Type*}

/-! ## Calls that are alone with the server -/

/-- What a call waits for: nothing, a request without answers, or the rest of the answers. -/
inductive Outstanding (Request Answer : Type*)
  | nothing
  | request (request : Request)
  | answers (answers : List Answer)

/-- A call, and what is under way between it and the server. -/
structure Dialogue (Call Request Answer : Type*) where
  call : Call
  outstanding : Outstanding Request Answer

/-- The server with the calls so far. -/
structure Dialogues (Call Request Answer Server : Type*) where
  server : Server
  count : Nat := 0
  dialogue : Nat → Option (Dialogue Call Request Answer) := fun _ => none

/-- What may happen next: a call begins, the server answers a request, or a call takes an answer. -/
inductive DialogueAction (Args Nonce : Type*)
  | start (args : Args)
  | serve (index : Nat) (nonce : Nonce)
  | deliver (index : Nat)

variable (exchange : Exchange Args Call Request Answer Server Nonce)

/-- A call that begins. -/
def opening (args : Args) : Dialogue Call Request Answer where
  call := (exchange.opens args).1
  outstanding := (exchange.opens args).2.elim .nothing .request

/-- A call after an answer, with the answers that are left. -/
def resumed (rest : List Answer) : Resumption Call Request → Dialogue Call Request Answer
  | .await call => ⟨call, .answers rest⟩
  | .done call => ⟨call, .nothing⟩
  | .send call request => ⟨call, .request request⟩

namespace Dialogues

/-- The dialogue of one call is replaced. -/
def put (dialogues : Dialogues Call Request Answer Server) (index : Nat)
    (dialogue : Dialogue Call Request Answer) : Dialogues Call Request Answer Server :=
  { dialogues with dialogue := Function.update dialogues.dialogue index (some dialogue) }

/-- A step of the dialogues; an action that is not possible gives nothing. -/
def step (dialogues : Dialogues Call Request Answer Server) :
    DialogueAction Args Nonce → Option (Dialogues Call Request Answer Server)
  | .start args =>
      some { dialogues.put dialogues.count (exchange.opening args) with
        count := dialogues.count + 1 }
  | .serve index nonce =>
      match dialogues.dialogue index with
      | some ⟨call, .request request⟩ =>
          (exchange.serve dialogues.server nonce request).map fun (server, answers) =>
            { dialogues.put index ⟨call, .answers answers⟩ with server := server }
      | _ => none
  | .deliver index =>
      match dialogues.dialogue index with
      | some ⟨call, .answers (answer :: rest)⟩ =>
          some (dialogues.put index (resumed rest (exchange.resume call answer)))
      | _ => none

end Dialogues

/-- The calls, each alone with the server. -/
def dialogues (start : Server → Prop) :
    Machine (Dialogues Call Request Answer Server) (DialogueAction Args Nonce) where
  initial state := start state.server ∧ state.count = 0 ∧ state.dialogue = fun _ => none
  step := Dialogues.step exchange

/-! ## The connection -/

/-- The connection: calls with the identifier they wait for, the table of waiters, and the frames in
flight under the identifier of their request. -/
structure Wire (Call Request Answer Server Id : Type*) where
  server : Server
  count : Nat := 0
  calls : Nat → Option (Call × Option Id) := fun _ => none
  waiters : Id → Option Nat := fun _ => none
  requests : Id → Option Request := fun _ => none
  answers : Id → List Answer := fun _ => []
  used : List Id := []

/-- The actions of a dialogue, with the ids that the messages carry. -/
inductive WireAction (Args Nonce Id : Type*)
  | start (args : Args) (id : Id)
  | serve (id : Id) (nonce : Nonce)
  | deliver (id newId : Id)

namespace Wire

variable [DecidableEq Id]

/-- A call sends a request under a new identifier. -/
def send (wire : Wire Call Request Answer Server Id) (index : Nat) (call : Call) (id : Id)
    (request : Request) : Wire Call Request Answer Server Id :=
  { wire with
    calls := Function.update wire.calls index (some (call, some id))
    waiters := Function.update wire.waiters id (some index)
    requests := Function.update wire.requests id (some request)
    used := id :: wire.used }

/-- A call takes the next answer under its identifier and goes on waiting. -/
def goOn (wire : Wire Call Request Answer Server Id) (index : Nat) (call : Call) (id : Id)
    (rest : List Answer) : Wire Call Request Answer Server Id :=
  { wire with
    calls := Function.update wire.calls index (some (call, some id))
    answers := Function.update wire.answers id rest }

/-- A call takes the next answer under its identifier, and waits for nothing. -/
def finish (wire : Wire Call Request Answer Server Id) (index : Nat) (call : Call) (id : Id)
    (rest : List Answer) : Wire Call Request Answer Server Id :=
  { wire with
    calls := Function.update wire.calls index (some (call, none))
    waiters := Function.update wire.waiters id none
    answers := Function.update wire.answers id rest }

/-- The answers to a request are on their way. -/
def answer (wire : Wire Call Request Answer Server Id) (id : Id) (server : Server)
    (answers : List Answer) : Wire Call Request Answer Server Id :=
  { wire with
    server := server
    requests := Function.update wire.requests id none
    answers := Function.update wire.answers id answers }

/-- A step over the wire: requests and answers find each other by their ids. -/
def step (wire : Wire Call Request Answer Server Id) :
    WireAction Args Nonce Id → Option (Wire Call Request Answer Server Id)
  | .start args id =>
      let started := { wire with count := wire.count + 1 }
      match exchange.opens args with
      | (call, none) =>
          some { started with calls := Function.update wire.calls wire.count (some (call, none)) }
      | (call, some request) =>
          if id ∈ wire.used then none else some (started.send wire.count call id request)
  | .serve id nonce =>
      match wire.requests id with
      | none => none
      | some request =>
          (exchange.serve wire.server nonce request).map fun (server, answers) =>
            wire.answer id server answers
  | .deliver id newId =>
      match wire.waiters id, wire.answers id with
      | some index, answer :: rest =>
          match wire.calls index with
          | none => none
          | some (call, _) =>
              match exchange.resume call answer with
              | .await call => some (wire.goOn index call id rest)
              | .done call => some (wire.finish index call id rest)
              | .send call request =>
                  if newId ∈ wire.used then none
                  else some ((wire.finish index call id rest).send index call newId request)
      -- A frame that nobody waits for has no effect when it is read.
      | _, _ => none

end Wire

variable [DecidableEq Id]

/-- The calls on a shared connection. -/
def wire (start : Server → Prop) :
    Machine (Wire Call Request Answer Server Id) (WireAction Args Nonce Id) where
  initial state := start state.server ∧ state.count = 0 ∧ (state.calls = fun _ => none) ∧
    (state.waiters = fun _ => none) ∧ (state.requests = fun _ => none) ∧
    (state.answers = fun _ => []) ∧ state.used = []
  step := Wire.step exchange

/-! ## Waiters and calls agree -/

namespace Wire

/-- The table of waiters is the inverse of what the calls wait for, and the frames in flight are
under identifiers in use. -/
structure Matched (wire : Wire Call Request Answer Server Id) : Prop where
  waiting : ∀ index call id, wire.calls index = some (call, some id) → wire.waiters id = some index
  waited : ∀ id index, wire.waiters id = some index → ∃ call, wire.calls index = some (call, some id)
  requested : ∀ id request, wire.requests id = some request →
    (∃ index, wire.waiters id = some index) ∧ wire.answers id = []
  known : ∀ id index, wire.waiters id = some index → id ∈ wire.used
  answered : ∀ id, wire.answers id ≠ [] → id ∈ wire.used
  started : ∀ index, wire.count ≤ index → wire.calls index = none

variable {wire : Wire Call Request Answer Server Id} {index : Nat} {call : Call} {id : Id}
  {rest : List Answer}

namespace Matched

omit [DecidableEq Id] in
/-- An id that no message has had is neither waited for nor under way. -/
theorem fresh (matched : wire.Matched) (unused : id ∉ wire.used) :
    wire.waiters id = none ∧ wire.requests id = none ∧ wire.answers id = [] := by
  have unwaited : wire.waiters id = none := by
    cases waited : wire.waiters id with
    | none => rfl
    | some index => exact absurd (matched.known id index waited) unused
  refine ⟨unwaited, ?_, ?_⟩
  · cases sent : wire.requests id with
    | none => rfl
    | some request =>
        obtain ⟨⟨index, waited⟩, _⟩ := matched.requested id request sent
        rw [unwaited] at waited
        cases waited
  · by_contra answers
    exact unused (matched.answered id answers)

omit [DecidableEq Id] in
/-- An identifier belongs to one call. -/
theorem other (matched : wire.Matched) {first second : Nat} {call : Call} {firstId secondId : Id}
    (waited : wire.waiters firstId = some first)
    (waiting : wire.calls second = some (call, some secondId)) (different : second ≠ first) :
    secondId ≠ firstId := by
  rintro rfl
  have same := (matched.waiting second call secondId waiting).symm.trans waited
  exact different (Option.some.inj same)

/-- A request under an unused id keeps the wire matched. -/
theorem send (matched : wire.Matched) (unused : id ∉ wire.used) (below : index < wire.count)
    (idle : ∀ call other, wire.calls index ≠ some (call, some other)) (request : Request) :
    (wire.send index call id request).Matched := by
  obtain ⟨unwaited, _, unanswered⟩ := matched.fresh unused
  constructor
  · intro other otherCall otherId waiting
    simp only [Wire.send] at waiting ⊢
    by_cases same : other = index
    · subst same
      rw [Function.update_self] at waiting
      cases waiting
      exact Function.update_self ..
    · rw [Function.update_of_ne same] at waiting
      have waited := matched.waiting other otherCall otherId waiting
      have different : otherId ≠ id := by
        rintro rfl
        rw [unwaited] at waited
        cases waited
      rw [Function.update_of_ne different]
      exact waited
  · intro otherId other waited
    simp only [Wire.send] at waited ⊢
    by_cases same : otherId = id
    · subst same
      rw [Function.update_self] at waited
      cases waited
      exact ⟨call, Function.update_self ..⟩
    · rw [Function.update_of_ne same] at waited
      obtain ⟨otherCall, waiting⟩ := matched.waited otherId other waited
      have different : other ≠ index := by
        rintro rfl
        exact idle _ _ waiting
      exact ⟨otherCall, (Function.update_of_ne different ..).trans waiting⟩
  · intro otherId otherRequest sent
    simp only [Wire.send] at sent ⊢
    by_cases same : otherId = id
    · subst same
      exact ⟨⟨index, Function.update_self ..⟩, unanswered⟩
    · rw [Function.update_of_ne same] at sent ⊢
      exact matched.requested otherId otherRequest sent
  · intro otherId other waited
    simp only [Wire.send] at waited ⊢
    by_cases same : otherId = id
    · exact same ▸ List.mem_cons_self
    · rw [Function.update_of_ne same] at waited
      exact List.mem_cons_of_mem _ (matched.known otherId other waited)
  · exact fun otherId answers => List.mem_cons_of_mem _ (matched.answered otherId answers)
  · intro other high
    have different : other ≠ index := fun same => absurd high (Nat.not_le.mpr (same ▸ below))
    exact (Function.update_of_ne different ..).trans (matched.started other high)

/-- Taking one answer of several keeps the wire matched. -/
theorem goOn (matched : wire.Matched) (waited : wire.waiters id = some index)
    (unrequested : wire.requests id = none) (call : Call) (rest : List Answer) :
    (wire.goOn index call id rest).Matched := by
  obtain ⟨_, waits⟩ := matched.waited id index waited
  constructor
  · intro other otherCall otherId waiting
    simp only [Wire.goOn] at waiting ⊢
    by_cases same : other = index
    · subst same
      rw [Function.update_self] at waiting
      cases waiting
      exact waited
    · rw [Function.update_of_ne same] at waiting
      exact matched.waiting other otherCall otherId waiting
  · intro otherId other found
    simp only [Wire.goOn] at found ⊢
    by_cases same : other = index
    · subst same
      obtain ⟨_, own⟩ := matched.waited otherId other found
      have equal : otherId = id := by
        rw [own] at waits
        cases waits
        rfl
      exact ⟨call, by rw [Function.update_self, equal]⟩
    · rw [Function.update_of_ne same]
      exact matched.waited otherId other found
  · intro otherId request sent
    simp only [Wire.goOn] at sent ⊢
    have different : otherId ≠ id := by
      rintro rfl
      rw [unrequested] at sent
      cases sent
    rw [Function.update_of_ne different]
    exact matched.requested otherId request sent
  · exact matched.known
  · intro otherId answers
    simp only [Wire.goOn] at answers ⊢
    by_cases same : otherId = id
    · exact same ▸ matched.known id index waited
    · rw [Function.update_of_ne same] at answers
      exact matched.answered otherId answers
  · intro other high
    simp only [Wire.goOn] at high ⊢
    have different : other ≠ index := by
      rintro rfl
      rw [matched.started other high] at waits
      cases waits
    rw [Function.update_of_ne different]
    exact matched.started other high

/-- Taking the last answer keeps the wire matched. -/
theorem finish (matched : wire.Matched) (waited : wire.waiters id = some index)
    (unrequested : wire.requests id = none) (call : Call) (rest : List Answer) :
    (wire.finish index call id rest).Matched := by
  obtain ⟨_, waits⟩ := matched.waited id index waited
  constructor
  · intro other otherCall otherId waiting
    simp only [Wire.finish] at waiting ⊢
    by_cases same : other = index
    · subst same
      rw [Function.update_self] at waiting
      cases waiting
    · rw [Function.update_of_ne same] at waiting
      rw [Function.update_of_ne (matched.other waited waiting same)]
      exact matched.waiting other otherCall otherId waiting
  · intro otherId other found
    simp only [Wire.finish] at found ⊢
    by_cases sameId : otherId = id
    · subst sameId
      rw [Function.update_self] at found
      cases found
    · rw [Function.update_of_ne sameId] at found
      obtain ⟨otherCall, own⟩ := matched.waited otherId other found
      have different : other ≠ index := by
        rintro rfl
        rw [own] at waits
        cases waits
        exact sameId rfl
      exact ⟨otherCall, (Function.update_of_ne different ..).trans own⟩
  · intro otherId request sent
    simp only [Wire.finish] at sent ⊢
    have different : otherId ≠ id := by
      rintro rfl
      rw [unrequested] at sent
      cases sent
    rw [Function.update_of_ne different, Function.update_of_ne different]
    exact matched.requested otherId request sent
  · intro otherId other found
    simp only [Wire.finish] at found ⊢
    by_cases same : otherId = id
    · exact same ▸ matched.known id index waited
    · rw [Function.update_of_ne same] at found
      exact matched.known otherId other found
  · intro otherId answers
    simp only [Wire.finish] at answers ⊢
    by_cases same : otherId = id
    · exact same ▸ matched.known id index waited
    · rw [Function.update_of_ne same] at answers
      exact matched.answered otherId answers
  · intro other high
    simp only [Wire.finish] at high ⊢
    have different : other ≠ index := by
      rintro rfl
      rw [matched.started other high] at waits
      cases waits
    rw [Function.update_of_ne different]
    exact matched.started other high

/-- Answering a request keeps the wire matched. -/
theorem answer (matched : wire.Matched) {request : Request} (sent : wire.requests id = some request)
    (server : Server) (answers : List Answer) : (wire.answer id server answers).Matched := by
  obtain ⟨⟨index, waited⟩, _⟩ := matched.requested id request sent
  constructor
  · exact matched.waiting
  · exact matched.waited
  · intro otherId otherRequest found
    simp only [Wire.answer] at found ⊢
    by_cases same : otherId = id
    · subst same
      rw [Function.update_self] at found
      cases found
    · rw [Function.update_of_ne same] at found ⊢
      exact matched.requested otherId otherRequest found
  · exact matched.known
  · intro otherId found
    simp only [Wire.answer] at found ⊢
    by_cases same : otherId = id
    · exact same ▸ matched.known id index waited
    · rw [Function.update_of_ne same] at found
      exact matched.answered otherId found
  · exact matched.started

omit [DecidableEq Id] in
/-- A call that sends nothing. -/
theorem idle (matched : wire.Matched) (call : Call) :
    { wire with
      count := wire.count + 1
      calls := Function.update wire.calls wire.count (some (call, none)) }.Matched := by
  constructor
  · intro other otherCall otherId waiting
    dsimp only at waiting ⊢
    by_cases same : other = wire.count
    · subst same
      rw [Function.update_self] at waiting
      cases waiting
    · rw [Function.update_of_ne same] at waiting
      exact matched.waiting other otherCall otherId waiting
  · intro otherId other found
    obtain ⟨otherCall, waiting⟩ := matched.waited otherId other found
    have different : other ≠ wire.count := by
      rintro rfl
      rw [matched.started wire.count (Nat.le_refl _)] at waiting
      cases waiting
    exact ⟨otherCall, (Function.update_of_ne different ..).trans waiting⟩
  · exact matched.requested
  · exact matched.known
  · exact matched.answered
  · intro other high
    have different : other ≠ wire.count := by
      rintro rfl
      exact absurd high (Nat.not_succ_le_self _)
    exact (Function.update_of_ne different ..).trans
      (matched.started other (Nat.le_of_succ_le high))

omit [DecidableEq Id] in
/-- Counting one call more keeps the wire matched. -/
theorem counted (matched : wire.Matched) : { wire with count := wire.count + 1 }.Matched where
  waiting := matched.waiting
  waited := matched.waited
  requested := matched.requested
  known := matched.known
  answered := matched.answered
  started := fun other high => matched.started other (Nat.le_of_succ_le high)

omit [DecidableEq Id] in
/-- A known call has been counted. -/
theorem below (matched : wire.Matched) {entry : Call × Option Id}
    (known : wire.calls index = some entry) : index < wire.count := by
  by_contra high
  rw [matched.started index (Nat.le_of_not_lt high)] at known
  cases known

end Matched

/-! ## Every call is alone with the server -/

/-- What a call waits for, as the connection has it. -/
def outstanding (wire : Wire Call Request Answer Server Id) : Option Id → Outstanding Request Answer
  | none => .nothing
  | some id =>
      match wire.requests id with
      | some request => .request request
      | none => .answers (wire.answers id)

/-- The calls without the connection. -/
def view (wire : Wire Call Request Answer Server Id) : Dialogues Call Request Answer Server where
  server := wire.server
  count := wire.count
  dialogue := fun index => (wire.calls index).map fun (call, id) => ⟨call, wire.outstanding id⟩

/-- The action of a call without the connection. -/
def shown (wire : Wire Call Request Answer Server Id) :
    WireAction Args Nonce Id → Option (DialogueAction Args Nonce)
  | .start args _ => some (.start args)
  | .serve id nonce => (wire.waiters id).map (.serve · nonce)
  | .deliver id _ => (wire.waiters id).map .deliver

omit [DecidableEq Id] in
/-- Two views that differ in one dialogue only are one and the same update apart. -/
theorem view_eq {before after : Wire Call Request Answer Server Id} {index : Nat}
    {dialogue : Dialogue Call Request Answer} (server : after.server = before.server)
    (count : after.count = before.count)
    (own : after.view.dialogue index = some dialogue)
    (others : ∀ other, other ≠ index → after.view.dialogue other = before.view.dialogue other) :
    after.view = before.view.put index dialogue := by
  have same : after.view.dialogue =
      Function.update before.view.dialogue index (some dialogue) := by
    funext other
    by_cases equal : other = index
    · subst equal
      rw [own, Function.update_self]
    · rw [others other equal, Function.update_of_ne equal]
  simp only [view] at same ⊢
  rw [Dialogues.put, server, count, same]

omit [DecidableEq Id] in
/-- A call whose entry and whose frames are untouched. -/
theorem dialogue_kept {before after : Wire Call Request Answer Server Id} {index : Nat}
    (calls : after.calls index = before.calls index)
    (frames : ∀ call id, before.calls index = some (call, some id) →
      after.requests id = before.requests id ∧ after.answers id = before.answers id) :
    after.view.dialogue index = before.view.dialogue index := by
  simp only [view, calls]
  cases known : before.calls index with
  | none => rfl
  | some entry =>
      obtain ⟨call, id⟩ := entry
      cases id with
      | none => rfl
      | some id =>
          obtain ⟨requests, answers⟩ := frames call id known
          simp only [Option.map_some, outstanding, requests, answers]

omit [DecidableEq Id] in
/-- A new call is an idle dialogue. -/
theorem view_idle (wire : Wire Call Request Answer Server Id) (call : Call) :
    { wire with
      count := wire.count + 1
      calls := Function.update wire.calls wire.count (some (call, none)) }.view =
      { wire.view.put wire.count ⟨call, .nothing⟩ with count := wire.count + 1 } := by
  let counted : Wire Call Request Answer Server Id := { wire with count := wire.count + 1 }
  change { counted with
    calls := Function.update counted.calls wire.count (some (call, none)) }.view =
      counted.view.put wire.count ⟨call, .nothing⟩
  refine view_eq rfl rfl ?_ fun other different => ?_
  · simp only [view, Function.update_self, Option.map_some, outstanding]
  · exact dialogue_kept (Function.update_of_ne different ..) fun _ _ _ => ⟨rfl, rfl⟩

/-- Sending a request is asking it in the dialogue of the call. -/
theorem view_send (matched : wire.Matched) (unused : id ∉ wire.used) (index : Nat) (call : Call)
    (request : Request) :
    (wire.send index call id request).view = wire.view.put index ⟨call, .request request⟩ := by
  obtain ⟨unwaited, _, _⟩ := matched.fresh unused
  refine view_eq rfl rfl ?_ fun other different => ?_
  · simp only [view, send, Function.update_self, Option.map_some, outstanding]
  · refine dialogue_kept (Function.update_of_ne different ..) fun otherCall otherId waiting => ?_
    have distinct : otherId ≠ id := by
      rintro rfl
      rw [matched.waiting other otherCall otherId waiting] at unwaited
      cases unwaited
    exact ⟨Function.update_of_ne distinct .., rfl⟩

/-- Taking one answer leaves the other answers in the dialogue. -/
theorem view_goOn (matched : wire.Matched) (waited : wire.waiters id = some index)
    (unrequested : wire.requests id = none) (call : Call) (rest : List Answer) :
    (wire.goOn index call id rest).view = wire.view.put index ⟨call, .answers rest⟩ := by
  refine view_eq rfl rfl ?_ fun other different => ?_
  · simp only [view, goOn, Function.update_self, Option.map_some, outstanding, unrequested]
  · refine dialogue_kept (Function.update_of_ne different ..) fun otherCall otherId waiting => ?_
    exact ⟨rfl, Function.update_of_ne (matched.other waited waiting different) ..⟩

/-- Taking the last answer ends the exchange in the dialogue. -/
theorem view_finish (matched : wire.Matched) (waited : wire.waiters id = some index) (call : Call)
    (rest : List Answer) :
    (wire.finish index call id rest).view = wire.view.put index ⟨call, .nothing⟩ := by
  refine view_eq rfl rfl ?_ fun other different => ?_
  · simp only [view, finish, Function.update_self, Option.map_some, outstanding]
  · refine dialogue_kept (Function.update_of_ne different ..) fun otherCall otherId waiting => ?_
    exact ⟨rfl, Function.update_of_ne (matched.other waited waiting different) ..⟩

/-- An answer over the wire is one in the dialogue of the call that waits. -/
theorem view_answer (matched : wire.Matched) (waited : wire.waiters id = some index)
    (waiting : wire.calls index = some (call, some id)) (server : Server) (answers : List Answer) :
    (wire.answer id server answers).view =
      { wire.view.put index ⟨call, .answers answers⟩ with server := server } := by
  have moved : ({ wire with server := server }.answer id server answers).view =
      { wire with server := server }.view.put index ⟨call, .answers answers⟩ := by
    refine view_eq rfl rfl ?_ fun other different => ?_
    · simp only [view, answer, waiting, Function.update_self, Option.map_some, outstanding]
    · refine dialogue_kept rfl fun otherCall otherId waits => ?_
      have distinct := matched.other waited waits different
      exact ⟨Function.update_of_ne distinct .., Function.update_of_ne distinct ..⟩
  exact moved

end Wire

/-- No further call begins. -/
def settling : Machine.Guard (Dialogues Call Request Answer Server) (DialogueAction Args Nonce)
  | _, .start _ => False
  | _, .serve .. | _, .deliver _ => True

/-- No call waits for anything. -/
def Dialogues.Finished (state : Dialogues Call Request Answer Server) : Prop :=
  ∀ index dialogue, state.dialogue index = some dialogue → dialogue.outstanding = .nothing

variable {exchange}

section Simulation

/-- A step of the connection is a step of the call that waits for the identifier. -/
theorem step_view {before after : Wire Call Request Answer Server Id}
    {action : WireAction Args Nonce Id} (matched : before.Matched)
    (stepped : before.step exchange action = some after) :
    after.Matched ∧ ∃ visible, before.shown action = some visible ∧
      before.view.step exchange visible = some after.view := by
  cases action with
  | start args id =>
      have unstarted := matched.started before.count (Nat.le_refl _)
      simp only [Wire.step] at stepped
      cases opened : exchange.opens args with
      | mk call request =>
          rw [opened] at stepped
          cases request with
          | none =>
              cases stepped
              refine ⟨matched.idle call, .start args, rfl, ?_⟩
              have seen := before.view_idle call
              simp only [Dialogues.step, opening, opened, Option.elim_none]
              rw [seen]
              rfl
          | some request =>
              simp only at stepped
              split at stepped
              · cases stepped
              · rename_i unused
                cases stepped
                refine ⟨matched.counted.send unused (Nat.lt_succ_self _) ?_ request,
                  .start args, rfl, ?_⟩
                · intro other otherId waiting
                  rw [unstarted] at waiting
                  cases waiting
                · rw [Wire.view_send matched.counted unused]
                  simp only [Dialogues.step, opening, opened, Option.elim_some]
                  rfl
  | serve id nonce =>
      simp only [Wire.step] at stepped
      split at stepped
      · cases stepped
      · rename_i request sent
        obtain ⟨⟨server, answers⟩, served, rfl⟩ := Option.map_eq_some_iff.mp stepped
        obtain ⟨⟨index, waited⟩, _⟩ := matched.requested id request sent
        obtain ⟨call, waiting⟩ := matched.waited id index waited
        refine ⟨matched.answer sent server answers, .serve index nonce, ?_, ?_⟩
        · simp only [Wire.shown, waited, Option.map_some]
        · rw [Wire.view_answer matched waited waiting]
          have asked : before.view.dialogue index = some ⟨call, .request request⟩ := by
            simp only [Wire.view, waiting, Option.map_some, Wire.outstanding, sent]
          have alone : exchange.serve before.view.server nonce request = some (server, answers) :=
            served
          simp only [Dialogues.step, asked, alone, Option.map_some]
  | deliver id newId =>
      simp only [Wire.step] at stepped
      split at stepped
      · rename_i index answer rest waited arrived
        obtain ⟨call, waiting⟩ := matched.waited id index waited
        have unrequested : before.requests id = none := by
          cases sent : before.requests id with
          | none => rfl
          | some request =>
              rw [(matched.requested id request sent).2] at arrived
              cases arrived
        have answered : before.view.dialogue index = some ⟨call, .answers (answer :: rest)⟩ := by
          simp only [Wire.view, waiting, Option.map_some, Wire.outstanding, unrequested, arrived]
        have named : before.shown (.deliver id newId : WireAction Args Nonce Id) =
            some (.deliver index) := by
          simp only [Wire.shown, waited, Option.map_some]
        simp only [waiting] at stepped
        cases after : exchange.resume call answer with
        | await next =>
            rw [after] at stepped
            cases stepped
            refine ⟨matched.goOn waited unrequested next rest, _, named, ?_⟩
            rw [Wire.view_goOn matched waited unrequested]
            simp only [Dialogues.step, answered, after, resumed]
        | done next =>
            rw [after] at stepped
            cases stepped
            refine ⟨matched.finish waited unrequested next rest, _, named, ?_⟩
            rw [Wire.view_finish matched waited]
            simp only [Dialogues.step, answered, after, resumed]
        | send next request =>
            rw [after] at stepped
            simp only at stepped
            split at stepped
            · cases stepped
            · rename_i unused
              cases stepped
              have finished := matched.finish waited unrequested next rest
              refine ⟨finished.send unused (matched.below waiting) ?_ request, _, named, ?_⟩
              · intro other otherId still
                have own : (before.finish index next id rest).calls index = some (next, none) :=
                  Function.update_self ..
                rw [own] at still
                cases still
              · rw [Wire.view_send finished unused, Wire.view_finish matched waited]
                simp only [Dialogues.step, answered, after, resumed, Dialogues.put,
                  Function.update_idem]
      · cases stepped

/-- At the start nothing is under way. -/
theorem matched_initial {start : Server → Prop} {state : Wire Call Request Answer Server Id}
    (started : (wire exchange start).initial state) : state.Matched := by
  obtain ⟨_, _, calls, waiters, requests, answers, _⟩ := started
  constructor
  · intro index call id waiting
    rw [calls] at waiting
    cases waiting
  · intro id index waited
    rw [waiters] at waited
    cases waited
  · intro id request sent
    rw [requests] at sent
    cases sent
  · intro id index waited
    rw [waiters] at waited
    cases waited
  · intro id answered
    rw [answers] at answered
    exact absurd rfl answered
  · intro index _
    rw [calls]

/-- **Calls on a shared connection.** Every call meets the server as if it were alone with it. -/
def simulation (start : Server → Prop) :
    (wire exchange start).Simulation (dialogues exchange start)
      (Wire.Matched : Wire Call Request Answer Server Id → Prop) where
  view := Wire.view
  shown := Wire.shown
  started := by
    rintro state ⟨begun, none, calls, _⟩
    refine ⟨begun, none, ?_⟩
    funext index
    simp only [Wire.view, calls, Option.map_none]
  stepped := by
    intro before action after matched stepped
    obtain ⟨_, visible, shown, moved⟩ := step_view matched stepped
    rw [shown]
    exact moved

/-- The wire is matched in every reachable state. -/
theorem matched_of_reachable {start : Server → Prop} {state : Wire Call Request Answer Server Id}
    {guard : Machine.Guard (Wire Call Request Answer Server Id) (WireAction Args Nonce Id)}
    (reached : (wire exchange start).Reachable guard state) : state.Matched :=
  reached.invariant (fun _ => matched_initial) fun _ _ _ matched _ stepped =>
    (step_view matched stepped).1

/-- The view of a reachable wire is reached by the dialogues. -/
theorem view_reachable {start : Server → Prop} {state : Wire Call Request Answer Server Id}
    (reached : (wire exchange start).Reachable Machine.anyStep state) :
    (dialogues exchange start).Reachable Machine.anyStep state.view :=
  (simulation start).reachable (fun _ => matched_of_reachable) reached

/-- A call that can go on alone can go on over the connection. -/
theorem enabled_of_view [Infinite Id] {state : Wire Call Request Answer Server Id}
    (matched : state.Matched) {visible : DialogueAction Args Nonce}
    {next : Dialogues Call Request Answer Server} (allowed : settling state.view visible)
    (stepped : state.view.step exchange visible = some next) :
    ∃ action after, state.step exchange action = some after ∧
      ∀ args id, action ≠ .start args id := by
  cases visible with
  | start args => exact absurd allowed not_false
  | serve index nonce =>
      simp only [Dialogues.step] at stepped
      split at stepped
      · rename_i call request asked
        obtain ⟨⟨known, id⟩, waiting, same⟩ := Option.map_eq_some_iff.mp asked
        simp only [Dialogue.mk.injEq] at same
        obtain ⟨rfl, awaited⟩ := same
        cases id with
        | none => cases awaited
        | some id =>
            simp only [Wire.outstanding] at awaited
            split at awaited
            · rename_i sent
              cases awaited
              obtain ⟨⟨server, answers⟩, served, _⟩ := Option.map_eq_some_iff.mp stepped
              have alone : exchange.serve state.server nonce request = some (server, answers) :=
                served
              refine ⟨.serve id nonce, state.answer id server answers, ?_, nofun⟩
              simp only [Wire.step, sent, alone, Option.map_some]
            · cases awaited
      · cases stepped
  | deliver index =>
      simp only [Dialogues.step] at stepped
      split at stepped
      · rename_i call answer rest asked
        obtain ⟨⟨known, id⟩, waiting, same⟩ := Option.map_eq_some_iff.mp asked
        simp only [Dialogue.mk.injEq] at same
        obtain ⟨rfl, awaited⟩ := same
        cases id with
        | none => cases awaited
        | some id =>
            simp only [Wire.outstanding] at awaited
            split at awaited
            · cases awaited
            · simp only [Outstanding.answers.injEq] at awaited
              obtain ⟨newId, unused⟩ := Infinite.exists_notMem_finset state.used.toFinset
              rw [List.mem_toFinset] at unused
              have waited := matched.waiting index _ id waiting
              cases after : exchange.resume known answer with
              | await next =>
                  refine ⟨.deliver id newId, state.goOn index next id rest, ?_, nofun⟩
                  simp only [Wire.step, waited, awaited, waiting, after]
              | done next =>
                  refine ⟨.deliver id newId, state.finish index next id rest, ?_, nofun⟩
                  simp only [Wire.step, waited, awaited, waiting, after]
              | send next request =>
                  refine ⟨.deliver id newId,
                    (state.finish index next id rest).send index next newId request, ?_, nofun⟩
                  simp only [Wire.step, waited, awaited, waiting, after, unused, ↓reduceIte]
      · cases stepped

/-- No further call begins on the connection. -/
def settlingWire :
    Machine.Guard (Wire Call Request Answer Server Id) (WireAction Args Nonce Id)
  | _, .start .. => False
  | _, .serve .. | _, .deliver .. => True

/-- What happens to calls that are alone with the server happens to them on the connection. -/
theorem inevitably_of_view [Infinite Id] {start : Server → Prop}
    {goal : Dialogues Call Request Answer Server → Prop}
    {state : Wire Call Request Answer Server Id} (matched : state.Matched)
    (certain : (dialogues exchange start).Inevitably settling goal state.view) :
    (wire exchange start).Inevitably settlingWire (fun state => goal state.view) state := by
  refine (simulation start).inevitably ?_ ?_ ?_ certain rfl matched
  · exact fun _ _ _ held _ stepped => (step_view held stepped).1
  · intro before action after held allowed stepped
    obtain ⟨_, visible, shown, _⟩ := step_view held stepped
    refine ⟨visible, shown, ?_⟩
    cases action with
    | start args id => exact absurd allowed not_false
    | serve id nonce =>
        obtain ⟨_, _, rfl⟩ := Option.map_eq_some_iff.mp shown
        exact trivial
    | deliver id newId =>
        obtain ⟨_, _, rfl⟩ := Option.map_eq_some_iff.mp shown
        exact trivial
  · rintro state held ⟨visible, next, allowed, stepped⟩
    obtain ⟨action, after, moved, unstarted⟩ := enabled_of_view held allowed stepped
    refine ⟨action, after, ?_, moved⟩
    cases action with
    | start args id => exact absurd rfl (unstarted args id)
    | serve id nonce => exact trivial
    | deliver id newId => exact trivial

end Simulation

/-! ## Calls come to their end -/

section Finished

variable {rank : Dialogue Call Request Answer → Nat}

/-- The ranks of all calls together. -/
def Dialogues.total (rank : Dialogue Call Request Answer → Nat)
    (state : Dialogues Call Request Answer Server) : Nat :=
  ∑ index ∈ Finset.range state.count, (state.dialogue index).elim 0 rank

/-- A dialogue of lower rank lowers the total. -/
theorem total_put_lt {state : Dialogues Call Request Answer Server} {index : Nat}
    {dialogue next : Dialogue Call Request Answer} (below : index < state.count)
    (known : state.dialogue index = some dialogue) (lower : rank next < rank dialogue) :
    (state.put index next).total rank < state.total rank := by
  refine Finset.sum_lt_sum (fun other _ => ?_) ⟨index, Finset.mem_range.mpr below, ?_⟩
  · by_cases same : other = index
    · subst same
      simp only [Dialogues.put, Function.update_self, known, Option.elim_some]
      exact Nat.le_of_lt lower
    · simp only [Dialogues.put, Function.update_of_ne same]
      exact Nat.le_refl _
  · simp only [Dialogues.put, Function.update_self, known, Option.elim_some]
    exact lower

/-- A request that the server answers can be served. -/
theorem enabled_serve {state : Dialogues Call Request Answer Server} {index : Nat} {call : Call}
    {request : Request} {nonce : Nonce} {answered : Server × List Answer}
    (asked : state.dialogue index = some ⟨call, .request request⟩)
    (served : exchange.serve state.server nonce request = some answered) :
    ∃ action after, settling state action ∧ state.step exchange action = some after := by
  refine ⟨.serve index nonce, { state.put index ⟨call, .answers answered.2⟩ with
    server := answered.1 }, trivial, ?_⟩
  simp only [Dialogues.step, asked, served, Option.map_some]

/-- An answer that is there can be delivered. -/
theorem enabled_deliver {state : Dialogues Call Request Answer Server} {index : Nat} {call : Call}
    {answer : Answer} {rest : List Answer}
    (asked : state.dialogue index = some ⟨call, .answers (answer :: rest)⟩) :
    ∃ action after, settling state action ∧ state.step exchange action = some after := by
  refine ⟨.deliver index, state.put index (resumed rest (exchange.resume call answer)), trivial, ?_⟩
  simp only [Dialogues.step, asked]

variable (rank) in
/-- **Calls come to their end** when every call that waits can go on, and every exchange lowers its
rank. -/
theorem inevitably_finished {start : Server → Prop}
    {valid : Dialogues Call Request Answer Server → Prop}
    (preserved : ∀ before action after, valid before → settling before action →
      before.step exchange action = some after → valid after)
    (below : ∀ state index dialogue, valid state → state.dialogue index = some dialogue →
      index < state.count)
    (goesOn : ∀ state index dialogue, valid state → state.dialogue index = some dialogue →
      dialogue.outstanding ≠ .nothing →
      ∃ action after, settling state action ∧ state.step exchange action = some after)
    (served : ∀ state index call request nonce server answers, valid state →
      state.dialogue index = some ⟨call, .request request⟩ →
      exchange.serve state.server nonce request = some (server, answers) →
      rank ⟨call, .answers answers⟩ < rank ⟨call, .request request⟩)
    (delivered : ∀ state index call answer rest, valid state →
      state.dialogue index = some ⟨call, .answers (answer :: rest)⟩ →
      rank (resumed rest (exchange.resume call answer)) < rank ⟨call, .answers (answer :: rest)⟩)
    {state : Dialogues Call Request Answer Server} (held : valid state) :
    (dialogues exchange start).Inevitably settling (fun state => state.Finished ∧ valid state)
      state := by
  refine Machine.inevitably_of_measure (Dialogues.total rank) ?_ ?_ held
  · intro state held
    by_cases finished : state.Finished
    · exact Or.inl ⟨finished, held⟩
    · simp only [Dialogues.Finished, not_forall] at finished
      obtain ⟨index, dialogue, known, waits⟩ := finished
      exact Or.inr (goesOn state index dialogue held known waits)
  · intro before action after held allowed stepped
    refine ⟨preserved before action after held allowed stepped, ?_⟩
    change before.step exchange action = some after at stepped
    cases action with
    | start args => exact absurd allowed not_false
    | serve index nonce =>
        simp only [Dialogues.step] at stepped
        split at stepped
        · rename_i call request asked
          obtain ⟨⟨server, answers⟩, answered, rfl⟩ := Option.map_eq_some_iff.mp stepped
          exact total_put_lt (below before index _ held asked) asked
            (served before index call request nonce server answers held asked answered)
        · cases stepped
    | deliver index =>
        simp only [Dialogues.step] at stepped
        split at stepped
        · rename_i call answer rest asked
          cases stepped
          exact total_put_lt (below before index _ held asked) asked
            (delivered before index call answer rest held asked)
        · cases stepped

end Finished

end Exchange

end Foundation
