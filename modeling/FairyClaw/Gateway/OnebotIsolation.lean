import FairyClaw.Foundation.Machine
import FairyClaw.Gateway.Onebot

/-! # OneBot senders are isolated

When every row of the route table and of the table of active sessions concerns one sender, a message
shows, activates and deletes sessions of its own sender only, and leaves the active session, the
routes and the sessions of other senders as they are
(`FairyClaw.OnebotAdapter.senders_isolated`).
-/

namespace FairyClaw

open Foundation

namespace GatewaySessionRouteModel

variable {row : GatewaySessionRouteModel} {sender other : OnebotSender} {adapterKey : String}

/-- A row carries one sender. -/
theorem Carries.unique (own : row.Carries adapterKey sender) (again : row.Carries adapterKey other) :
    other = sender := by
  obtain ⟨_, platform, userId, groupId, selfId⟩ := own
  obtain ⟨_, platform', userId', groupId', selfId'⟩ := again
  obtain ⟨_, _, _, _⟩ := sender
  obtain ⟨_, _, _, _⟩ := other
  rw [OnebotSender.mk.injEq]
  exact ⟨orNull_inj.mp (platform'.symm.trans platform), orNull_inj.mp (userId'.symm.trans userId),
    orNull_inj.mp (groupId'.symm.trans groupId), orNull_inj.mp (selfId'.symm.trans selfId)⟩

end GatewaySessionRouteModel

namespace GatewayTables

/-- The route of the session carries the sender. -/
def Owned (tables : GatewayTables) (sender : OnebotSender) (sessionId : String) : Prop :=
  ∃ row, tables.routes.get sessionId = some row ∧ row.Carries "onebot" sender

/-- Every row concerns one sender: an active session and the parent of a route are not sessions of
another sender. -/
structure Separate (tables : GatewayTables) : Prop where
  active : ∀ sender row, tables.active.get ("onebot", sender) = some row →
    ∀ owner, tables.Owned owner row.activeSessionId → owner = sender
  parents : ∀ sessionId row, tables.routes.get sessionId = some row →
    ∀ sender, row.Carries "onebot" sender → ∀ parent, row.parentSessionId = some parent →
      ∀ owner, tables.Owned owner parent → owner = sender

/-- The active session, the routes and the sessions of a sender are as they were. -/
structure Unchanged (sender : OnebotSender) (tables next : GatewayTables) : Prop where
  active : next.active.get ("onebot", sender) = tables.active.get ("onebot", sender)
  routes : ∀ sessionId row, row.Carries "onebot" sender →
    (next.routes.get sessionId = some row ↔ tables.routes.get sessionId = some row)
  sessions : ∀ sessionId, tables.Owned sender sessionId →
    next.sessions.get sessionId = tables.sessions.get sessionId

/-- What a sender may do to the tables. -/
structure Confined (sender : OnebotSender) (tables next : GatewayTables) : Prop where
  others : ∀ other, other ≠ sender → Unchanged other tables next
  separate : tables.Separate → next.Separate

variable {tables next final : GatewayTables} {sender other : OnebotSender} {sessionId : String}
  {ref : GatewaySenderRef}

/-- A session has one owner. -/
theorem Owned.unique (own : tables.Owned sender sessionId) (again : tables.Owned other sessionId) :
    other = sender := by
  obtain ⟨row, stored, carries⟩ := own
  obtain ⟨same, found, carries'⟩ := again
  cases stored.symm.trans found
  exact carries.unique carries'

/-- The route of a sender is of a session of its own. -/
theorem owned_of_getForOnebotSender {row : GatewaySessionRouteModel}
    (found : tables.getForOnebotSender sessionId ref = some row) :
    tables.Owned (normalizeOnebotSenderRef ref) sessionId := by
  obtain ⟨stored, carries⟩ := Option.filter_eq_some_iff.mp found
  exact ⟨row, stored, of_decide_eq_true carries⟩

/-- A session found for a sender is its own. -/
theorem owned_of_findBySender (found : tables.findBySender "onebot" ref = some sessionId) :
    tables.Owned (normalizeOnebotSenderRef ref) sessionId := by
  obtain ⟨row, matched, rfl⟩ := Option.map_eq_some_iff.mp found
  have carries := List.find?_some matched
  rw [decide_eq_true_eq] at carries
  exact ⟨row, Table.mem_rows.mp (List.mem_of_find?_eq_some matched), carries⟩

/-- A session listed for a sender is its own. -/
theorem owned_of_listed {item : OnebotSessionListItem}
    (listed : item ∈ tables.listSessionsForOnebotSender ref) :
    tables.Owned (normalizeOnebotSenderRef ref) item.sessionId := by
  rw [listSessionsForOnebotSender, List.mem_insertionSort] at listed
  obtain ⟨row, own, joined⟩ := List.mem_filterMap.mp listed
  obtain ⟨member, carries⟩ := List.mem_filter.mp own
  obtain ⟨model, _, rfl⟩ := Option.map_eq_some_iff.mp joined
  exact ⟨row, Table.mem_rows.mp member, of_decide_eq_true carries⟩

/-- The active row of a sender has its normalised reference. -/
theorem pkTuple_onebot : pkTuple "onebot" ref = ("onebot", normalizeOnebotSenderRef ref) := by
  have key : orElse (strip "onebot") "onebot" = "onebot" := by decide
  rw [pkTuple, key]

/-! ## What may change -/

/-- Tables that are unchanged for a sender have the same sessions of it. -/
theorem Unchanged.owned (same : Unchanged sender tables next) :
    next.Owned sender sessionId ↔ tables.Owned sender sessionId :=
  exists_congr fun row => and_congr_left fun carries => same.routes sessionId row carries

/-- Tables are unchanged. -/
theorem Unchanged.refl (sender : OnebotSender) (tables : GatewayTables) :
    Unchanged sender tables tables := ⟨rfl, fun _ _ _ => .rfl, fun _ _ => rfl⟩

/-- Changes that leave a sender alone may follow each other. -/
theorem Unchanged.trans (first : Unchanged sender tables next)
    (second : Unchanged sender next final) : Unchanged sender tables final where
  active := second.active.trans first.active
  routes sessionId row carries :=
    (second.routes sessionId row carries).trans (first.routes sessionId row carries)
  sessions sessionId own :=
    (second.sessions sessionId (first.owned.mpr own)).trans (first.sessions sessionId own)

/-- Doing nothing concerns no other sender. -/
theorem Confined.refl : Confined sender tables tables :=
  ⟨fun other _ => .refl other tables, id⟩

/-- Changes that are confined to a sender may follow each other. -/
theorem Confined.trans (first : Confined sender tables next) (second : Confined sender next final) :
    Confined sender tables final :=
  ⟨fun other different => (first.others other different).trans (second.others other different),
    second.separate ∘ first.separate⟩

/-- Tables with fewer rows concern one sender each, too. -/
theorem Separate.mono (separate : tables.Separate)
    (active : ∀ key row, next.active.get key = some row → tables.active.get key = some row)
    (routes : ∀ sessionId row, next.routes.get sessionId = some row →
      tables.routes.get sessionId = some row) : next.Separate := by
  have owned {owner : OnebotSender} {sessionId : String} : next.Owned owner sessionId →
      tables.Owned owner sessionId :=
    fun ⟨row, stored, carries⟩ => ⟨row, routes sessionId row stored, carries⟩
  constructor
  · intro sender row stored owner own
    exact separate.active sender row (active _ row stored) owner (owned own)
  · intro sessionId row stored sender carries parent named owner own
    exact separate.parents sessionId row (routes sessionId row stored) sender carries parent named
      owner (owned own)

/-! ## The active session -/

/-- Setting the active session of a sender is confined to it. -/
theorem confined_setActiveSessionId
    (own : tables.Owned (normalizeOnebotSenderRef ref) sessionId) :
    Confined (normalizeOnebotSenderRef ref) tables
      (tables.setActiveSessionId "onebot" ref sessionId) := by
  have stored (sender : OnebotSender) :
      (tables.setActiveSessionId "onebot" ref sessionId).active.get ("onebot", sender) =
        if sender = normalizeOnebotSenderRef ref then
          some ⟨"onebot", normalizeOnebotSenderRef ref, sessionId⟩
        else tables.active.get ("onebot", sender) := by
    simp only [setActiveSessionId, pkTuple_onebot, Table.get_put, Prod.mk.injEq, true_and]
  refine ⟨fun other different => ⟨?_, fun _ _ _ => .rfl, fun _ _ => rfl⟩,
    fun separate => ⟨?_, separate.parents⟩⟩
  · rw [stored, if_neg different]
  · intro sender row found owner owned
    rw [stored] at found
    split at found
    · rename_i same
      cases found
      rw [same]
      exact own.unique owned
    · exact separate.active sender row found owner owned

/-- Clearing the active session of a sender is confined to it. -/
theorem confined_clearActiveSessionId :
    Confined (normalizeOnebotSenderRef ref) tables (tables.clearActiveSessionId "onebot" ref) := by
  refine ⟨fun other different => ⟨?_, fun _ _ _ => .rfl, fun _ _ => rfl⟩, ?_⟩
  · refine Table.get_keep_self fun row stored => ?_
    have named := (Table.get_eq_some.mp stored).2
    rw [decide_eq_true_eq, pkTuple_onebot, named, ne_eq, Prod.mk.injEq]
    exact fun same => different same.2
  · exact fun separate => separate.mono (fun key row => Table.of_get_keep) fun _ _ => id

/-! ## Routes -/

/-- A value of a reference is normalised as it is stored. -/
theorem bind_orNull (value : Option String) :
    (value.bind fun raw => orNull (strip raw)) = orNull (normalizeSenderValue value) := by
  cases value with
  | none => decide
  | some raw => simp only [Option.bind_some, normalizeSenderValue, Option.getD_some]

/-- A route bound for a platform carries the sender, and keeps its parent. -/
theorem bind_spec (tables : GatewayTables) (sessionId : String)
    (platform : normalizeSenderValue ref.platform ≠ "") :
    ∃ row : GatewaySessionRouteModel,
      tables.bind sessionId (some "onebot") ref none =
        { tables with routes := tables.routes.put row } ∧
      row.sessionId = sessionId ∧ row.Carries "onebot" (normalizeOnebotSenderRef ref) ∧
      row.parentSessionId =
        (tables.routes.get sessionId).bind GatewaySessionRouteModel.parentSessionId := by
  have key : orNull (strip "onebot") = some "onebot" := by decide
  have given : (normalizeOnebotSenderRef ref).platform = normalizeSenderValue ref.platform := by
    simp only [normalizeOnebotSenderRef, orElse, platform, ↓reduceIte]
  refine ⟨_, rfl, rfl, ⟨key, ?_, bind_orNull ref.userId, bind_orNull ref.groupId,
    bind_orNull ref.selfId⟩, ?_⟩
  · rw [given]
    exact bind_orNull ref.platform
  · cases tables.routes.get sessionId <;> rfl

/-- A row written for a session that the sender owns, or without references. -/
theorem confined_put {row : GatewaySessionRouteModel}
    (carries : row.Carries "onebot" sender)
    (own : tables.Owned sender row.sessionId ∨ ¬tables.Refers row.sessionId)
    (parent : row.parentSessionId =
      (tables.routes.get row.sessionId).bind GatewaySessionRouteModel.parentSessionId) :
    Confined sender tables { tables with routes := tables.routes.put row } := by
  have absent (fresh : ¬tables.Refers row.sessionId) : tables.routes.get row.sessionId = none :=
    Table.get_eq_none.mpr fun old member same => fresh (Or.inl ⟨old, member, Or.inl same⟩)
  refine ⟨fun other different => ⟨rfl, fun sessionId old carries' => ?_, fun _ _ => rfl⟩, ?_⟩
  · by_cases same : sessionId = row.sessionId
    · rw [same, Table.get_put_self]
      refine iff_of_false (fun written => ?_) fun stored => ?_
      · cases written
        exact different (carries.unique carries')
      · rcases own with own | fresh
        · exact different (own.unique ⟨old, stored, carries'⟩)
        · cases (absent fresh).symm.trans stored
    · rw [Table.get_put_other same]
  · have owned {owner : OnebotSender} {sessionId : String}
        (own : GatewayTables.Owned { tables with routes := tables.routes.put row } owner sessionId) :
        (owner = sender ∧ sessionId = row.sessionId) ∨ tables.Owned owner sessionId := by
      obtain ⟨found, stored, carries'⟩ := own
      rw [Table.get_put] at stored
      split at stored
      · rename_i same
        cases stored
        exact Or.inl ⟨carries.unique carries', same⟩
      · exact Or.inr ⟨found, stored, carries'⟩
    intro separate
    constructor
    · intro holder active stored owner held
      rcases owned held with ⟨rfl, same⟩ | held
      · rcases own with own | fresh
        · exact separate.active holder active stored owner (same ▸ own)
        · refine absurd (Or.inr ?_) fresh
          rw [← same]
          exact List.mem_map_of_mem (Table.get_eq_some.mp stored).1
      · exact separate.active holder active stored owner held
    · intro sessionId found stored holder carries' parentId named owner held
      rw [Table.get_put] at stored
      split at stored
      · cases stored
        obtain rfl : holder = sender := carries.unique carries'
        rcases owned held with ⟨same, _⟩ | held
        · exact same
        · rw [parent] at named
          obtain ⟨old, kept, named⟩ := Option.bind_eq_some_iff.mp named
          rcases own with ⟨same, again, carried⟩ | fresh
          · cases kept.symm.trans again
            exact separate.parents row.sessionId old kept holder carried parentId named owner held
          · cases (absent fresh).symm.trans kept
      · rcases owned held with ⟨rfl, same⟩ | held
        · rcases own with own | fresh
          · exact separate.parents sessionId found stored holder carries' parentId named owner
              (same ▸ own)
          · have member := (Table.get_eq_some.mp stored).1
            exact absurd (Or.inl ⟨found, member, Or.inr (same ▸ named)⟩) fresh
        · exact separate.parents sessionId found stored holder carries' parentId named owner held

/-- The written row is the sender's, and its other rows stay. -/
theorem owned_put {row : GatewaySessionRouteModel} (carries : row.Carries "onebot" sender)
    (own : sessionId = row.sessionId ∨ tables.Owned sender sessionId) :
    GatewayTables.Owned { tables with routes := tables.routes.put row } sender sessionId := by
  by_cases same : sessionId = row.sessionId
  · rw [same]
    exact ⟨row, Table.get_put_self, carries⟩
  · obtain ⟨found, stored, carries'⟩ := own.resolve_left same
    exact ⟨found, (Table.get_put_other same).trans stored, carries'⟩

/-- A session of the sender, or one without references, is bound to the sender. -/
theorem confined_bind
    (platform : normalizeSenderValue ref.platform ≠ "")
    (own : tables.Owned (normalizeOnebotSenderRef ref) sessionId ∨ ¬tables.Refers sessionId) :
    Confined (normalizeOnebotSenderRef ref) tables (tables.bind sessionId (some "onebot") ref none) ∧
      (tables.bind sessionId (some "onebot") ref none).Owned (normalizeOnebotSenderRef ref)
        sessionId ∧
      ∀ kept, tables.Owned (normalizeOnebotSenderRef ref) kept →
        (tables.bind sessionId (some "onebot") ref none).Owned (normalizeOnebotSenderRef ref)
          kept := by
  obtain ⟨row, bound, rfl, carries, parent⟩ := bind_spec tables sessionId platform
  rw [bound]
  exact ⟨confined_put carries own parent, owned_put carries (Or.inl rfl),
    fun kept held => owned_put carries (Or.inr held)⟩

/-! ## Sessions -/

/-- A session without references is nobody's. -/
theorem confined_storeSession {model : SessionModel}
    (fresh : ¬tables.Refers model.id) :
    Confined sender tables { tables with sessions := tables.sessions.put model } := by
  refine ⟨fun other _ => ⟨rfl, fun _ _ _ => .rfl, fun kept ⟨row, found, _⟩ => ?_⟩,
    fun separate => ⟨separate.active, separate.parents⟩⟩
  obtain ⟨member, named⟩ := Table.get_eq_some.mp found
  exact Table.get_put_other fun same => fresh (Or.inl ⟨row, member, Or.inl (named.trans same)⟩)

/-- A sender deletes a session that it owns. -/
theorem confined_deleteSession {foreignKeys : Bool}
    (separate : foreignKeys = true → tables.Separate)
    (own : tables.Owned sender sessionId) :
    Confined sender tables (tables.deleteSession foreignKeys sessionId).2 := by
  have sessions {other : OnebotSender} (different : other ≠ sender) {kept : String}
      (held : tables.Owned other kept) :
      (tables.sessions.keep (·.id ≠ sessionId)).get kept = tables.sessions.get kept := by
    refine Table.get_keep_self fun model stored => ?_
    rw [decide_eq_true_eq, (Table.get_eq_some.mp stored).2]
    rintro rfl
    exact different (own.unique held)
  unfold deleteSession
  split
  · exact .refl
  · split
    · have separate := separate ‹_›
      refine ⟨fun other different => ⟨?_, fun kept row carries => ?_, fun kept => sessions different⟩,
        fun _ => ?_⟩
      · refine Table.get_keep_self fun row stored => ?_
        rw [decide_eq_true_eq]
        rintro rfl
        exact different (separate.active other row stored sender own).symm
      · rw [Table.get_keep, Option.filter_eq_some_iff]
        refine and_iff_left_of_imp fun stored => decide_eq_true ⟨?_, fun parent => ?_⟩
        · rintro rfl
          have named := (Table.get_eq_some.mp stored).2
          exact different (own.unique ⟨row, named ▸ stored, carries⟩)
        · exact different (separate.parents kept row stored other carries sessionId parent sender
            own).symm
      · exact separate.mono (fun key row => Table.of_get_keep) fun id row => Table.of_get_keep
    · refine ⟨fun other different => ⟨rfl, fun _ _ _ => .rfl, fun kept => sessions different⟩,
        fun separate => ?_⟩
      exact separate.mono (fun key row => id) fun id' row => id

end GatewayTables

/-! ## Messages -/

/-- An effect concerns a session of the sender: one that it was shown or deleted was its own, and
one that became its active session is its own. -/
def OnebotEffect.Own (sender : OnebotSender) (before after : GatewayTables)
    (effect : OnebotEffect) : Prop :=
  match effect.kind with
  | .listed | .checkedOut | .deleted => before.Owned sender effect.sessionId
  | .activated | .submitted => after.Owned sender effect.sessionId

/-- An effect on an own session stays one while the session is owned. -/
theorem OnebotEffect.Own.mono {sender : OnebotSender} {before middle after : GatewayTables}
    {effect : OnebotEffect} (own : effect.Own sender before middle)
    (kept : ∀ sessionId, middle.Owned sender sessionId → after.Owned sender sessionId) :
    effect.Own sender before after := by
  obtain ⟨kind, sessionId⟩ := effect
  cases kind with
  | listed => exact own
  | checkedOut => exact own
  | deleted => exact own
  | activated => exact kept sessionId own
  | submitted => exact kept sessionId own

/-- Handling a message concerns its sender only. -/
structure OnebotTurn.Isolated (sender : OnebotSender) (tables : GatewayTables)
    (turn : OnebotTurn) : Prop where
  confined : GatewayTables.Confined sender tables turn.tables
  effects : ∀ effect ∈ turn.effects, effect.Own sender tables turn.tables

/-- The sender of a message, normalised. -/
def OnebotMessage.sender (message : OnebotMessage) : OnebotSender :=
  normalizeOnebotSenderRef (OnebotAdapter.senderRef message)

namespace OnebotAdapter

open GatewayTables

variable {adapter : OnebotAdapter} {tables : GatewayTables} {message : OnebotMessage}
  {answers : OnebotAnswers} {sessionId : String}

/-- A message of OneBot has a platform. -/
theorem platform_senderRef (message : OnebotMessage) :
    normalizeSenderValue (senderRef message).platform ≠ "" := by
  have given : normalizeSenderValue (some "onebot") ≠ "" := by decide
  exact given

/-- A session that is opened is the sender's own, and nothing else changes. -/
theorem openOnebotSession_spec {title : Option String} {opened : GatewayTables}
    (result : openOnebotSession tables message title answers = some (sessionId, opened)) :
    Confined message.sender tables opened ∧ opened.Owned message.sender sessionId := by
  obtain ⟨id, _, result⟩ := Option.bind_eq_some_iff.mp result
  split at result
  · cases result
  · rename_i fresh
    cases result
    obtain ⟨unstored, unreferred⟩ := not_or.mp fresh
    let stored : GatewayTables := { tables with
      sessions := tables.sessions.put
        { id := sessionId
          title := some (orElse (title.getD "") (defaultSessionTitle message))
          updatedAt := answers.now } }
    have first : Confined message.sender tables stored := confined_storeSession unreferred
    have second := @confined_bind stored _ _ (platform_senderRef message) (Or.inr unreferred)
    exact ⟨first.trans second.1, second.2.1⟩

/-- A session chosen among those listed is the sender's own. -/
theorem owned_of_selected {keep : OnebotSessionListItem → Bool} {item : OnebotSessionListItem}
    (selected : item ∈ (tables.listSessionsForOnebotSender (senderRef message)).filter keep) :
    tables.Owned message.sender item.sessionId :=
  owned_of_listed (List.mem_of_mem_filter selected)

/-- A command finds a session of its sender, or shows sessions of its sender. -/
inductive ResolvedOwn (tables : GatewayTables) (sender : OnebotSender) :
    Except (String × List String) String → Prop
  | found {target : String} (own : tables.Owned sender target) :
      ResolvedOwn tables sender (.ok target)
  | failed {text : String} {shown : List String}
      (own : ∀ target ∈ shown, tables.Owned sender target) :
      ResolvedOwn tables sender (.error (text, shown))

/-- A session that is named resolves to an own one. -/
theorem resolveOwned_spec (tables : GatewayTables) (needle : String) (message : OnebotMessage) :
    ResolvedOwn tables message.sender
      (resolveOwnedOnebotSessionId tables needle (senderRef message)) := by
  unfold resolveOwnedOnebotSessionId
  simp only
  split
  · exact .failed fun _ shown => nomatch shown
  split
  · split
    · rename_i row found
      exact .found (owned_of_getForOnebotSender found)
    · exact .failed fun _ shown => nomatch shown
  split
  · rename_i item selected
    exact .found (owned_of_selected (selected ▸ List.mem_cons_self))
  · rename_i first second rest selected
    refine .failed fun target shown => ?_
    obtain ⟨item, member, rfl⟩ := List.mem_map.mp shown
    exact owned_of_selected (selected ▸ List.mem_of_mem_take member)
  · split
    · rename_i item selected
      exact .found (owned_of_selected (selected ▸ List.mem_cons_self))
    · exact .failed fun _ shown => nomatch shown
    · exact .failed fun _ shown => nomatch shown

/-- The list shows sessions of its sender. -/
theorem renderSessionList_owned {target : String}
    (shown : target ∈ (adapter.renderSessionList tables (senderRef message)).2) :
    tables.Owned message.sender target := by
  unfold renderSessionList at shown
  simp only at shown
  split at shown
  · cases shown
  · rename_i item rest listed
    obtain ⟨found, member, rfl⟩ := List.mem_map.mp shown
    exact owned_of_listed (listed ▸ List.mem_of_mem_take member)

/-- Showing own sessions is isolated. -/
theorem isolated_listed {shown : List String} {replies : List String}
    (own : ∀ target ∈ shown, tables.Owned message.sender target) :
    OnebotTurn.Isolated message.sender tables
      { tables := tables, effects := shown.map (⟨.listed, ·⟩), replies := replies } := by
  refine ⟨.refl, fun effect member => ?_⟩
  obtain ⟨target, listed, rfl⟩ := List.mem_map.mp member
  exact own target listed

/-- A reply is isolated. -/
theorem isolated_reply {replies : List String} :
    OnebotTurn.Isolated message.sender tables { tables := tables, replies := replies } :=
  ⟨.refl, fun _ member => nomatch member⟩

/-- A session of the sender becomes its active session. -/
theorem isolated_activated {next : GatewayTables} {replies : List String}
    (confined : Confined message.sender tables next) (own : next.Owned message.sender sessionId) :
    OnebotTurn.Isolated message.sender tables
      { tables := next.setActiveSessionId adapterKey (senderRef message) sessionId
        effects := [⟨.activated, sessionId⟩]
        replies := replies } := by
  refine ⟨confined.trans (confined_setActiveSessionId own), fun effect member => ?_⟩
  rw [List.mem_singleton.mp member]
  exact own

/-- The effects of `rm`. -/
theorem isolated_deleted (separate : adapter.foreignKeys = true → tables.Separate)
    (own : tables.Owned message.sender sessionId) :
    OnebotTurn.Isolated message.sender tables
      (match (if tables.getActiveSessionId adapterKey (senderRef message) = some sessionId then
          tables.clearActiveSessionId adapterKey (senderRef message) else tables).deleteSession
        adapter.foreignKeys sessionId with
      | (false, kept) =>
          { tables := kept
            replies := ["Delete failed (session may not exist): " ++ sessionId] }
      | (true, left) =>
          { tables := left
            effects := [⟨.deleted, sessionId⟩]
            replies := ["Deleted session: " ++ sessionId] }) := by
  have cleared : Confined message.sender tables
        (if tables.getActiveSessionId adapterKey (senderRef message) = some sessionId then
          tables.clearActiveSessionId adapterKey (senderRef message) else tables) ∧
      (if tables.getActiveSessionId adapterKey (senderRef message) = some sessionId then
          tables.clearActiveSessionId adapterKey (senderRef message) else tables).Owned
        message.sender sessionId := by
    split
    · exact ⟨confined_clearActiveSessionId, own⟩
    · exact ⟨.refl, own⟩
  have deleted := cleared.1.trans
    (@confined_deleteSession _ _ _ adapter.foreignKeys
      (fun enforced => cleared.1.separate (separate enforced)) cleared.2)
  split
  · rename_i kept result
    rw [result] at deleted
    exact ⟨deleted, fun _ member => nomatch member⟩
  · rename_i left result
    rw [result] at deleted
    refine ⟨deleted, fun effect member => ?_⟩
    rw [List.mem_singleton.mp member]
    exact own

/-- Every command is isolated. -/
theorem handleManagementCommand_isolated {command argument : String}
    (separate : adapter.foreignKeys = true → tables.Separate) :
    (adapter.handleManagementCommand tables message command argument answers).Isolated
      message.sender tables := by
  unfold handleManagementCommand
  simp only
  split
  · exact isolated_reply
  split
  · split
    · exact isolated_reply
    · rename_i id opened result
      obtain ⟨confined, own⟩ := openOnebotSession_spec result
      exact isolated_activated confined own
  split
  · exact isolated_listed fun target => renderSessionList_owned
  split
  · split
    · exact isolated_reply
    · have resolved := resolveOwned_spec tables argument message
      split
      · rename_i text shown result
        rw [result] at resolved
        cases resolved with
        | failed own => exact isolated_listed own
      · rename_i target result
        rw [result] at resolved
        cases resolved with
        | found own =>
            refine ⟨confined_setActiveSessionId own, fun effect member => ?_⟩
            rcases List.mem_cons.mp member with rfl | member
            · exact own
            · rw [List.mem_singleton.mp member]
              exact own
  split
  · split
    · exact isolated_reply
    · have resolved := resolveOwned_spec tables argument message
      split
      · rename_i text shown result
        rw [result] at resolved
        cases resolved with
        | failed own => exact isolated_listed own
      · rename_i target result
        rw [result] at resolved
        cases resolved with
        | found own => exact isolated_deleted separate own
  · exact isolated_reply

/-- The session that chat goes to, if there is one, and what choosing it leaves. -/
structure Chosen (sender : OnebotSender) (tables : GatewayTables)
    (chosen : Option String × OnebotTurn) : Prop where
  isolated : chosen.2.Isolated sender tables
  own : ∀ sessionId, chosen.1 = some sessionId → chosen.2.tables.Owned sender sessionId

/-- The session that is chosen is the sender's own. -/
theorem chooseSession_spec (message : OnebotMessage) (answers : OnebotAnswers) :
    Chosen message.sender tables (chooseSession tables message answers) := by
  unfold chooseSession
  simp only
  split
  · exact ⟨isolated_reply, fun _ none => nomatch none⟩
  · rename_i id opened result
    have chosen : Confined message.sender tables opened ∧ opened.Owned message.sender id := by
      rcases Option.or_eq_some_iff.mp result with found | ⟨_, opened⟩
      · obtain ⟨sessionId, listed, same⟩ := Option.map_eq_some_iff.mp found
        cases same
        exact ⟨.refl, owned_of_findBySender listed⟩
      · exact openOnebotSession_spec opened
    refine ⟨isolated_activated chosen.1 chosen.2, fun sessionId same => ?_⟩
    cases same
    exact chosen.2

/-- The session of a message is the sender's own. -/
theorem resolveSessionId_spec (message : OnebotMessage) (answers : OnebotAnswers) :
    Chosen message.sender tables (resolveSessionId tables message answers) := by
  unfold resolveSessionId
  simp only
  split
  · exact chooseSession_spec message answers
  · split
    · rename_i active _ row found
      refine ⟨isolated_reply, fun sessionId same => ?_⟩
      cases same
      exact owned_of_getForOnebotSender found
    · have cleared : Confined message.sender tables _ := confined_clearActiveSessionId
      obtain ⟨⟨confined, effects⟩, own⟩ := @chooseSession_spec _ message answers
      exact ⟨⟨cleared.trans confined, effects⟩, own⟩

/-- Chat of a sender reaches sessions of its own. -/
theorem handleChat_isolated :
    (handleChat tables message answers).Isolated message.sender tables := by
  have chosen := @resolveSessionId_spec tables message answers
  unfold handleChat
  split
  · rename_i turn result
    rw [result] at chosen
    exact chosen.isolated
  · rename_i sessionId turn result
    rw [result] at chosen
    split
    · obtain ⟨⟨confined, effects⟩, own⟩ := chosen
      have bound := confined_bind (platform_senderRef message)
        (Or.inl (own sessionId rfl))
      refine ⟨confined.trans bound.1, fun effect member => ?_⟩
      rcases List.mem_append.mp member with earlier | added
      · exact (effects effect earlier).mono bound.2.2
      · rw [List.mem_singleton.mp added]
        exact bound.2.1
    · exact chosen.isolated

/-- Every message is isolated. -/
theorem processInboundMessage_isolated
    (separate : adapter.foreignKeys = true → tables.Separate) :
    (adapter.processInboundMessage tables message answers).Isolated message.sender tables := by
  unfold processInboundMessage
  split
  · exact handleManagementCommand_isolated separate
  · exact handleChat_isolated

/-- Messages in sequence, from any senders. Where foreign keys are enforced, a deletion reaches rows
that refer to the session, so these have to concern one sender each. -/
def machine (adapter : OnebotAdapter) : Machine GatewayTables (OnebotMessage × OnebotAnswers) where
  initial tables := adapter.foreignKeys = true → tables.Separate
  step tables action := some (adapter.processInboundMessage tables action.1 action.2).tables

/-- Processing a message reaches the next tables. -/
theorem reachable_process (reached : adapter.machine.Reachable Machine.anyStep tables)
    (message : OnebotMessage) (answers : OnebotAnswers) :
    adapter.machine.Reachable Machine.anyStep
      (adapter.processInboundMessage tables message answers).tables :=
  reached.tail trivial (show adapter.machine.step tables (message, answers) = _ from rfl)

/-- With foreign keys the tables stay separate. -/
theorem reachable_separate (reached : adapter.machine.Reachable Machine.anyStep tables)
    (enforced : adapter.foreignKeys = true) : tables.Separate := by
  refine reached.invariant (fun _ begun => begun enforced) fun before action after separate _
    stepped => ?_
  cases stepped
  exact (processInboundMessage_isolated fun _ => separate).confined.separate separate

/-- **Sender isolation.** After any sequence of messages from any senders, a message shows, checks
out, deletes and activates sessions of its sender only, and another sender's active session, routes
and sessions stay. -/
theorem senders_isolated (reached : adapter.machine.Reachable Machine.anyStep tables)
    (message : OnebotMessage) (answers : OnebotAnswers) :
    (∀ effect ∈ (adapter.processInboundMessage tables message answers).effects,
      effect.Own message.sender tables
        (adapter.processInboundMessage tables message answers).tables) ∧
    ∀ other, other ≠ message.sender →
      Unchanged other tables (adapter.processInboundMessage tables message answers).tables := by
  have isolated : (adapter.processInboundMessage tables message answers).Isolated message.sender
      tables := processInboundMessage_isolated (reachable_separate reached)
  exact ⟨isolated.effects, isolated.confined.others⟩

/-- An adapter on a database that enforces foreign keys. -/
def enforcing : OnebotAdapter where
  onebotSessionCmdPrefix := "/sess"
  str := fun _ => ""
  strftime := toString
  foreignKeys := true

/-- A private message with a text. -/
def plainText (userId : Int) (text : String) : OnebotMessage where
  userId := userId
  message := .str text

/-- Two senders with a session each. -/
def oneSender : GatewayTables :=
  (enforcing.processInboundMessage {} (plainText 1 "/sess new Work")
    { opened := some "sess_1" }).tables

/-- The tables after two senders have each opened a session. -/
def twoSenders : GatewayTables :=
  (enforcing.processInboundMessage oneSender (plainText 2 "/sess new Work")
    { opened := some "sess_2" }).tables

/-- The first sender deletes a session. -/
def deletion : OnebotTurn :=
  enforcing.processInboundMessage twoSenders (plainText 1 "/sess rm work") {}

/-- The deletion leaves the second sender alone. -/
theorem senders_isolated_deletion :
    deletion.effects = [⟨.deleted, "sess_1"⟩] ∧
    (∀ effect ∈ deletion.effects, effect.Own (plainText 1 "/sess rm work").sender twoSenders
      deletion.tables) ∧
    Unchanged (plainText 2 "/sess ls").sender twoSenders deletion.tables := by
  have empty : enforcing.machine.Reachable Machine.anyStep {} := by
    refine .initial fun _ => ⟨fun _ _ stored => ?_, fun _ _ stored => ?_⟩
    · exact nomatch (Table.get_eq_some.mp stored).1
    · exact nomatch (Table.get_eq_some.mp stored).1
  have reached : enforcing.machine.Reachable Machine.anyStep twoSenders :=
    reachable_process (reachable_process empty _ _) _ _
  obtain ⟨own, others⟩ := senders_isolated reached (plainText 1 "/sess rm work") {}
  refine ⟨by decide +kernel, own, others _ (by decide +kernel)⟩

end OnebotAdapter

end FairyClaw
