import FairyClaw.Foundation.Walks
import FairyClaw.Gateway.Onebot

/-! # Walks over the route table

A route is resolved along the parents of a session, and usage is counted over its descendants. Both
walks keep the ids they have seen, so they end on every table, also on a cyclic one, and each gives
exactly what it looks for (`FairyClaw.route_walks_exact`).
-/

namespace FairyClaw

open Foundation

/-- The table `gateway_session_routes`. -/
abbrev RouteTable := Table GatewaySessionRouteModel.sessionId

/-- A row with an adapter key. -/
def GatewaySessionRouteModel.Keyed (row : GatewaySessionRouteModel) : Prop :=
  row.adapterKey.getD "" ≠ ""

instance (row : GatewaySessionRouteModel) : Decidable row.Keyed :=
  inferInstanceAs (Decidable (_ ≠ _))

namespace RouteTable

/-! ## The parents -/

section Resolve

variable (routes : RouteTable)

/-- The number of rows whose ids a walk has not seen. -/
def unseen (visited : List String) : Nat :=
  routes.rows.countP fun row => row.sessionId ∉ visited

variable {routes}

/-- Visiting a new row leaves fewer unseen. -/
theorem unseen_cons_lt {visited : List String} {currentId : String}
    {model : GatewaySessionRouteModel} (found : routes.get currentId = some model)
    (fresh : currentId ∉ visited) :
    unseen routes (currentId :: visited) < unseen routes visited := by
  obtain ⟨listed, named⟩ := Table.get_eq_some.mp found
  have own : 0 < routes.rows.countP fun row => row.sessionId = currentId :=
    List.countP_pos_iff.mpr ⟨model, listed, decide_eq_true named⟩
  have split : unseen routes (currentId :: visited) +
      (routes.rows.countP fun row => row.sessionId = currentId) ≤ unseen routes visited := by
    refine countP_add_le (fun row other => ?_) (fun row same => ?_) routes.rows
    · simp only [List.mem_cons, not_or, decide_eq_true_eq] at other ⊢
      exact other.2
    · simp only [decide_eq_true_eq] at same
      simp [same, fresh]
  omega

variable (routes)

/-- The loop of `resolve`. -/
def resolveFrom (visited : List String) (currentId : String) : Option GatewaySessionRouteModel :=
  if _fresh : currentId = "" ∨ currentId ∈ visited then none
  else
    match _found : routes.get currentId with
    | none => none
    | some model =>
        if model.Keyed then some model
        else resolveFrom (currentId :: visited) (model.parentSessionId.getD "")
termination_by unseen routes visited
decreasing_by exact unseen_cons_lt _found (not_or.mp _fresh).2

/-- The walk looks at one row and goes on to its parent. -/
theorem resolveFrom_eq (visited : List String) (currentId : String) :
    resolveFrom routes visited currentId =
      if currentId = "" ∨ currentId ∈ visited then none
      else (routes.get currentId).bind fun model =>
        if model.Keyed then some model
        else resolveFrom routes (currentId :: visited) (model.parentSessionId.getD "") := by
  rw [resolveFrom]
  split
  · rfl
  · split <;> simp_all

/-- `GatewaySessionRouteRepository.resolve` -/
def resolve (sessionId : String) : Option GatewaySessionRouteModel :=
  resolveFrom routes [] sessionId

/-- The id of a session's parent. -/
def parentId (sessionId : String) : Option String :=
  (routes.get sessionId).bind fun row => row.parentSessionId.bind orNull

/-- The ids of a session, its parent, and so on. -/
def ancestorId (sessionId : String) : Nat → Option String :=
  chain (parentId routes) (orNull sessionId)

/-- The rows on the chain of the ancestors. -/
def ancestor (sessionId : String) (place : Nat) : Option GatewaySessionRouteModel :=
  (ancestorId routes sessionId place).bind routes.get

/-- Before a place on the chain, all rows exist and none has an adapter key. -/
def Passed (sessionId : String) (place : Nat) : Prop :=
  ∀ earlier < place, ∃ row, ancestor routes sessionId earlier = some row ∧ ¬row.Keyed

/-- At a place, the chain has ended, or its row is missing, or its id came before. -/
inductive Stops (sessionId : String) (place : Nat) : Prop
  | ended : ancestorId routes sessionId place = none → Stops sessionId place
  | missing (id : String) : ancestorId routes sessionId place = some id → routes.get id = none →
      Stops sessionId place
  | repeated (earlier : Nat) : earlier < place →
      ancestorId routes sessionId earlier = ancestorId routes sessionId place →
      Stops sessionId place

variable {routes} {sessionId : String} {place : Nat}

/-- The same ancestor's id gives the same ancestor. -/
theorem ancestor_congr {first second : Nat}
    (same : ancestorId routes sessionId first = ancestorId routes sessionId second) :
    ancestor routes sessionId first = ancestor routes sessionId second := by
  rw [ancestor, same, ancestor]

/-- A walk goes on from a row without a key. -/
theorem Passed.succ {row : GatewaySessionRouteModel} (passed : Passed routes sessionId place)
    (found : ancestor routes sessionId place = some row) (unkeyed : ¬row.Keyed) :
    Passed routes sessionId (place + 1) := by
  intro earlier before
  rcases Nat.lt_succ_iff_lt_or_eq.mp before with before | rfl
  · exact passed earlier before
  · exact ⟨row, found, unkeyed⟩

/-- What the loop gives is at a place of the chain: a row with an adapter key, or a reason to stop;
all rows before it have no key. -/
theorem resolveFrom_spec {visited : List String} {currentId : String}
    (passed : Passed routes sessionId place)
    (seen : ∀ id, id ∈ visited ↔ ∃ earlier < place, ancestorId routes sessionId earlier = some id)
    (here : ancestorId routes sessionId place = orNull currentId) :
    ∃ last, Passed routes sessionId last ∧
      match resolveFrom routes visited currentId with
      | some row => ancestor routes sessionId last = some row ∧ row.Keyed
      | none => Stops routes sessionId last := by
  induction visited, currentId using resolveFrom.induct routes generalizing place with
  | case1 visited currentId stop =>
      rw [resolveFrom_eq, if_pos stop]
      refine ⟨place, passed, ?_⟩
      by_cases blank : currentId = ""
      · exact .ended (here.trans (if_pos blank))
      · obtain ⟨earlier, before, same⟩ := (seen currentId).mp (stop.resolve_left blank)
        exact .repeated earlier before (same.trans (here.trans (if_neg blank)).symm)
  | case2 visited currentId fresh missing =>
      rw [resolveFrom_eq, if_neg fresh, missing]
      rw [orNull, if_neg (not_or.mp fresh).1] at here
      exact ⟨place, passed, .missing currentId here missing⟩
  | case3 visited currentId fresh model found keyed =>
      rw [resolveFrom_eq, if_neg fresh, found, Option.bind_some, if_pos keyed]
      rw [orNull, if_neg (not_or.mp fresh).1] at here
      refine ⟨place, passed, ?_, keyed⟩
      rw [ancestor, here, Option.bind_some, found]
  | case4 visited currentId fresh model found unkeyed ih =>
      rw [resolveFrom_eq, if_neg fresh, found, Option.bind_some, if_neg unkeyed]
      rw [orNull, if_neg (not_or.mp fresh).1] at here
      have row : ancestor routes sessionId place = some model := by
        rw [ancestor, here, Option.bind_some, found]
      refine ih (passed.succ row unkeyed) (fun id => ?_) ?_
      · rw [List.mem_cons, seen, Nat.exists_lt_succ_right, here, Option.some_inj, or_comm, eq_comm]
      · rw [ancestorId, chain, ← ancestorId, here, Option.bind_some, parentId, found,
          Option.bind_some]
        cases model.parentSessionId with
        | none => rfl
        | some parent => rfl

/-- A row with an adapter key that is found first excludes a reason to stop. -/
theorem not_stops_of_keyed {first last : Nat} {row : GatewaySessionRouteModel}
    (before : Passed routes sessionId first) (found : ancestor routes sessionId first = some row)
    (keyed : row.Keyed) (passed : Passed routes sessionId last) :
    ¬Stops routes sessionId last := by
  -- A repeated id puts a row with the key of `first` before it.
  have unkeyed {earlier bound : Nat} (passed : Passed routes sessionId bound)
      (inside : earlier < bound) : ancestor routes sessionId earlier ≠ some row := by
    obtain ⟨other, at_, without⟩ := passed earlier inside
    intro same
    exact without (Option.some_inj.mp (same.symm.trans at_) ▸ keyed)
  intro stops
  rcases Nat.lt_or_ge first last with sooner | later
  · exact unkeyed passed sooner found
  have present : ancestor routes sessionId last ≠ none := by
    rcases Nat.lt_or_eq_of_le later with inside | rfl
    · obtain ⟨other, found, _⟩ := before last inside
      exact Option.ne_none_iff_exists'.mpr ⟨other, found⟩
    · exact Option.ne_none_iff_exists'.mpr ⟨row, found⟩
  cases stops with
  | ended finished => exact present (by rw [ancestor, finished, Option.bind_none])
  | missing id here absent => exact present (by rw [ancestor, here, Option.bind_some, absent])
  | repeated earlier inside same =>
      obtain ⟨more, rfl⟩ := Nat.exists_eq_add_of_le later
      refine unkeyed before (Nat.add_lt_add_right inside more) ?_
      rw [← found]
      exact ancestor_congr (chain_add_congr same more)

variable (routes sessionId) in
/-- The walk ends at the first row with a key, or where the chain stops. -/
theorem resolve_spec :
    ∃ last, Passed routes sessionId last ∧
      match resolve routes sessionId with
      | some row => ancestor routes sessionId last = some row ∧ row.Keyed
      | none => Stops routes sessionId last := by
  refine @resolveFrom_spec routes sessionId 0 [] sessionId ?_ (fun id => ?_) rfl
  · exact fun earlier before => absurd before (Nat.not_lt_zero earlier)
  · exact iff_of_false List.not_mem_nil fun ⟨earlier, before, _⟩ => Nat.not_lt_zero earlier before

/-- The resolved row is the first one on the chain that has an adapter key. -/
theorem resolve_eq_some_iff {row : GatewaySessionRouteModel} :
    resolve routes sessionId = some row ↔
      ∃ place, Passed routes sessionId place ∧ ancestor routes sessionId place = some row ∧
        row.Keyed := by
  obtain ⟨last, passed, ending⟩ := resolve_spec routes sessionId
  constructor
  · intro resolved
    rw [resolved] at ending
    exact ⟨last, passed, ending⟩
  · rintro ⟨place, before, found, keyed⟩
    cases resolved : resolve routes sessionId with
    | none =>
        rw [resolved] at ending
        exact absurd ending (not_stops_of_keyed before found keyed passed)
    | some other =>
        rw [resolved] at ending
        obtain ⟨at_, otherKeyed⟩ := ending
        rcases Nat.lt_trichotomy place last with sooner | rfl | later
        · obtain ⟨unkeyed, same, without⟩ := passed place sooner
          exact absurd keyed (Option.some_inj.mp (same.symm.trans found) ▸ without)
        · exact at_.symm.trans found
        · obtain ⟨unkeyed, same, without⟩ := before last later
          exact absurd otherKeyed (Option.some_inj.mp (same.symm.trans at_) ▸ without)

/-- Nothing is resolved when the chain stops before a row with an adapter key. -/
theorem resolve_eq_none_iff :
    resolve routes sessionId = none ↔
      ∃ place, Passed routes sessionId place ∧ Stops routes sessionId place := by
  constructor
  · intro unresolved
    obtain ⟨last, passed, ending⟩ := resolve_spec routes sessionId
    rw [unresolved] at ending
    exact ⟨last, passed, ending⟩
  · rintro ⟨place, passed, stops⟩
    refine Option.eq_none_iff_forall_ne_some.mpr fun row resolved => ?_
    obtain ⟨first, before, found, keyed⟩ := resolve_eq_some_iff.mp resolved
    exact not_stops_of_keyed before found keyed passed stops

end Resolve

/-! ## The descendants -/

section Usage

variable (routes : RouteTable)

/-- `list_by_parent_session` -/
def listByParentSession (parentSessionId : String) : List GatewaySessionRouteModel :=
  routes.rows.filter fun row => row.parentSessionId = some parentSessionId

/-- The number of rows whose parent was not visited. -/
def pending (visited : List String) : Nat :=
  routes.rows.countP fun row => row.parentSessionId.all fun parent => parent ∉ visited

variable {routes}

/-- Visiting a node takes its children from those that are pending. -/
theorem pending_cons_le {visited : List String} {current : String} (fresh : current ∉ visited) :
    pending routes (current :: visited) + (listByParentSession routes current).length ≤
      pending routes visited := by
  rw [listByParentSession, ← List.countP_eq_length_filter]
  refine countP_add_le (fun row other => ?_) (fun row own => ?_) routes.rows
  · cases parent : row.parentSessionId with
    | none => rfl
    | some id =>
        simp only [parent, Option.all_some, List.mem_cons, not_or, decide_eq_true_eq] at other ⊢
        exact other.2
  · simp only [decide_eq_true_eq] at own
    simp [own, fresh]

variable (routes)

/-- The ids that a visit lets wait. -/
def childIds (visited : List String) (current : String) : List String :=
  ((listByParentSession routes current).map fun child => strip child.sessionId).filter
    fun childId => childId ≠ "" ∧ childId ∉ visited

/-- There are no more child ids than child rows. -/
theorem length_childIds_le (visited : List String) (current : String) :
    (childIds routes visited current).length ≤ (listByParentSession routes current).length := by
  rw [childIds]
  exact (List.length_filter_le _ _).trans (List.length_map _).le

/-- The loop of `_collect_usage_session_ids`. -/
def collectFrom (visited : List String) : List String → List String
  | [] => visited
  | current :: queue =>
      if _fresh : current ∈ visited then collectFrom visited queue
      else
        collectFrom (current :: visited) (queue ++ childIds routes (current :: visited) current)
termination_by queue => pending routes visited + queue.length
decreasing_by
  · simp only [List.length_cons]
    omega
  · have fewer := @pending_cons_le routes visited current _fresh
    have children := length_childIds_le routes (current :: visited) current
    simp only [List.length_append, List.length_cons]
    omega

/-- `_collect_usage_session_ids`; the order of `list(visited)` is not the code's. -/
def collectUsageSessionIds (rootSessionId : String) : List String :=
  collectFrom routes [] [rootSessionId]

/-- A row under a parent names a child. -/
def Child (parent child : String) : Prop :=
  ∃ row ∈ routes.rows, row.parentSessionId = some parent ∧ row.sessionId = child

/-- A row under a parent names a child by its trimmed id, which is not blank. -/
def TrimmedChild (parent child : String) : Prop :=
  child ≠ "" ∧ ∃ row ∈ routes.rows, row.parentSessionId = some parent ∧ strip row.sessionId = child

variable {routes} {visited queue : List String} {root current child : String}

/-- The child ids are the trimmed children that were not visited. -/
theorem mem_childIds : child ∈ childIds routes visited current ↔
    TrimmedChild routes current child ∧ child ∉ visited := by
  simp only [childIds, listByParentSession, TrimmedChild, List.mem_filter, List.mem_map,
    decide_eq_true_eq]
  constructor
  · rintro ⟨⟨row, listed, named⟩, filled, new⟩
    exact ⟨⟨filled, row, listed.1, listed.2, named⟩, new⟩
  · rintro ⟨⟨filled, row, listed, under, named⟩, new⟩
    exact ⟨⟨row, ⟨listed, under⟩, named⟩, filled, new⟩

/-- The loop visits each id once, and what it visits can be reached. -/
theorem collectFrom_spec (frontier : Frontier (TrimmedChild routes) root visited queue)
    (once : visited.Nodup) :
    (collectFrom routes visited queue).Nodup ∧
      Frontier (TrimmedChild routes) root (collectFrom routes visited queue) [] := by
  induction visited, queue using collectFrom.induct routes with
  | case1 visited =>
      rw [collectFrom]
      exact ⟨once, frontier⟩
  | case2 visited current queue before ih =>
      rw [collectFrom, dif_pos before]
      exact ih (frontier.skip before) once
  | case3 visited current queue fresh ih =>
      rw [collectFrom, dif_neg fresh]
      refine ih (frontier.visit (fun child waits => (mem_childIds.mp waits).1)
        fun child follows => ?_) (List.nodup_cons.mpr ⟨fresh, once⟩)
      exact or_iff_not_imp_left.mpr fun new => mem_childIds.mpr ⟨follows, new⟩

/-- When all ids are trimmed and filled, rows name their children as they are. -/
theorem trimmedChild_eq_child
    (trimmed : ∀ row ∈ routes.rows, strip row.sessionId = row.sessionId ∧ row.sessionId ≠ "") :
    TrimmedChild routes = Child routes := by
  funext parent child
  refine propext ⟨?_, ?_⟩
  · rintro ⟨-, row, listed, under, named⟩
    exact ⟨row, listed, under, (trimmed row listed).1.symm.trans named⟩
  · rintro ⟨row, listed, under, rfl⟩
    exact ⟨(trimmed row listed).2, row, listed, under, (trimmed row listed).1⟩

end Usage

end RouteTable

/-- **Walks over the routes.** On every table, a route is resolved to the first row on the chain of
the session and its ancestors that has an adapter key, and to none exactly when the chain ends, a
row is missing, or an id is repeated first. Usage is counted over the session and what can be
reached from it through the child rows, each id once; a child is named by its trimmed id. -/
theorem route_walks_exact (routes : RouteTable) (sessionId : String) :
    (∀ row, routes.resolve sessionId = some row ↔
      ∃ place, routes.Passed sessionId place ∧ routes.ancestor sessionId place = some row ∧
        row.Keyed) ∧
    (routes.resolve sessionId = none ↔
      ∃ place, routes.Passed sessionId place ∧ routes.Stops sessionId place) ∧
    (routes.collectUsageSessionIds sessionId).Nodup ∧
    (∀ id, id ∈ routes.collectUsageSessionIds sessionId ↔
      Relation.ReflTransGen routes.TrimmedChild sessionId id) ∧
    ((∀ row ∈ routes.rows, strip row.sessionId = row.sessionId ∧ row.sessionId ≠ "") →
      ∀ id, id ∈ routes.collectUsageSessionIds sessionId ↔
        Relation.ReflTransGen routes.Child sessionId id) := by
  obtain ⟨once, exhausted⟩ := @RouteTable.collectFrom_spec routes [] [sessionId] sessionId
    (Frontier.init _ _) List.nodup_nil
  refine ⟨fun row => RouteTable.resolve_eq_some_iff, RouteTable.resolve_eq_none_iff, once,
    fun id => exhausted.mem_iff_reachable, fun trimmed id => ?_⟩
  rw [← RouteTable.trimmedChild_eq_child trimmed]
  exact exhausted.mem_iff_reachable

/-! ## A chain that ends, and a padded id -/

/-- A session without an adapter and a parent, and a child whose id has a blank in front. -/
def paddedRoutes : RouteTable where
  rows := [{ sessionId := "main" }, { sessionId := " sub", parentSessionId := some "main" }]
  unique := by decide

/-- The child of the example has white space around its id. -/
theorem padded_child : paddedRoutes.childIds ["main"] "main" = ["sub"] := by decide +kernel

/-- The child has no children. -/
theorem padded_leaf : paddedRoutes.childIds ["sub", "main"] "sub" = [] := by decide +kernel

/-- The main session has no parent. -/
theorem padded_chain (place : Nat) : paddedRoutes.ancestorId "main" (place + 1) = none := by
  rw [Nat.add_comm, RouteTable.ancestorId, chain_add]
  exact chain_none place

/-- The chain ends at a row without an adapter; no row is missing, and no id is repeated. The child
row's own id is not among the ids that usage is counted over. -/
theorem padded_routes :
    (paddedRoutes.resolve "main" = none ∧
      ¬∃ place, paddedRoutes.Passed "main" place ∧
        ∃ id, paddedRoutes.ancestorId "main" place = some id ∧
          (paddedRoutes.get id = none ∨
            ∃ earlier < place, paddedRoutes.ancestorId "main" earlier = some id)) ∧
    Relation.ReflTransGen paddedRoutes.Child "main" " sub" ∧
      " sub" ∉ paddedRoutes.collectUsageSessionIds "main" := by
  have found : paddedRoutes.get "main" = some { sessionId := "main" } := by decide
  refine ⟨⟨?_, ?_⟩, ?_, ?_⟩
  · rw [RouteTable.resolve_eq_none_iff]
    refine ⟨1, fun earlier before => ?_, .ended (padded_chain 0)⟩
    rw [Nat.lt_one_iff.mp before]
    exact ⟨{ sessionId := "main" }, found, by decide⟩
  · rintro ⟨place, -, id, here, reason⟩
    cases place with
    | zero =>
        cases here
        rcases reason with missing | ⟨earlier, before, -⟩
        · exact nomatch found.symm.trans missing
        · exact Nat.not_lt_zero earlier before
    | succ place => exact nomatch (padded_chain place).symm.trans here
  · exact .single ⟨_, List.mem_cons_of_mem _ List.mem_cons_self, rfl, rfl⟩
  · rw [RouteTable.collectUsageSessionIds, RouteTable.collectFrom, dif_neg (by decide),
      padded_child, List.nil_append, RouteTable.collectFrom, dif_neg (by decide), padded_leaf,
      List.nil_append, RouteTable.collectFrom]
    decide

end FairyClaw
