import FairyClaw.Foundation.LinkPaths
import FairyClaw.Foundation.Table

/-! # File trees

A file tree is a table of nodes by place, in which every node stands in a directory. A node is set
or removed at one place, and missing directories are made on the way to a place. What these
operations leave alone is `Foundation.FileTree.Stays`: outside a set of places nothing changes but
for directories made on the way into it, and no link changes at all.
-/

namespace Foundation

/-- What stands at a place: a file, a directory or a link. -/
inductive FileNode (Name Content : Type*)
  | directory
  | file (content : Content)
  | link (target : LinkTarget Name)

/-- Nodes by place; whatever exists stands in a directory. -/
structure FileTree (Name Content : Type*) [DecidableEq Name] where
  table : Table (Prod.fst : List Name × FileNode Name Content → List Name)
  root : table.get [] = some ([], .directory)
  closed : ∀ place name, (table.get (place ++ [name])).isSome = true →
    table.get place = some (place, .directory)

namespace FileTree

variable {Name Content : Type*} [DecidableEq Name] (tree : FileTree Name Content)

/-- What stands at a place, if anything does. -/
def node (place : List Name) : Option (FileNode Name Content) := (tree.table.get place).map Prod.snd

/-- The target of a link at the place. -/
def linkTarget (place : List Name) : Option (LinkTarget Name) :=
  match tree.node place with
  | some (.link target) => some target
  | _ => none

/-- The links of the tree. -/
def links : LinkMap Name where
  target := tree.linkTarget
  places := tree.table.rows.map Prod.fst
  complete := by
    intro place linked
    cases stored : tree.table.get place with
    | none =>
        rw [linkTarget, node, stored] at linked
        cases linked
    | some row =>
        obtain ⟨member, rfl⟩ := Table.get_eq_some.mp stored
        exact List.mem_map.mpr ⟨row, member, rfl⟩

/-- A directory stands at the place. -/
def isDirectory (place : List Name) : Bool :=
  match tree.node place with
  | some .directory => true
  | _ => false

/-- Nothing stands in the place. -/
def childless (place : List Name) : Bool :=
  tree.table.rows.all fun row => row.1 = [] || !(row.1.dropLast = place)

variable {tree}

/-- The row of a place is the place with its node. -/
theorem get_eq (place : List Name) :
    tree.table.get place = (tree.node place).map fun node => (place, node) := by
  cases stored : tree.table.get place with
  | none => rw [node, stored]; rfl
  | some row =>
      obtain ⟨_, rfl⟩ := Table.get_eq_some.mp stored
      rw [node, stored]
      rfl

/-- When a place is that of a directory. -/
theorem isDirectory_iff {place : List Name} :
    tree.isDirectory place = true ↔ tree.node place = some .directory := by
  unfold isDirectory
  cases stands : tree.node place with
  | none => exact iff_of_false Bool.false_ne_true (by rintro ⟨⟩)
  | some node =>
      cases node with
      | directory => exact iff_of_true rfl rfl
      | file content => exact iff_of_false Bool.false_ne_true (by rintro ⟨⟩)
      | link target => exact iff_of_false Bool.false_ne_true (by rintro ⟨⟩)

/-- The root is a directory. -/
theorem node_root : tree.node [] = some .directory := by
  rw [node, tree.root]
  rfl

/-- Nothing stands in an empty directory. -/
theorem node_of_childless {place : List Name} (empty : tree.childless place = true) (name : Name) :
    tree.node (place ++ [name]) = none := by
  by_contra stands
  obtain ⟨node, stands⟩ := Option.ne_none_iff_exists'.mp stands
  have stored : tree.table.get (place ++ [name]) = some (place ++ [name], node) := by
    rw [get_eq, stands]
    rfl
  have outside := List.all_eq_true.mp empty _ (Table.get_eq_some.mp stored).1
  simp at outside

variable (tree)

/-- Set the node of a name in a directory; a directory there is kept from being replaced. -/
def setNode (front : List Name) (name : Name) (node : FileNode Name Content)
    (inside : tree.node front = some .directory)
    (leaf : tree.node (front ++ [name]) ≠ some .directory) : FileTree Name Content where
  table := tree.table.put (front ++ [name], node)
  root := by
    rw [Table.get_put, if_neg fun same => List.concat_ne_nil name front same.symm]
    exact tree.root
  closed := by
    intro place other stored
    have parent : tree.table.get place = some (place, .directory) := by
      rw [Table.get_put] at stored
      split at stored
      · next same =>
          rw [(List.append_inj' same rfl).1, get_eq, inside]
          rfl
      · exact tree.closed place other stored
    rw [Table.get_put, if_neg, parent]
    rintro rfl
    rw [FileTree.node, parent] at leaf
    exact leaf rfl

/-- Remove the node of a place in which nothing stands. -/
def remove (place : List Name) (proper : place ≠ []) (empty : tree.childless place = true) :
    FileTree Name Content where
  table := tree.table.keep fun row => !(row.1 = place)
  root := by
    rw [Table.get_keep, tree.root]
    simp [proper.symm]
  closed := by
    intro other name stored
    obtain ⟨row, stored⟩ := Option.isSome_iff_exists.mp stored
    have kept := Table.of_get_keep stored
    rw [Table.get_keep, tree.closed other name (by rw [kept]; rfl)]
    refine Option.filter_some_pos ?_
    have stays : other ≠ place := by
      rintro rfl
      have absent := node_of_childless empty name
      rw [node, kept] at absent
      cases absent
    simpa using stays

variable {tree}

section Nodes

variable {front place : List Name} {name : Name} {node : FileNode Name Content}
  {inside : tree.node front = some .directory}
  {leaf : tree.node (front ++ [name]) ≠ some .directory} {proper : place ≠ []}
  {empty : tree.childless place = true}

/-- After a node is set it stands at its place, and the other places are as before. -/
theorem node_setNode (other : List Name) : (tree.setNode front name node inside leaf).node other =
    if other = front ++ [name] then some node else tree.node other := by
  rw [FileTree.node, setNode, Table.get_put]
  split
  · rfl
  · rfl

/-- After a removal nothing stands at the place, and the other places are as before. -/
theorem node_remove (other : List Name) : (tree.remove place proper empty).node other =
    if other = place then none else tree.node other := by
  rw [FileTree.node, remove, Table.get_keep, get_eq]
  cases tree.node other with
  | none => simp
  | some node => by_cases same : other = place <;> simp [same]

end Nodes

variable (tree)

/-- Put a file at a place, if it is a name in a directory and no directory stands there. -/
def writeFile (place : List Name) (content : Content) : Option (FileTree Name Content) :=
  if proper : place ≠ [] then
    if inside : tree.isDirectory place.dropLast = true then
      if leaf : tree.isDirectory place = true then none
      else some (tree.setNode place.dropLast (place.getLast proper) (.file content)
        (isDirectory_iff.mp inside) (by
          rw [List.dropLast_concat_getLast proper]
          exact fun stands => leaf (isDirectory_iff.mpr stands)))
    else none
  else none

/-- Remove what stands at a place, unless it is the root or something stands in it. -/
def delete (place : List Name) : Option (FileTree Name Content) :=
  if proper : place ≠ [] then
    if empty : tree.childless place = true then some (tree.remove place proper empty) else none
  else none

variable {tree}

section Changes

variable {after : FileTree Name Content} {place : List Name} {content : Content}

/-- After a write the file stands at its place, and the other places are as before. -/
theorem node_of_writeFile (written : tree.writeFile place content = some after)
    (other : List Name) :
    after.node other = if other = place then some (.file content) else tree.node other := by
  unfold writeFile at written
  split at written
  · next proper =>
      split at written
      · split at written
        · cases written
        · cases written
          rw [node_setNode, List.dropLast_concat_getLast proper]
      · cases written
  · cases written

/-- After a deletion nothing stands at the place, and the other places are as before. -/
theorem node_of_delete (deleted : tree.delete place = some after) (other : List Name) :
    after.node other = if other = place then none else tree.node other := by
  unfold delete at deleted
  split at deleted
  · split at deleted
    · cases deleted
      exact node_remove other
    · cases deleted
  · cases deleted

end Changes

/-! ## Directories on the way -/

/-- Make the missing directories on the way to a place, as long as the making is allowed: the tree,
and whether all of them stand. -/
def makeDirs (allows : List Name → Bool) : FileTree Name Content → List Name → List Name →
    FileTree Name Content × Bool
  | tree, _, [] => (tree, true)
  | tree, front, name :: rest =>
      match stands : tree.node (front ++ [name]) with
      | some .directory => makeDirs allows tree (front ++ [name]) rest
      | none =>
          if inside : tree.isDirectory front = true then
            if allows (front ++ [name]) then
              makeDirs allows (tree.setNode front name .directory (isDirectory_iff.mp inside)
                (by rw [stands]; rintro ⟨⟩)) (front ++ [name]) rest
            else (tree, false)
          else (tree, false)
      | some _ => (tree, false)

/-- No link changes, and outside the given places nothing does but for directories made on the way
into them. -/
def Stays (within : List Name → Prop) (before after : FileTree Name Content) : Prop :=
  after.linkTarget = before.linkTarget ∧
    ∀ place, ¬ within place → after.node place = before.node place ∨
      (before.node place = none ∧ after.node place = some .directory ∧
        ∃ deeper, within deeper ∧ place <+: deeper)

variable {within : List Name → Prop} {before middle after : FileTree Name Content}

/-- A tree stays as it is. -/
theorem Stays.refl (tree : FileTree Name Content) : tree.Stays within tree :=
  ⟨rfl, fun _ _ => Or.inl rfl⟩

/-- Changes within the same places may follow each other. -/
theorem Stays.trans (first : before.Stays within middle) (second : middle.Stays within after) :
    before.Stays within after := by
  refine ⟨second.1.trans first.1, fun place outside => ?_⟩
  rcases second.2 place outside with same | ⟨absent, made, deeper⟩
  · rw [same]
    exact first.2 place outside
  · rcases first.2 place outside with same | ⟨_, stands, _⟩
    · exact Or.inr ⟨same ▸ absent, made, deeper⟩
    · cases absent.symm.trans stands

/-- What stays within some places stays within more of them. -/
theorem Stays.mono {wider : List Name → Prop} (stays : before.Stays within after)
    (covers : ∀ place, within place → wider place) : before.Stays wider after := by
  refine ⟨stays.1, fun place outside => ?_⟩
  rcases stays.2 place (fun inside => outside (covers place inside)) with same | created
  · exact Or.inl same
  · obtain ⟨absent, made, deeper, inside, before⟩ := created
    exact Or.inr ⟨absent, made, deeper, covers deeper inside, before⟩

/-- A tree with other nodes at one place only, neither of them a link. -/
theorem linkTarget_congr {place : List Name} (same : ∀ other, other ≠ place →
    after.node other = before.node other) (old : before.linkTarget place = none)
    (new : after.linkTarget place = none) : after.linkTarget = before.linkTarget := by
  funext other
  by_cases own : other = place
  · rw [own, old, new]
  · rw [linkTarget, linkTarget, same other own]

/-- A node that is no link leads nowhere. -/
theorem linkTarget_of_node {place : List Name} {node : FileNode Name Content}
    (stands : tree.node place = some node) (plain : ∀ target, node ≠ .link target) :
    tree.linkTarget place = none := by
  rw [linkTarget, stands]
  cases node with
  | directory => rfl
  | file => rfl
  | link target => exact absurd rfl (plain target)

/-- A tree with other nodes at one of the places only, neither of them a link. -/
theorem stays_of_node {place : List Name} (inside : within place)
    (same : ∀ other, other ≠ place → after.node other = before.node other)
    (old : before.linkTarget place = none) (new : after.linkTarget place = none) :
    before.Stays within after := by
  refine ⟨linkTarget_congr same old new, fun other outside => Or.inl (same other ?_)⟩
  rintro rfl
  exact outside inside

/-- Writing a file changes its own place only. -/
theorem stays_writeFile {place : List Name} {content : Content} (inside : within place)
    (plain : tree.linkTarget place = none) (written : tree.writeFile place content = some after) :
    tree.Stays within after := by
  have changed := node_of_writeFile written
  refine stays_of_node inside (fun other different => ?_) plain ?_
  · rw [changed, if_neg different]
  · exact linkTarget_of_node ((changed place).trans (if_pos rfl)) (by rintro _ ⟨⟩)

/-- Deleting changes its own place only. -/
theorem stays_delete {place : List Name} (inside : within place)
    (plain : tree.linkTarget place = none) (deleted : tree.delete place = some after) :
    tree.Stays within after := by
  have changed := node_of_delete deleted
  refine stays_of_node inside (fun other different => ?_) plain ?_
  · rw [changed, if_neg different]
  · rw [linkTarget, (changed place).trans (if_pos rfl)]

/-- Making the directories above a place changes these only. -/
theorem stays_makeDirs {allows : List Name → Bool} {names deeper : List Name}
    (inside : within deeper) :
    ∀ {tree : FileTree Name Content} {front : List Name}, front ++ names <+: deeper →
      tree.Stays within (makeDirs allows tree front names).1 := by
  induction names with
  | nil => exact fun {tree _} _ => .refl tree
  | cons name rest ih =>
      intro tree front before
      rw [List.append_cons] at before
      rw [makeDirs]
      split
      · exact ih before
      · next absent =>
          split
          · next parent =>
              split
              · refine Stays.trans ?_ (ih before)
                have changed := fun other => @node_setNode _ _ _ tree front name .directory
                  (isDirectory_iff.mp parent) (by rw [absent]; rintro ⟨⟩) other
                have old : tree.linkTarget (front ++ [name]) = none := by
                  rw [linkTarget, absent]
                refine ⟨linkTarget_congr ?_ old ?_, fun place _ => ?_⟩
                · exact fun other different => (changed other).trans (if_neg different)
                · exact linkTarget_of_node ((changed _).trans (if_pos rfl)) (by rintro _ ⟨⟩)
                · by_cases own : place = front ++ [name]
                  · subst own
                    exact Or.inr ⟨absent, (changed _).trans (if_pos rfl), _, inside,
                      (List.prefix_append _ _).trans before⟩
                  · exact Or.inl ((changed place).trans (if_neg own))
              · exact .refl tree
          · exact .refl tree
      · exact .refl tree

end FileTree

end Foundation
