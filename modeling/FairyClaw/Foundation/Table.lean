import Mathlib.Data.List.Nodup

/-! # Tables with a primary key

A table keeps its rows in the order of their insertion, with distinct keys. Writing a row replaces
the one with its key, and a deletion keeps the rows that a test passes. What a write or a deletion
does to the row of a key is a rewrite rule (`Foundation.Table.get_put`,
`Foundation.Table.get_keep`).
-/

namespace Foundation

/-- Rows with distinct keys. -/
structure Table {Row Key : Type*} (key : Row → Key) where
  rows : List Row := []
  unique : (rows.map key).Nodup := by exact List.nodup_nil

namespace Table

variable {Row Key : Type*} [DecidableEq Key] {key : Row → Key} (table : Table key)

/-- The row of a key. -/
def get (name : Key) : Option Row := table.rows.find? fun row => key row = name

/-- Write a row in the place of the one with its key, or at the end. -/
def put (row : Row) : Table key :=
  if stored : key row ∈ table.rows.map key then
    { rows := table.rows.map fun old => if key old = key row then row else old
      unique := by
        have same : (table.rows.map fun old => if key old = key row then row else old).map key =
            table.rows.map key := by
          rw [List.map_map]
          refine List.map_congr_left fun old _ => ?_
          by_cases own : key old = key row
          · simp only [Function.comp_apply, own, ↓reduceIte]
          · simp only [Function.comp_apply, own, ↓reduceIte]
        rw [same]
        exact table.unique }
  else
    { rows := table.rows ++ [row]
      unique := by
        rw [List.map_append, List.map_singleton, List.nodup_append]
        refine ⟨table.unique, List.nodup_singleton _, ?_⟩
        rintro name member _ added rfl
        exact stored (List.mem_singleton.mp added ▸ member) }

/-- Delete the rows that fail a test. -/
def keep (stays : Row → Bool) : Table key where
  rows := table.rows.filter stays
  unique := table.unique.sublist (List.filter_sublist.map key)

variable {table} {row : Row} {name : Key}

/-- A row is found under its key when it is in the table. -/
theorem get_eq_some : table.get name = some row ↔ row ∈ table.rows ∧ key row = name := by
  constructor
  · intro stored
    have matched := List.find?_some stored
    exact ⟨List.mem_of_find?_eq_some stored, by simpa only [decide_eq_true_eq] using matched⟩
  · rintro ⟨member, rfl⟩
    obtain ⟨other, stored⟩ : ∃ other, table.get (key row) = some other :=
      Option.isSome_iff_exists.mp (List.find?_isSome.mpr ⟨row, member, decide_eq_true rfl⟩)
    have found := List.find?_some stored
    rw [decide_eq_true_eq] at found
    have listed := List.mem_of_find?_eq_some stored
    rw [stored, List.inj_on_of_nodup_map table.unique listed member found]

/-- Nothing is found under a key that no row has. -/
theorem get_eq_none : table.get name = none ↔ ∀ row ∈ table.rows, key row ≠ name := by
  simp only [get, List.find?_eq_none, decide_eq_true_eq, ne_eq]

/-- A row is in the table when it is found under its key. -/
theorem mem_rows : row ∈ table.rows ↔ table.get (key row) = some row := by
  rw [get_eq_some, and_iff_left rfl]

/-- After a row is put it is found under its key, and the others are as before. -/
theorem get_put : (table.put row).get name = if name = key row then some row else table.get name := by
  have listed {old : Row} : old ∈ (table.put row).rows ↔
      old = row ∨ (old ∈ table.rows ∧ key old ≠ key row) := by
    unfold put
    split
    · rename_i stored
      obtain ⟨before, present, named⟩ := List.mem_map.mp stored
      constructor
      · intro member
        obtain ⟨origin, present, rfl⟩ := List.mem_map.mp member
        split
        · exact Or.inl rfl
        · exact Or.inr ⟨present, ‹_›⟩
      · rintro (rfl | ⟨member, different⟩)
        · exact List.mem_map.mpr ⟨before, present, if_pos named⟩
        · exact List.mem_map.mpr ⟨old, member, if_neg different⟩
    · rename_i missing
      rw [List.mem_append, List.mem_singleton, or_comm]
      exact or_congr_right ⟨fun member => ⟨member, fun same =>
        missing (same ▸ List.mem_map_of_mem member)⟩, And.left⟩
  ext found
  rw [get_eq_some, listed]
  split
  · rename_i own
    subst own
    constructor
    · rintro ⟨rfl | ⟨_, different⟩, named⟩
      · rfl
      · exact absurd named different
    · rintro ⟨⟩
      exact ⟨Or.inl rfl, rfl⟩
  · rename_i other
    rw [get_eq_some]
    constructor
    · rintro ⟨rfl | ⟨member, _⟩, named⟩
      · exact absurd named.symm other
      · exact ⟨member, named⟩
    · rintro ⟨member, rfl⟩
      exact ⟨Or.inr ⟨member, other⟩, rfl⟩

/-- A row that was put is found. -/
theorem get_put_self : (table.put row).get (key row) = some row := by rw [get_put, if_pos rfl]

/-- Putting a row leaves those under other keys. -/
theorem get_put_other (other : name ≠ key row) : (table.put row).get name = table.get name := by
  rw [get_put, if_neg other]

/-- A kept row is one that was there and stays. -/
theorem get_keep {stays : Row → Bool} : (table.keep stays).get name = (table.get name).filter stays := by
  ext found
  rw [Option.filter_eq_some_iff, get_eq_some, get_eq_some]
  exact ⟨fun ⟨member, named⟩ => ⟨⟨List.mem_of_mem_filter member, named⟩, (List.mem_filter.mp member).2⟩,
    fun ⟨⟨member, named⟩, kept⟩ => ⟨List.mem_filter.mpr ⟨member, kept⟩, named⟩⟩

/-- What is found after keeping was there before. -/
theorem of_get_keep {stays : Row → Bool} (stored : (table.keep stays).get name = some row) :
    table.get name = some row := by
  rw [get_keep] at stored
  exact (Option.filter_eq_some_iff.mp stored).1

/-- A deletion that spares the row of a key. -/
theorem get_keep_self {stays : Row → Bool} (kept : ∀ row, table.get name = some row → stays row) :
    (table.keep stays).get name = table.get name := by
  rw [get_keep]
  cases stored : table.get name with
  | none => rfl
  | some row => exact Option.filter_some_pos (kept row stored)

/-- Of several writes under one key, the last remains. -/
theorem get_foldl_put : ∀ {rows : List Row} {table : Table key},
    (rows.foldl put table).get name =
      (rows.reverse.find? fun row => key row = name).or (table.get name)
  | [], _ => rfl
  | row :: rows, table => by
      rw [List.foldl_cons, get_foldl_put, get_put, List.reverse_cons, List.find?_append,
        Option.or_assoc, List.find?_singleton]
      by_cases same : name = key row
      · simp only [same, ↓reduceIte, decide_true, Option.some_or]
      · simp only [same, Ne.symm same, ↓reduceIte, decide_false, Bool.false_eq_true, Option.none_or]

/-- Writing all rows of a table puts them before those that were there. -/
theorem get_foldl_put_rows (name : Key) (table other : Table key) :
    (other.rows.foldl put table).get name = (other.get name).or (table.get name) := by
  have reversed : (other.rows.reverse.find? fun row => key row = name) = other.get name := by
    have unique : (other.rows.reverse.map key).Nodup := by
      rw [List.map_reverse, List.nodup_reverse]
      exact other.unique
    ext row
    have turned := @get_eq_some _ _ _ key ⟨other.rows.reverse, unique⟩ row name
    rw [List.mem_reverse] at turned
    exact turned.trans get_eq_some.symm
  rw [get_foldl_put, reversed]

/-! ## Order of writes -/

omit [DecidableEq Key] in
/-- Tables with the same rows in the same order are equal. -/
theorem ext_rows {other : Table key} (same : table.rows = other.rows) : table = other := by
  cases table
  cases other
  cases same
  rfl

/-- A row under a known key takes the place of the old one. -/
theorem rows_put_of_mem (stored : key row ∈ table.rows.map key) : (table.put row).rows =
    table.rows.map fun old => if key old = key row then row else old := by
  rw [put, dif_pos stored]

/-- A row under a new key comes last. -/
theorem rows_put_of_not_mem (missing : key row ∉ table.rows.map key) :
    (table.put row).rows = table.rows ++ [row] := by
  rw [put, dif_neg missing]

/-- Putting a row adds its key and no other. -/
theorem mem_keys_put : name ∈ (table.put row).rows.map key ↔
    name ∈ table.rows.map key ∨ name = key row := by
  have present (other : Table key) : name ∈ other.rows.map key ↔ other.get name ≠ none := by
    rw [List.mem_map, Ne, get_eq_none]
    simp only [not_forall, not_not, exists_prop]
  rw [present, present, get_put]
  split
  · next own => exact iff_of_true (Option.some_ne_none row) (.inr own)
  · next other => rw [or_iff_left other]

/-- Without a row under the key, replacing it changes nothing. -/
theorem map_rows_of_not_mem (missing : key row ∉ table.rows.map key) :
    (table.rows.map fun old => if key old = key row then row else old) = table.rows :=
  (List.map_congr_left fun old listed =>
    if_neg fun own => missing (List.mem_map.mpr ⟨old, listed, own⟩)).trans (List.map_id _)

/-- A write replaces the row of its key where it stands. -/
theorem rows_put_of_split {front back : List Row} {old : Row}
    (split : table.rows = front ++ old :: back) (same : key old = key row) :
    (table.put row).rows = front ++ row :: back := by
  have unique := table.unique
  have stored : key row ∈ table.rows.map key := by
    rw [split, ← same]
    exact List.mem_map_of_mem (List.mem_append_right front List.mem_cons_self)
  rw [split, List.map_append, List.map_cons, List.nodup_append, List.nodup_cons] at unique
  obtain ⟨_, ⟨notBack, _⟩, apart⟩ := unique
  have kept {rows : List Row} (missing : key old ∉ rows.map key) :
      (rows.map fun other => if key other = key row then row else other) = rows :=
    (List.map_congr_left fun other listed => if_neg fun own =>
      missing (List.mem_map.mpr ⟨other, listed, own.trans same.symm⟩)).trans (List.map_id _)
  have notFront : key old ∉ front.map key := fun listed =>
    apart _ listed _ List.mem_cons_self rfl
  rw [rows_put_of_mem stored, split, List.map_append, List.map_cons, if_pos same, kept notFront,
    kept notBack]

/-- The later of two writes under one key remains. -/
theorem put_put_self {first second : Row} (same : key first = key second) :
    (table.put first).put second = table.put second := by
  apply ext_rows
  rw [rows_put_of_mem (mem_keys_put.mpr (.inr same.symm))]
  by_cases stored : key second ∈ table.rows.map key
  · rw [rows_put_of_mem stored, rows_put_of_mem (same ▸ stored), List.map_map]
    apply List.map_congr_left
    intro old _
    simp only [Function.comp_apply, same]
    split
    · rfl
    · rfl
  · rw [rows_put_of_not_mem stored, rows_put_of_not_mem (same ▸ stored), List.map_append,
      List.map_singleton, if_pos same, map_rows_of_not_mem stored]

/-- A write under a key that is there commutes with writes under other keys. -/
theorem put_put_comm {first second : Row} (stored : key second ∈ table.rows.map key)
    (apart : key first ≠ key second) :
    (table.put first).put second = (table.put second).put first := by
  apply ext_rows
  rw [rows_put_of_mem (mem_keys_put.mpr (.inl stored))]
  by_cases listed : key first ∈ table.rows.map key
  · rw [rows_put_of_mem listed, rows_put_of_mem (mem_keys_put.mpr (.inl listed)),
      rows_put_of_mem stored, List.map_map, List.map_map]
    apply List.map_congr_left
    intro old _
    simp only [Function.comp_apply]
    by_cases own : key old = key first
    · have other : key old ≠ key second := own ▸ apart
      rw [if_pos own, if_neg apart, if_neg other, if_pos own]
    · rw [if_neg own]
      split
      · rw [if_neg apart.symm]
      · rfl
  · have missing : key first ∉ (table.put second).rows.map key := fun present =>
      (mem_keys_put.mp present).elim listed apart
    rw [rows_put_of_not_mem listed, rows_put_of_not_mem missing, rows_put_of_mem stored,
      List.map_append, List.map_singleton, if_neg apart]

end Table

end Foundation
