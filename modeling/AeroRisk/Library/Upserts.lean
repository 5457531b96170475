import Mathlib.Data.List.AList
import Mathlib.Data.List.Dedup
import Mathlib.Data.List.Induction

/-!
# Tables with one row for each key

A table is filled by inserting items, where an item whose key is in the table
already replaces a part of its row.  The table has a row for each key of the
items, so it has a row for each item if and only if their keys are distinct.
-/

namespace AeroRisk.Library.Upserts

universe u v w

variable {Key : Type u} {Row : Type v} {Item : Type w} [DecidableEq Key]

/-- How an item is inserted: its key, its row, and what it replaces. -/
structure Upsert (Key : Type u) (Row : Type v) (Item : Type w) where
  key : Item → Key
  row : Item → Row
  replace : Row → Item → Row

variable (upsert : Upsert Key Row Item)

/-- Insert an item, or replace a part of the row with its key. -/
def Upsert.apply (table : AList fun _ : Key => Row) (item : Item) :
    AList fun _ : Key => Row :=
  match table.lookup (upsert.key item) with
  | none => table.insert (upsert.key item) (upsert.row item)
  | some row =>
      table.insert (upsert.key item) (upsert.replace row item)

/-- Insert some items, one after the other. -/
def Upsert.all (items : List Item) : AList fun _ : Key => Row :=
  items.foldl upsert.apply ∅

variable {table : AList fun _ : Key => Row} {item : Item}

theorem keys_apply :
    (upsert.apply table item).keys =
      upsert.key item :: table.keys.erase (upsert.key item) := by
  rw [Upsert.apply]
  split <;> exact AList.keys_insert table

/-- The keys of the table are those of the items. -/
theorem mem_keys_foldl (items : List Item) {key : Key} :
    key ∈ (items.foldl upsert.apply table).keys ↔
      key ∈ table.keys ∨ key ∈ items.map upsert.key := by
  induction items generalizing table with
  | nil => simp
  | cons item rest inductionHypothesis =>
      rw [List.foldl_cons, inductionHypothesis, keys_apply, List.map_cons,
        List.mem_cons, List.mem_cons,
        List.Nodup.mem_erase_iff table.keys_nodup]
      by_cases same : key = upsert.key item
      · simp [same]
      · simp [same]

/-- The table has as many rows as there are different keys. -/
theorem length_keys_all (items : List Item) :
    (upsert.all items).keys.length = (items.map upsert.key).dedup.length := by
  apply List.Perm.length_eq
  rw [List.perm_ext_iff_of_nodup (upsert.all items).keys_nodup
    (List.nodup_dedup _)]
  intro key
  rw [Upsert.all, mem_keys_foldl, List.mem_dedup]
  simp

/-- There is a row for each item exactly when the keys are distinct. -/
theorem length_keys_all_eq_iff (items : List Item) :
    (upsert.all items).keys.length = items.length ↔
      (items.map upsert.key).Nodup := by
  have length : (items.map upsert.key).length = items.length :=
    List.length_map upsert.key
  rw [length_keys_all, ← List.dedup_eq_self]
  constructor
  · intro same
    exact (List.dedup_sublist _).eq_of_length (same.trans length.symm)
  · intro same
    rw [same, length]

/-- An item of another key does not touch a row. -/
theorem lookup_foldl_of_not_mem {items : List Item} {key : Key}
    (other : key ∉ items.map upsert.key) :
    (items.foldl upsert.apply table).lookup key = table.lookup key := by
  induction items generalizing table with
  | nil => rfl
  | cons item rest inductionHypothesis =>
      rw [List.map_cons, List.mem_cons, not_or] at other
      rw [List.foldl_cons, inductionHypothesis other.2, Upsert.apply]
      split <;> exact AList.lookup_insert_ne other.1

/-- With distinct keys every item has its own row. -/
theorem lookup_all_of_nodup {items : List Item}
    (distinct : (items.map upsert.key).Nodup) (member : item ∈ items) :
    (upsert.all items).lookup (upsert.key item) = some (upsert.row item) := by
  rcases List.append_of_mem member with ⟨earlier, later, rfl⟩
  rw [List.map_append, List.map_cons, List.nodup_middle,
    List.nodup_cons, List.mem_append, not_or] at distinct
  rcases distinct with ⟨⟨notEarlier, notLater⟩, _⟩
  have absent :
      (earlier.foldl upsert.apply ∅).lookup (upsert.key item) = none := by
    rw [lookup_foldl_of_not_mem upsert notEarlier]
    rfl
  rw [Upsert.all, List.foldl_append, List.foldl_cons,
    lookup_foldl_of_not_mem upsert notLater, Upsert.apply, absent]
  exact AList.lookup_insert _

/-! ## Rows which are overwritten -/

/-- A table in which every item overwrites the row of its key. -/
def overwriteAll (items : List (Key × Row)) : AList fun _ : Key => Row :=
  items.foldl (fun table item => table.insert item.1 item.2) ∅

/-- The row of a key is that of the last item with the key. -/
theorem lookup_overwriteAll_iff (items : List (Key × Row)) {key : Key}
    {row : Row} :
    (overwriteAll items).lookup key = some row ↔
      ∃ position : Nat, items[position]? = some (key, row) ∧
        ∀ later : Nat, position < later →
          ∀ other, items[later]? ≠ some (key, other) := by
  induction items using List.reverseRecOn with
  | nil => simp [overwriteAll]
  | append_singleton items item inductionHypothesis =>
      have inserted :
          overwriteAll (items ++ [item]) =
            (overwriteAll items).insert item.1 item.2 := by
        rw [overwriteAll, List.foldl_append, List.foldl_cons, List.foldl_nil,
          overwriteAll]
      rw [inserted]
      by_cases same : key = item.1
      · rw [same, AList.lookup_insert, Option.some_inj]
        constructor
        · rintro rfl
          refine ⟨items.length, List.getElem?_concat_length, ?_⟩
          intro later isLater other found
          have inside := (List.getElem?_eq_some_iff.mp found).1
          rw [List.length_append, List.length_singleton] at inside
          omega
        · rintro ⟨position, found, last⟩
          have inside := (List.getElem?_eq_some_iff.mp found).1
          rw [List.length_append, List.length_singleton] at inside
          rcases Nat.lt_or_ge position items.length with before | isLast
          · exact absurd List.getElem?_concat_length
              (last items.length before item.2)
          · obtain rfl : position = items.length := by omega
            rw [List.getElem?_concat_length] at found
            exact congrArg Prod.snd (Option.some.inj found)
      · rw [AList.lookup_insert_ne same, inductionHypothesis]
        have other : ∀ (position : Nat) (row : Row),
            (items ++ [item])[position]? = some (key, row) ↔
              items[position]? = some (key, row) := by
          intro position row
          rcases Nat.lt_trichotomy position items.length with
            before | rfl | beyond
          · rw [List.getElem?_append_left before]
          · rw [List.getElem?_concat_length,
              List.getElem?_eq_none (Nat.le_refl _)]
            constructor
            · intro found
              exact absurd (congrArg Prod.fst (Option.some.inj found)).symm
                same
            · intro found
              cases found
          · rw [List.getElem?_eq_none (by simpa using Nat.succ_le_of_lt beyond),
              List.getElem?_eq_none (Nat.le_of_lt beyond)]
        simp only [ne_eq, other]

end AeroRisk.Library.Upserts
