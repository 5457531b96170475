import Mathlib.Data.List.AList

/-!
# A store whose entries may expire

A store maps keys to values which may have an expiry time.  An entry is found
up to and including its expiry time.  Every operation changes the entry of its
own key only.
-/

namespace AeroRisk.Library

universe u v

/-- A value and the last time at which it is found, if it expires. -/
structure Entry (Value : Type u) where
  value : Value
  expiresAt : Option Nat
deriving DecidableEq, Repr

/-- The entry did not expire. -/
def Entry.live {Value : Type u} (entry : Entry Value) (now : Nat) : Bool :=
  entry.expiresAt.all fun expiry => now ≤ expiry

/-- The entries of a store, the latest new key first. -/
abbrev ExpiringStore (Key : Type u) (Value : Type v) :=
  AList fun _ : Key => Entry Value

namespace ExpiringStore

variable
    {Key : Type u} {Value : Type v} [DecidableEq Key]
    (store : ExpiringStore Key Value) (now : Nat) (key other : Key)

/-- The entry of a key at a time. -/
def find : Option (Entry Value) :=
  (store.lookup key).filter fun entry => entry.live now

/-- The value of a key at a time. -/
def get : Option Value :=
  (find store now key).map Entry.value

/-- Store a value, with an expiry time or without. -/
def set (value : Value) (expiresAt : Option Nat) : ExpiringStore Key Value :=
  store.insert key { value, expiresAt }

/-- Give a key which is found an expiry time. -/
def expireAt (expiry : Nat) : ExpiringStore Key Value :=
  match find store now key with
  | none => store
  | some entry => set store key entry.value (some expiry)

/-- Remove a key. -/
def delete : ExpiringStore Key Value :=
  store.erase key

/-- The keys which are found at a time. -/
def liveKeys : List Key :=
  store.keys.filter fun key => (find store now key).isSome

variable {store now key other}

/-- A value which is found is that of the last entry. -/
theorem lookup_of_get {value : Value} (found : get store now key = some value) :
    ∃ entry, store.lookup key = some entry ∧ entry.value = value := by
  rw [get, Option.map_eq_some_iff] at found
  obtain ⟨entry, isFound, isValue⟩ := found
  rw [find, Option.filter_eq_some_iff] at isFound
  exact ⟨entry, isFound.1, isValue⟩

/-- An entry which did not expire is found. -/
theorem get_of_live {entry : Entry Value}
    (stored : store.lookup key = some entry) (live : entry.live now = true) :
    get store now key = some entry.value := by
  rw [get, find, stored, Option.filter_some, if_pos live, Option.map_some]

/-- What is found later is found now. -/
theorem find_of_le {later : Nat} (le : now ≤ later) {entry : Entry Value}
    (found : find store later key = some entry) :
    find store now key = some entry := by
  rw [find, Option.filter_eq_some_iff] at found ⊢
  rcases found with ⟨stored, live⟩
  refine ⟨stored, ?_⟩
  rcases entry with ⟨value, _ | expiry⟩
  · rfl
  · rw [Entry.live, Option.all_some, decide_eq_true_iff] at live ⊢
    exact Nat.le_trans le live

theorem get_of_lookup_none (absent : store.lookup key = none) :
    get store now key = none := by
  rw [get, find, absent, Option.filter_none, Option.map_none]

variable (store now)

theorem find_set (key : Key) (value : Value) (expiresAt : Option Nat) :
    find (set store key value expiresAt) now key =
      (some { value, expiresAt }).filter fun entry => entry.live now := by
  rw [find, set, AList.lookup_insert]

/-- A key which is found expires at its new expiry time. -/
theorem find_expireAt {entry : Entry Value}
    (found : find store now key = some entry) (expiry later : Nat) :
    find (expireAt store now key expiry) later key =
      (some { value := entry.value, expiresAt := some expiry }).filter
        fun entry => entry.live later := by
  rw [expireAt, found]
  exact find_set store later key entry.value (some expiry)

theorem find_set_of_ne (different : other ≠ key) (value : Value)
    (expiresAt : Option Nat) :
    find (set store key value expiresAt) now other = find store now other := by
  rw [find, set, AList.lookup_insert_ne different]
  rfl

theorem find_expireAt_of_ne (different : other ≠ key) (expiry later : Nat) :
    find (expireAt store now key expiry) later other =
      find store later other := by
  rw [expireAt]
  split
  · rfl
  · exact find_set_of_ne store later different _ _

theorem find_delete_of_ne (different : other ≠ key) :
    find (delete store key) now other = find store now other := by
  rw [find, delete, AList.lookup_erase_ne different]
  rfl

end ExpiringStore

end AeroRisk.Library
