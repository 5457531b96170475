import AeroRisk.Library.CriticalSections
import AeroRisk.Orderbook.Book

/-!
# Concurrent calls of `GetOrderBook`

Any number of goroutines ask the engine for the books of symbols.  A call looks
up the symbol and allocates and stores a new book when there is none, load by
load and store by store, with the mutex of the engine held for writing.  A
pointer to a book is the place of the book among those allocated.

However the goroutines interleave, two calls get the same book exactly when
they ask for the same symbol, and the engine has one book for each symbol.
-/

namespace AeroRisk.Orderbook

open AeroRisk.Financial
open AeroRisk.Library
open AeroRisk.Library.CriticalSections

/-- The map of the engine, and the books which were allocated. -/
structure BookTable where
  orderBooks : Finmap fun _ : Symbol => Nat
  books : List OrderBook

namespace BookTable

/-- `make(map[financial.Symbol]*OrderBook)`. -/
def empty : BookTable where
  orderBooks := ∅
  books := []

open CriticalSection (load store)

/-- `ob = NewOrderBook(symbol)`. -/
def allocate (symbol : Symbol) : CriticalSection BookTable Nat :=
  .access
    (fun table => { table with books := table.books ++ [newOrderBook symbol] })
    fun table => .done table.books.length

/-- `GetOrderBook`. -/
def getOrderBookBody (symbol : Symbol) : CriticalSection BookTable Nat := do
  let found ← load fun table => table.orderBooks.lookup symbol
  match found with
  | some ob => pure ob
  | none =>
      let ob ← allocate symbol
      store fun table =>
        { table with orderBooks := table.orderBooks.insert symbol ob }
      pure ob

/-- The calls, which lock for writing. -/
def getOrderBookCalls : Protocol BookTable Symbol Nat where
  writes := fun _ => true
  body := getOrderBookBody
  readOnly := by
    intro symbol reads
    cases reads

/-! ## The calls one after the other -/

/-- The table after a call. -/
def after (table : BookTable) (symbol : Symbol) : BookTable :=
  match table.orderBooks.lookup symbol with
  | some _ => table
  | none =>
      { orderBooks := table.orderBooks.insert symbol table.books.length
        books := table.books ++ [newOrderBook symbol] }

/-- The book which a call returns. -/
def bookOf (table : BookTable) (symbol : Symbol) : Nat :=
  (table.orderBooks.lookup symbol).getD table.books.length

variable {table : BookTable} {symbol other : Symbol} {ob : Nat}

theorem exec_getOrderBookBody (table : BookTable) (symbol : Symbol) :
    (getOrderBookBody symbol).exec table =
      (table.bookOf symbol, table.after symbol) := by
  cases found : table.orderBooks.lookup symbol with
  | some ob => simp [getOrderBookBody, bookOf, after, found]
  | none =>
      simp only [getOrderBookBody, CriticalSection.exec_bind,
        CriticalSection.exec_load, found, bookOf, after, Option.getD_none]
      rfl

/-- A symbol which has a book keeps it, and after a call it has the book. -/
theorem lookup_after (table : BookTable) (symbol other : Symbol) :
    (table.after symbol).orderBooks.lookup other =
      if other = symbol then some (table.bookOf symbol)
      else table.orderBooks.lookup other := by
  rw [after, bookOf]
  by_cases same : other = symbol
  · subst same
    rw [if_pos rfl]
    cases found : table.orderBooks.lookup other with
    | some ob => simpa using found
    | none => simp
  · rw [if_neg same]
    cases found : table.orderBooks.lookup symbol with
    | some ob => rfl
    | none => exact Finmap.lookup_insert_of_ne _ same

theorem lookup_after_of_some (isBook : table.orderBooks.lookup other = some ob)
    (symbol : Symbol) :
    (table.after symbol).orderBooks.lookup other = some ob := by
  rw [lookup_after]
  split
  · next same =>
      subst same
      rw [bookOf, isBook, Option.getD_some]
  · exact isBook

/-- The map and the books which were allocated belong together. -/
def Matches (table : BookTable) : Prop :=
  ∀ symbol ob,
    table.orderBooks.lookup symbol = some ob ↔
      table.books[ob]? = some (newOrderBook symbol)

theorem matches_empty : empty.Matches := by
  intro symbol ob
  simp [empty]

theorem symbol_eq_of_newOrderBook
    (same : newOrderBook symbol = newOrderBook other) : symbol = other :=
  congrArg OrderBook.symbol same

/-- A place past the books is not in the map. -/
theorem Matches.lookup_ne_length (isMatch : table.Matches) :
    table.orderBooks.lookup symbol ≠ some table.books.length := by
  intro found
  have isBook := (isMatch symbol _).mp found
  simp at isBook

theorem Matches.after (isMatch : table.Matches) (symbol : Symbol) :
    (table.after symbol).Matches := by
  cases found : table.orderBooks.lookup symbol with
  | some ob => rwa [BookTable.after, found]
  | none =>
      intro other ob
      rw [lookup_after, bookOf, found, Option.getD_none, BookTable.after, found,
        List.getElem?_append]
      rcases lt_trichotomy ob table.books.length with less | rfl | more
      · rw [if_pos less, ← isMatch]
        split
        · next same =>
            subst same
            simp only [found, reduceCtorEq, iff_false, Option.some.injEq]
            omega
        · exact Iff.rfl
      · rw [if_neg (lt_irrefl _), Nat.sub_self]
        split
        · next same =>
            subst same
            simp
        · next different =>
            simp only [List.getElem?_cons_zero, Option.some.injEq]
            refine iff_of_false isMatch.lookup_ne_length fun same => ?_
            exact different (symbol_eq_of_newOrderBook same).symm
      · have noBook :
            [newOrderBook symbol][ob - table.books.length]? = none := by
          rw [List.getElem?_eq_none_iff, List.length_singleton]
          omega
        have noOther : table.books[ob]? = none := by
          rw [List.getElem?_eq_none_iff]
          omega
        rw [if_neg (Nat.not_lt.mpr more.le), noBook]
        split
        · refine iff_of_false (fun same => ?_) (by simp)
          rw [Option.some.injEq] at same
          omega
        · rw [isMatch, noOther]

/-! ## The calls of many goroutines -/

@[simp]
theorem getOrderBookCalls_after : getOrderBookCalls.after = after := by
  funext table symbol
  exact congrArg Prod.snd (exec_getOrderBookBody table symbol)

@[simp]
theorem getOrderBookCalls_value : getOrderBookCalls.value = bookOf := by
  funext table symbol
  exact congrArg Prod.fst (exec_getOrderBookBody table symbol)

/-- The table after some calls. -/
def afterCalls (table : BookTable) (symbols : List Symbol) : BookTable :=
  LabelledRun.run after table symbols

theorem Matches.afterCalls (isMatch : table.Matches) (symbols : List Symbol) :
    (table.afterCalls symbols).Matches :=
  LabelledRun.run_invariant_of_every
    (fun _ symbol isMatch => isMatch.after symbol) symbols isMatch

theorem lookup_afterCalls_of_some
    (isBook : table.orderBooks.lookup symbol = some ob)
    (symbols : List Symbol) :
    (table.afterCalls symbols).orderBooks.lookup symbol = some ob := by
  induction symbols generalizing table with
  | nil => exact isBook
  | cons other rest inductionHypothesis =>
      exact inductionHypothesis (lookup_after_of_some isBook other)

/-- What a call returned is what the map has in the end. -/
theorem lookup_of_mem_outputs (table : BookTable) (symbols : List Symbol)
    (member :
      (symbol, ob) ∈
        symbols.zip (LabelledRun.outputs after bookOf table symbols)) :
    (table.afterCalls symbols).orderBooks.lookup symbol = some ob := by
  induction symbols generalizing table with
  | nil => cases member
  | cons other rest inductionHypothesis =>
      rw [LabelledRun.outputs_cons, List.zip_cons_cons, List.mem_cons,
        Prod.mk.injEq] at member
      rcases member with ⟨rfl, rfl⟩ | isLater
      · have isAfter := lookup_after table symbol symbol
        rw [if_pos rfl] at isAfter
        exact lookup_afterCalls_of_some isAfter rest
      · exact inductionHypothesis (table.after other) isLater

/-- The map has the symbols which it had and those which were asked for. -/
theorem mem_afterCalls (table : BookTable) (symbols : List Symbol) :
    symbol ∈ (table.afterCalls symbols).orderBooks ↔
      symbol ∈ table.orderBooks ∨ symbol ∈ symbols := by
  induction symbols generalizing table with
  | nil => simp [afterCalls]
  | cons other rest inductionHypothesis =>
      have isNext :
          symbol ∈ (table.after other).orderBooks ↔
            symbol ∈ table.orderBooks ∨ symbol = other := by
        rw [← Finmap.lookup_isSome, ← Finmap.lookup_isSome, lookup_after]
        by_cases same : symbol = other <;> simp [same]
      have later := inductionHypothesis (table.after other)
      rw [afterCalls, LabelledRun.run_cons]
      rw [afterCalls] at later
      rw [later, isNext, List.mem_cons, or_assoc]

/-- The books are the new books of symbols. -/
def AllNew (table : BookTable) : Prop :=
  ∀ book ∈ table.books, ∃ symbol, book = newOrderBook symbol

theorem AllNew.after (allNew : table.AllNew) (symbol : Symbol) :
    (table.after symbol).AllNew := by
  cases found : table.orderBooks.lookup symbol with
  | some ob => rwa [BookTable.after, found]
  | none =>
      intro book member
      rw [BookTable.after, found] at member
      rcases List.mem_append.mp member with isOld | isNew
      · exact allNew book isOld
      · exact ⟨symbol, List.mem_singleton.mp isNew⟩

theorem allNew_afterCalls (symbols : List Symbol) :
    (empty.afterCalls symbols).AllNew :=
  LabelledRun.run_invariant_of_every
    (fun _ symbol allNew => allNew.after symbol) symbols
    (by
      intro book member
      cases member)

/-- No symbol has two books. -/
theorem Matches.nodup (isMatch : table.Matches) (allNew : table.AllNew) :
    table.books.Nodup := by
  rw [List.nodup_iff_getElem?_ne_getElem?]
  intro first second less within same
  have isSecond := List.getElem?_eq_getElem within
  obtain ⟨symbol, isNew⟩ := allNew _ (List.getElem_mem within)
  rw [isNew] at isSecond
  rw [isSecond] at same
  have firstBook := (isMatch symbol first).mpr same
  have secondBook := (isMatch symbol second).mpr isSecond
  rw [firstBook, Option.some.injEq] at secondBook
  omega

/-- The books are those of the symbols which were asked for. -/
theorem mem_books_afterCalls (symbols : List Symbol) (book : OrderBook) :
    book ∈ (empty.afterCalls symbols).books ↔
      ∃ symbol ∈ symbols, book = newOrderBook symbol := by
  have isMatch := matches_empty.afterCalls symbols
  constructor
  · intro member
    obtain ⟨symbol, rfl⟩ := allNew_afterCalls symbols book member
    obtain ⟨ob, isAt⟩ := List.mem_iff_getElem?.mp member
    have found := (isMatch symbol ob).mpr isAt
    have present : symbol ∈ (empty.afterCalls symbols).orderBooks :=
      Finmap.mem_iff.mpr ⟨ob, found⟩
    rw [mem_afterCalls] at present
    rcases present with isOld | asked
    · exact absurd isOld Finmap.notMem_empty
    · exact ⟨symbol, asked, rfl⟩
  · rintro ⟨symbol, asked, rfl⟩
    have present := (mem_afterCalls empty symbols).mpr (Or.inr asked)
    obtain ⟨ob, found⟩ := Finmap.mem_iff.mp present
    exact List.mem_of_getElem? ((isMatch symbol ob).mp found)

section Goroutines

variable {Goroutine : Type} [DecidableEq Goroutine]

/--
However the goroutines interleave, two calls get the same book exactly when
they ask for the same symbol; and while nobody is in a call, the engine has
one book for each symbol which was asked for, and no other.
-/
theorem one_book_for_each_symbol (schedule : List (Goroutine × Symbol)) :
    let reached :=
      LabelledRun.run getOrderBookCalls.next (start empty) schedule
    (∀ first ∈ reached.returned, ∀ second ∈ reached.returned,
        first.2.2 = second.2.2 ↔ first.2.1 = second.2.1) ∧
      ((∀ goroutine, reached.inside goroutine = none) →
        reached.memory.books.Nodup ∧
          ∀ book,
            book ∈ reached.memory.books ↔
              ∃ symbol ∈ reached.calls, book = newOrderBook symbol) := by
  intro reached
  have sound : getOrderBookCalls.Sound empty reached :=
    Protocol.Sound.run schedule
  have isMatch := matches_empty.afterCalls reached.calls
  have isBook :
      ∀ entry ∈ reached.returned,
        (empty.afterCalls reached.calls).orderBooks.lookup entry.2.1 =
          some entry.2.2 := by
    intro entry member
    have values := sound.values
    rw [getOrderBookCalls_after, getOrderBookCalls_value] at values
    apply lookup_of_mem_outputs
    rw [← values, System.calls, System.values, List.zip_map']
    exact List.mem_map_of_mem member
  constructor
  · intro first isFirst second isSecond
    have firstBook := isBook first isFirst
    have secondBook := isBook second isSecond
    constructor
    · intro same
      have firstAt := (isMatch _ _).mp firstBook
      have secondAt := (isMatch _ _).mp secondBook
      rw [same, secondAt, Option.some.injEq] at firstAt
      exact (symbol_eq_of_newOrderBook firstAt).symm
    · intro same
      rw [same, secondBook, Option.some.injEq] at firstBook
      exact firstBook.symm
  · intro outside
    have isMemory : reached.memory = empty.afterCalls reached.calls := by
      rw [sound.memory_eq outside, Protocol.sequential,
        getOrderBookCalls_after]
      rfl
    rw [isMemory]
    exact
      ⟨isMatch.nodup (allNew_afterCalls _), mem_books_afterCalls _⟩

end Goroutines

end BookTable

end AeroRisk.Orderbook
