import MarginLending.Account

/-!
Tables with one entry per account, kept in the order of account numbers. Two tables that answer
every lookup alike are equal, whatever was done to build them.
-/

namespace MarginLending

/-- Entries with strictly increasing account numbers. -/
structure AccountTable (α : Type) where
  entries : List (AccountId × α)
  sorted : entries.Pairwise fun a b => a.1.number < b.1.number

namespace AccountTable

variable {α : Type}

instance [DecidableEq α] : DecidableEq (AccountTable α) := fun a b =>
  decidable_of_iff (a.entries = b.entries) ⟨
    fun h => by
      cases a
      cases b
      cases h
      rfl,
    fun h => congrArg entries h⟩

/-- A table without entries. -/
def empty : AccountTable α := ⟨[], .nil⟩

/-- The entry of an account in a list of entries. -/
def lookupIn (account : AccountId) : List (AccountId × α) → Option α
  | [] => none
  | (key, value) :: rest => if key = account then some value else lookupIn account rest

/-- The entry of an account. -/
def get? (table : AccountTable α) (account : AccountId) : Option α :=
  lookupIn account table.entries

/-- Puts an entry in its place, replacing the account's older one. -/
def insertIn (account : AccountId) (value : α) : List (AccountId × α) → List (AccountId × α)
  | [] => [(account, value)]
  | (key, old) :: rest =>
      if account.number < key.number then (account, value) :: (key, old) :: rest
      else if key = account then (account, value) :: rest
      else (key, old) :: insertIn account value rest

/-- An entry of the longer list is the new one or an old one, by recursion on the list. -/
theorem mem_insertIn {account : AccountId} {value : α} {entry : AccountId × α}
    {entries : List (AccountId × α)} (h : entry ∈ insertIn account value entries)
    : entry = (account, value) ∨ entry ∈ entries := by
  induction entries with
  | nil => simpa [insertIn] using h
  | cons head rest ih =>
      obtain ⟨key, old⟩ := head
      unfold insertIn at h
      split at h
      · simpa using h
      · split at h
        · rcases List.mem_cons.mp h with h | h
          · exact .inl h
          · exact .inr (List.mem_cons_of_mem _ h)
        · rcases List.mem_cons.mp h with h | h
          · exact .inr (h ▸ List.mem_cons_self)
          · exact (ih h).imp id (List.mem_cons_of_mem _)

/-- Insertion keeps the order, by recursion on the list. -/
theorem sorted_insertIn (account : AccountId) (value : α) {entries : List (AccountId × α)}
    (h : entries.Pairwise fun a b => a.1.number < b.1.number)
    : (insertIn account value entries).Pairwise fun a b => a.1.number < b.1.number := by
  induction entries with
  | nil => simp [insertIn]
  | cons head rest ih =>
      obtain ⟨key, old⟩ := head
      obtain ⟨first, later⟩ := List.pairwise_cons.mp h
      unfold insertIn
      split
      · next less =>
          refine List.pairwise_cons.mpr ⟨fun entry member => ?_, h⟩
          rcases List.mem_cons.mp member with rfl | member
          · exact less
          · exact Nat.lt_trans less (first entry member)
      · next notLess =>
          split
          · next same =>
              subst same
              exact List.pairwise_cons.mpr ⟨first, later⟩
          · next different =>
              refine List.pairwise_cons.mpr ⟨fun entry member => ?_, ih later⟩
              rcases mem_insertIn member with rfl | member
              · have : key.number ≠ account.number :=
                  fun same => different (AccountId.ext_number same)
                simp only
                omega
              · exact first entry member

/-- Sets the entry of an account. -/
def insert (table : AccountTable α) (account : AccountId) (value : α) : AccountTable α :=
  ⟨insertIn account value table.entries, sorted_insertIn account value table.sorted⟩

/-- Removes the entry of an account, if there is one. -/
def erase (table : AccountTable α) (account : AccountId) : AccountTable α :=
  ⟨table.entries.filter fun entry => decide (entry.1 ≠ account), table.sorted.filter _⟩

/-- All entries' values, by account number. -/
def values (table : AccountTable α) : List α := table.entries.map Prod.snd

theorem lookupIn_insertIn (account other : AccountId) (value : α)
    (entries : List (AccountId × α))
    : lookupIn other (insertIn account value entries)
      = if account = other then some value else lookupIn other entries := by
  induction entries with
  | nil => simp [insertIn, lookupIn]
  | cons head rest ih =>
      obtain ⟨key, old⟩ := head
      unfold insertIn
      split
      · rfl
      · split
        · next same =>
            subst same
            by_cases h : key = other <;> simp [lookupIn, h]
        · next different =>
            by_cases h : key = other
            · subst h
              simp [lookupIn, Ne.symm different]
            · simp [lookupIn, h, ih]

theorem lookupIn_filter (account other : AccountId) (entries : List (AccountId × α))
    : lookupIn other (entries.filter fun entry => decide (entry.1 ≠ account))
      = if account = other then none else lookupIn other entries := by
  induction entries with
  | nil => simp [lookupIn]
  | cons head rest ih =>
      obtain ⟨key, old⟩ := head
      by_cases same : key = account
      · subst same
        rw [List.filter_cons_of_neg (by simp), ih]
        by_cases h : key = other <;> simp [lookupIn, h]
      · rw [List.filter_cons_of_pos (by simpa using same)]
        by_cases h : key = other
        · subst h
          simp [lookupIn, Ne.symm same]
        · rw [lookupIn, if_neg h, lookupIn, if_neg h]
          exact ih

/-- Looking up after an insertion finds the new value at its account and the old ones elsewhere.
-/
theorem get?_insert (table : AccountTable α) (account other : AccountId) (value : α)
    : (table.insert account value).get? other
      = if account = other then some value else table.get? other :=
  lookupIn_insertIn account other value table.entries

/-- Looking up after a removal finds nothing at its account and the old values elsewhere. -/
theorem get?_erase (table : AccountTable α) (account other : AccountId)
    : (table.erase account).get? other
      = if account = other then none else table.get? other :=
  lookupIn_filter account other table.entries

end AccountTable

end MarginLending
