import MarginLending.AccountTable
import Mathlib.Algebra.GroupWithZero.Nat

/-!
Tables as finite maps and as sums. Tables that answer every lookup alike are equal, and a sum over
all entries changes with an insertion or a removal by the entries that come and go.
-/

namespace MarginLending.AccountTable

variable {α : Type}

/-- An account whose number is below all keys has no entry. -/
theorem lookupIn_of_forall_lt {account : AccountId} {entries : List (AccountId × α)}
    (below : ∀ entry ∈ entries, account.number < entry.1.number)
    : lookupIn account entries = none := by
  induction entries with
  | nil => rfl
  | cons head rest ih =>
      have first := below head List.mem_cons_self
      rw [lookupIn, if_neg (fun same => Nat.ne_of_gt first (congrArg AccountId.number same))]
      exact ih fun entry member => below entry (List.mem_cons_of_mem _ member)

/-- In sorted entries a lookup finds exactly what is listed, by induction on the list. -/
theorem lookupIn_eq_some_iff {account : AccountId} {value : α} {entries : List (AccountId × α)}
    (sorted : entries.Pairwise fun a b => a.1.number < b.1.number)
    : lookupIn account entries = some value ↔ (account, value) ∈ entries := by
  induction entries with
  | nil => simp [lookupIn]
  | cons head rest ih =>
      obtain ⟨key, first⟩ := head
      obtain ⟨above, later⟩ := List.pairwise_cons.mp sorted
      rw [lookupIn, List.mem_cons]
      split
      · next same =>
          subst same
          constructor
          · intro found
            exact .inl (by rw [Option.some.inj found])
          · rintro (listed | listed)
            · rw [(Prod.mk.inj listed).2]
            · exact absurd (above _ listed) (Nat.lt_irrefl _)
      · next different =>
          rw [ih later]
          exact ⟨.inr, fun listed => listed.resolve_left fun same =>
            different (Prod.mk.inj same).1.symm⟩

theorem get?_eq_some_iff {table : AccountTable α} {account : AccountId} {value : α}
    : table.get? account = some value ↔ (account, value) ∈ table.entries :=
  lookupIn_eq_some_iff table.sorted

/-- A value is listed exactly when some account has it. -/
theorem mem_values_iff {table : AccountTable α} {value : α}
    : value ∈ table.values ↔ ∃ account, table.get? account = some value := by
  simp [values, get?_eq_some_iff]

/-- No account is listed twice. -/
theorem nodup_accounts (table : AccountTable α) : (table.entries.map Prod.fst).Nodup :=
  List.pairwise_map.mpr (table.sorted.imp fun {a b} less (same : a.1 = b.1) =>
    Nat.ne_of_lt less (congrArg AccountId.number same))

theorem nodup_entries (table : AccountTable α) : table.entries.Nodup :=
  List.Pairwise.of_map Prod.fst (fun _ _ different same => different (congrArg Prod.fst same))
    table.nodup_accounts

/-- Tables that answer every lookup alike are equal. -/
theorem ext_get? {left right : AccountTable α}
    (alike : ∀ account, left.get? account = right.get? account)
    : left = right := by
  have members : ∀ entry, entry ∈ left.entries ↔ entry ∈ right.entries := by
    rintro ⟨account, value⟩
    rw [← get?_eq_some_iff, ← get?_eq_some_iff, alike]
  have perm := (List.perm_ext_iff_of_nodup left.nodup_entries right.nodup_entries).mpr members
  have entries := perm.eq_of_pairwise
    (fun a b _ _ less greater => absurd less (Nat.lt_asymm greater)) left.sorted right.sorted
  cases left
  cases right
  cases entries
  rfl

-----
-- Sums over all entries
-----

/-- The sum of a measure over all entries. -/
def sumOf (measure : α → Nat) (table : AccountTable α) : Nat := (table.values.map measure).sum

/-- The measure of an account's entry, zero without one. -/
def measureAt (measure : α → Nat) (table : AccountTable α) (account : AccountId) : Nat :=
  (table.get? account).elim 0 measure

/-- An insertion adds the new entry and takes the old one away, by induction on the entries. -/
theorem sumOf_insert (measure : α → Nat) (table : AccountTable α) (account : AccountId) (value : α)
    : sumOf measure (table.insert account value) + measureAt measure table account
      = sumOf measure table + measure value := by
  obtain ⟨entries, sorted⟩ := table
  simp only [sumOf, measureAt, values, insert, get?]
  induction entries with
  | nil => simp [insertIn, lookupIn]
  | cons head rest ih =>
      obtain ⟨key, first⟩ := head
      obtain ⟨above, later⟩ := List.pairwise_cons.mp sorted
      unfold insertIn
      split
      · next less =>
          have absent : lookupIn account ((key, first) :: rest) = none := by
            apply lookupIn_of_forall_lt
            intro entry member
            rcases List.mem_cons.mp member with rfl | member
            · exact less
            · exact Nat.lt_trans less (above entry member)
          rw [absent]
          simp only [List.map_cons, List.sum_cons, Option.elim_none]
          omega
      · split
        · next same =>
            simp only [lookupIn, same, if_true, List.map_cons, List.sum_cons, Option.elim_some]
            omega
        · next different =>
            have below := ih later
            simp only [lookupIn, different, if_false, List.map_cons, List.sum_cons]
            omega

/-- A removal takes the old entry away, by induction on the entries. -/
theorem sumOf_erase (measure : α → Nat) (table : AccountTable α) (account : AccountId)
    : sumOf measure (table.erase account) + measureAt measure table account
      = sumOf measure table := by
  obtain ⟨entries, sorted⟩ := table
  simp only [sumOf, measureAt, values, erase, get?]
  induction entries with
  | nil => rfl
  | cons head rest ih =>
      obtain ⟨key, first⟩ := head
      obtain ⟨above, later⟩ := List.pairwise_cons.mp sorted
      rcases decEq key account with different | rfl
      · have below := ih later
        rw [List.filter_cons_of_pos (by simpa using different)]
        simp only [lookupIn, different, if_false, List.map_cons, List.sum_cons]
        omega
      · have kept : rest.filter (fun entry => decide (entry.1 ≠ key)) = rest := by
          apply List.filter_eq_self.mpr
          intro entry member
          have less := above entry member
          simp only [ne_eq, decide_not, Bool.not_eq_true', decide_eq_false_iff_not]
          exact fun same => Nat.ne_of_gt less (congrArg AccountId.number same)
        rw [List.filter_cons_of_neg (by simp), kept]
        simp only [lookupIn, if_true, List.map_cons, List.sum_cons, Option.elim_some]
        omega

/-- A measure within another and a multiple of a third has a sum within theirs, by induction on the
entries.
-/
theorem sumOf_le_add_mul {first second third : α → Nat} {factor : Nat} (table : AccountTable α)
    (within : ∀ value, first value ≤ second value + factor * third value)
    : sumOf first table ≤ sumOf second table + factor * sumOf third table := by
  unfold sumOf
  induction table.values with
  | nil => exact Nat.le_refl 0
  | cons value rest ih =>
      have head := within value
      simp only [List.map_cons, List.sum_cons, Nat.mul_add]
      omega

/-- A measure that is within a third one when a multiple of a second is added has a sum that is, by
induction on the entries.
-/
theorem sumOf_add_mul_le {first second third : α → Nat} {factor : Nat} (table : AccountTable α)
    (within : ∀ value ∈ table.values, first value + factor * second value ≤ third value)
    : sumOf first table + factor * sumOf second table ≤ sumOf third table := by
  unfold sumOf
  generalize table.values = values at within ⊢
  induction values with
  | nil => exact Nat.le_refl 0
  | cons value rest ih =>
      have head := within value List.mem_cons_self
      have tail := ih fun value member => within value (List.mem_cons_of_mem _ member)
      simp only [List.map_cons, List.sum_cons, Nat.mul_add]
      omega

end MarginLending.AccountTable
