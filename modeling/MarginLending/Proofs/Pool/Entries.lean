import MarginLending.Proofs.Pool.Deeds

/-!
What calls do to the book, entry by entry. An operation that goes through is a sequence of entries,
and so is a margin call, unless it ends by freezing the pool. So the balances of every reachable
pool stay in range, and a pool freezes in a margin call or a shutdown and nowhere else.
-/

namespace MarginLending

namespace Pool

section Operations

variable {V : Type} {pool pool' : Pool V} {terms : Terms} {account : AccountId} {asset : Asset}
  {outcome : Outcome}

/-- An operation is a sequence of entries, whatever it is. -/
theorem entries_operate [Venue V] {call : Call}
    (operated : operate terms call pool = .ok outcome pool')
    : pool.book.Entries pool'.book :=
  (deeds_operate operated).entries

theorem entries_emergencyWithdraw
    (withdrawn : emergencyWithdraw account pool = .ok outcome pool')
    : pool.book.Entries pool'.book := by
  have leaves : pool.book.Deeds account account pool'.book := deeds_emergencyWithdraw withdrawn
  exact leaves.entries

-----
-- A margin call removes a position and places what is left, and may freeze the pool at its end
-----

/-- What a shortfall comes to is placed, or the pool freezes. -/
theorem placements_placeShortfall {shortfall kept : Nat}
    (placed : placeShortfall terms asset shortfall kept pool = .ok () pool')
    : pool.book.Placements pool'.book
      ∨ ∃ middle : Pool V, pool.book.Placements middle.book
          ∧ freeze terms asset middle = .ok () pool' := by
  obtain ⟨_, _, ⟨_, _, charged⟩ | charged⟩ := placeShortfall_ok placed
  · obtain ⟨raised, _, relieved, book', raises, _, relieves, shares, rfl⟩ :=
      chargeCounterparties_ok charged
    exact .inl (((Relation.ReflTransGen.single (.charge raises)).tail (.relieve relieves)).tail
      (.share shares))
  · obtain ⟨shared, shares, ⟨_, froze⟩ | ⟨_, book', raises, rfl⟩⟩ := chargeSameSide_ok charged
    · exact .inr ⟨pool.withBook shared, .single (.share shares), froze⟩
    · exact .inl ((Relation.ReflTransGen.single (.share shares)).tail (.raise raises))

variable [Venue V]

theorem placements_sellSeized {seized : Nat} {proceeds : Option Nat}
    (sold : sellSeized terms asset seized pool = .ok proceeds pool')
    : pool.book.Placements pool'.book := by
  rcases sellSeized_ok sold with ⟨_, _, rfl⟩ | ⟨_, _, rfl⟩ | ⟨_, _, _, _, _, settles, _, rfl⟩
  · exact .refl
  · exact .refl
  · exact .settle settles

/-- After the removal of the position a margin call places what it brings, and may freeze the pool.
-/
theorem placements_marginCall (called : marginCall terms account pool = .ok () pool')
    : ∃ removed, Book.removePosition account pool.book = .ok () removed
        ∧ (removed.Placements pool'.book
          ∨ ∃ (asset : Asset) (middle : Pool V), removed.Placements middle.book
              ∧ freeze terms asset middle = .ok () pool') := by
  obtain ⟨position, debtAsset, seized, debt, removed, proceeds, sold, shared, _, _, _, _, _,
    removes, sells, sharing, placing⟩ := marginCall_ok called
  have atSold : removed.Placements sold.book := placements_sellSeized sells
  have atShared : removed.Placements shared := by
    rcases sharing with ⟨_, shares⟩ | ⟨_, rfl⟩
    · exact atSold.tail (.share shares)
    · exact atSold
  refine ⟨removed, removes, ?_⟩
  rcases placing with ⟨_, placed⟩ | ⟨_, rfl⟩
  · rcases placements_placeShortfall placed with placed | ⟨middle, placed, froze⟩
    · exact .inl (atShared.trans placed)
    · exact .inr ⟨debtAsset, middle, atShared.trans placed, froze⟩
  · exact .inl atShared

end Operations

-----
-- Balances of reachable pools
-----

section Balances

variable {V : Type} {pool pool' : Pool V} {terms : Terms}

/-- Freezing moves no token. -/
theorem funded_freeze {asset : Asset} (funded : pool.book.Funded)
    (froze : freeze terms asset pool = .ok () pool')
    : pool'.book.Funded := by
  obtain ⟨_, _, rfl⟩ := freeze_ok froze
  exact funded

variable [Venue V]

theorem funded_marginCall {account : AccountId} (funded : pool.book.Funded)
    (called : marginCall terms account pool = .ok () pool')
    : pool'.book.Funded := by
  obtain ⟨removed, removes, placed | ⟨_, middle, placed, froze⟩⟩ := placements_marginCall called
  · exact (funded.entry (.remove removes)).entries placed.entries
  · exact funded_freeze ((funded.entry (.remove removes)).entries placed.entries) froze

/-- A chain of margin calls keeps the balances in range, by induction on the chain. -/
theorem Liquidation.funded {calls : List (Pool V × Pool V)}
    (chain : Liquidation terms pool calls pool') (funded : pool.book.Funded)
    : pool'.book.Funded := by
  induction chain with
  | done => exact funded
  | call _ called _ ih => exact ih (funded_marginCall funded called)
  | refresh refreshed _ ih => exact ih (funded.entry (.refresh refreshed))

theorem Updates.funded {calls : List (Pool V × Pool V)} (updates : Updates terms pool calls pool')
    (funded : pool.book.Funded)
    : pool'.book.Funded := by
  cases updates with
  | current => exact funded
  | accrued accrues chain => exact chain.funded (funded.entries (Book.Entries.accrue accrues))

theorem Acts.funded {calls : List (Pool V × Pool V)} (acts : Acts pool calls pool')
    (funded : pool.book.Funded)
    : pool'.book.Funded := by
  cases acts with
  | leave _ withdrawn => exact funded.entries (entries_emergencyWithdraw withdrawn)
  | update _ _ updates => exact updates.funded funded
  | operate _ _ updates _ operated =>
      exact (updates.funded funded).entries (entries_operate operated)
  | freeze _ updates froze => exact funded_freeze (updates.funded funded) froze
  | parameters accrues _ =>
      exact (funded.entries (Book.Entries.accrue accrues)).entry (.parameters ..)

/-- The balances of every reachable pool are in range, by induction on the commands. -/
theorem Reachable.funded (reachable : Reachable pool) : pool.book.Funded := by
  induction reachable with
  | new created =>
      rw [(new_ok created).2.1]
      exact Book.funded_new _ _
  | @run pool before command ih =>
      cases result : command.run pool with
      | ok value pool' =>
          rcases run_ok result with ⟨_, acted, acts, rfl⟩ | ⟨time, rfl⟩ | ⟨venue, rfl⟩
          · change Book.Funded (Pool.commit acted).book
            rw [book_commit]
            exact acts.funded ih
          · exact ih
          · exact ih
      | error error pool' =>
          change Book.Funded pool'.book
          rw [run_error before.sound.idle result]
          exact ih

end Balances

end Pool

end MarginLending
