import MarginLending.Proofs.Book.Deeds
import MarginLending.Proofs.Book.Leverage

/-!
The stored leverage, by which interest accrues. It is stored anew for both sides at once, as one at
least and at most the bound that is then in force; whatever else is done to a book keeps it, and the
bound with it.
-/

namespace MarginLending

namespace Q96

theorem min_le_right (a b : Q96) : a.min b ≤ b := by
  unfold min
  split
  · next below => exact below
  · exact Nat.le_refl _

theorem le_min {a b c : Q96} (left : c ≤ a) (right : c ≤ b) : c ≤ a.min b := by
  unfold min
  split
  · exact left
  · exact right

end Q96

/-- Collateral is no less than the equity in it. -/
theorem one_le_leverageOf {collateral debt : Nat} {leverage : Q96}
    (known : leverageOf collateral debt = .ok leverage)
    : Q96.one ≤ leverage := by
  unfold leverageOf at known
  split at known
  · rw [← Except.pure_eq_ok.mp known]
    decide
  · next solvent =>
      obtain ⟨positive, _, upper⟩ := Q96.ofRatio_ok (Except.liftMath_eq_ok.mp known)
      rw [← Nat.add_one_mul] at upper
      have equity : (collateral - debt) * Q96.unit ≤ collateral * Q96.unit :=
        Nat.mul_le_mul_right _ (Nat.sub_le ..)
      rw [Nat.mul_comm] at equity
      exact Nat.lt_succ_iff.mp (Nat.lt_of_mul_lt_mul_right (Nat.lt_of_le_of_lt equity upper))

namespace Book

/-- The leverage of both sides is stored as one at least and a bound at most. -/
def LeverageWithin (book : Book) (bound : Q96) : Prop :=
  ∀ side, .one ≤ book.leverage.get side ∧ book.leverage.get side ≤ bound

/-- The parameters were kept, and so was the stored leverage, unless it was stored anew. -/
structure StoresWithin (book book' : Book) : Prop where
  parameters : book'.parameters = book.parameters
  leverage
    : book'.leverage = book.leverage ∨ book'.LeverageWithin book'.parameters.leverageBound

section Storing

variable {first second third book book' : Book} {caller owner account : AccountId}
  {bad? : Option AccountId} {asset : Asset} {price : Q96}

theorem one_le_systemLeverage {leverage : Q96}
    (known : book.systemLeverage asset price = .ok leverage)
    : Q96.one ≤ leverage := by
  obtain ⟨_, _, _, _, _, _, _, _, ⟨_, rfl⟩ | ⟨_, known⟩⟩ := systemLeverage_ok known
  · exact Nat.le_refl _
  · exact one_le_leverageOf known

/-- Under valid parameters leverage is stored within the bound. -/
theorem leverageWithin_refresh (valid : book'.parameters.violation? = none)
    (refreshed : refreshLeverage price book = .ok () book')
    : book'.LeverageWithin book'.parameters.leverageBound := by
  obtain ⟨short, long, knownShort, knownLong, rfl⟩ := refreshLeverage_eq refreshed
  have bound := Parameters.one_le_leverageBound valid
  intro side
  cases side with
  | base => exact ⟨Q96.le_min (one_le_systemLeverage knownShort) bound, Q96.min_le_right ..⟩
  | quote => exact ⟨Q96.le_min (one_le_systemLeverage knownLong) bound, Q96.min_le_right ..⟩

theorem StoresWithin.refl (book : Book) : book.StoresWithin book := ⟨rfl, .inl rfl⟩

/-- What was stored anew and then kept was stored under the same bound. -/
theorem StoresWithin.trans (before : first.StoresWithin second) (after : second.StoresWithin third)
    : first.StoresWithin third := by
  refine ⟨after.parameters.trans before.parameters, ?_⟩
  rcases after.leverage with kept | within
  · rcases before.leverage with keptBefore | within
    · exact .inl (kept.trans keptBefore)
    · right
      unfold LeverageWithin
      rw [kept, after.parameters]
      exact within
  · exact .inr within

/-- Leverage within the bound stays within it. -/
theorem StoresWithin.within (stored : book.StoresWithin book')
    (within : book.LeverageWithin book.parameters.leverageBound)
    : book'.LeverageWithin book'.parameters.leverageBound := by
  rcases stored.leverage with kept | anew
  · unfold LeverageWithin
    rw [kept, stored.parameters]
    exact within
  · exact anew

theorem StoresWithin.valid (stored : book.StoresWithin book')
    (valid : book.parameters.violation? = none)
    : book'.parameters.violation? = none := by
  rw [stored.parameters]
  exact valid

theorem storesWithin_of_settings (same : book'.settings = book.settings)
    : book.StoresWithin book' :=
  ⟨(congrArg Book.parameters same :), .inl (congrArg Book.leverage same :)⟩

theorem storesWithin_refresh (valid : book.parameters.violation? = none)
    (refreshed : refreshLeverage price book = .ok () book')
    : book.StoresWithin book' := by
  obtain ⟨_, same⟩ := refreshLeverage_ok refreshed
  have kept : book'.parameters = book.parameters := by rw [same]
  exact ⟨kept, .inr (leverageWithin_refresh (kept ▸ valid) refreshed)⟩

/-- Placements touch no small field, by induction on the sequence. -/
theorem Placements.storesWithin (placed : book.Placements book') : book.StoresWithin book' := by
  induction placed with
  | refl => exact .refl book
  | tail _ last ih => exact ih.trans (storesWithin_of_settings last.settings)

theorem Deal.storesWithin (deal : book.Deal caller owner bad? book')
    (valid : book.parameters.violation? = none)
    : book.StoresWithin book' := by
  cases deal with
  | payOut paid => exact storesWithin_of_settings (Placement.payOut paid).settings
  | payIn paid => exact storesWithin_of_settings (Placement.payIn paid).settings
  | credit _ credited => exact storesWithin_of_settings (settings_credit credited)
  | debit debited => exact storesWithin_of_settings (settings_debit debited)
  | reseat account => exact storesWithin_of_settings (book.settings_reseat account)
  | drop removed => exact storesWithin_of_settings (settings_removePosition removed)
  | takeOver => exact storesWithin_of_settings (book.settings_handOver ..)
  | refresh refreshed => exact storesWithin_refresh valid refreshed

/-- An operation stores leverage under its bound, if it stores it, by induction on its actions. -/
theorem Deals.storesWithin (deals : book.Deals caller owner bad? book')
    (valid : book.parameters.violation? = none)
    : book.StoresWithin book' := by
  induction deals with
  | refl => exact .refl book
  | tail _ last ih => exact ih.trans (last.storesWithin (ih.valid valid))

/-- An accrual stores the leverage, if any time has passed. -/
theorem storesWithin_accrue (valid : book.parameters.violation? = none) {now : Timestamp}
    {moved : Bool} (accrued : accrue now price book = .ok moved book')
    : book.StoresWithin book'
      ∧ (moved = true → book'.LeverageWithin book'.parameters.leverageBound) := by
  rcases accrue_ok accrued with ⟨rfl, rfl⟩ | ⟨_, _, _, middle, grown, rfl⟩
  · exact ⟨.refl _, nofun⟩
  · obtain ⟨_, _, _, first, second, _, _, _, base, quote, refreshed⟩ := accrueFor_ok grown
    have grows : book.StoresWithin second :=
      (storesWithin_of_settings (settings_accrueSide base)).trans
        (storesWithin_of_settings (settings_accrueSide quote))
    have stored := storesWithin_refresh (grows.valid valid) refreshed
    have all := grows.trans stored
    have within := leverageWithin_refresh (all.valid valid) refreshed
    exact ⟨⟨all.parameters, all.leverage⟩, fun _ => within⟩

end Storing

end Book

end MarginLending
