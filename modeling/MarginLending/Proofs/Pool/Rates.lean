import MarginLending.Proofs.Book.Rates
import MarginLending.Proofs.Pool.StoredLeverage

/-!
When accrual is refused for its rate. The interest on a side is the annual rate times its stored
leverage. Validation bounds the rate but not the leverage, so that one trade can bring a pool with a
high bound to a stop. Where the two come to less than 100% per second, no accrual is refused.
-/

namespace MarginLending

/-- Interest at a leverage comes to less than 100% per second. -/
def Parameters.SlowAt (parameters : Parameters) (leverage : Q96) : Prop :=
  ∀ rate, parameters.annualInterest = .ok rate →
    rate.raw * leverage.raw < secondsInYear * (Q96.unit * Q96.unit)

/-- The rate itself is 100% per year at most, so that it takes a leverage as high as the number of
seconds in a year.
-/
theorem Parameters.slowAt_of_lt {parameters : Parameters} {leverage : Q96}
    (valid : parameters.violation? = none) (low : leverage < .ofNat secondsInYear)
    : parameters.SlowAt leverage := by
  intro rate known
  have low : leverage.raw < secondsInYear * Q96.unit := low
  have most : rate.raw ≤ Q96.unit := annualInterest_le_one valid known
  calc rate.raw * leverage.raw
    _ ≤ Q96.unit * leverage.raw := Nat.mul_le_mul_right _ most
    _ < Q96.unit * (secondsInYear * Q96.unit) := Nat.mul_lt_mul_of_pos_left low Q96.unit_pos
    _ = secondsInYear * (Q96.unit * Q96.unit) := Nat.mul_left_comm ..

/-- No side pays too much interest at a leverage up to which interest is slow. -/
theorem Parameters.SlowAt.interest {book : Book} {leverage : Q96} {side : Asset}
    (slow : book.parameters.SlowAt leverage) (within : book.leverage.get side ≤ leverage)
    : ¬book.InterestTooHigh side := by
  rintro ⟨rate, annual, known, product, tooHigh⟩
  have less := slow rate known
  have tooHigh : secondsInYear * Q96.unit ≤ annual.raw := tooHigh
  have most : rate.raw * (book.leverage.get side).raw ≤ rate.raw * leverage.raw :=
    Nat.mul_le_mul_left _ within
  have scaled := Nat.mul_le_mul_right Q96.unit tooHigh
  rw [Nat.mul_assoc] at scaled
  have exact := (Q96.mul_ok product).1
  omega

namespace Pool

section Accruing

variable {V : Type} [Venue V] {pool : Pool V} {cap : Q96}

/-- Where interest is slow at every bound that leverage may have been stored under, neither side
comes to 100% per second, and no accrual is refused for its rate, whenever and at whatever price it
is made.
-/
theorem accrual_accepts_rates (stored : StoredUnder cap pool) (one : .one ≤ cap)
    (slow : pool.book.parameters.SlowAt cap)
    : (∀ side, ¬pool.book.InterestTooHigh side)
      ∧ ∀ now price book, Book.accrue now price pool.book ≠ .error (.math .rateTooHigh) book := by
  have accepted : ∀ side, ¬pool.book.InterestTooHigh side := fun side =>
    slow.interest (stored.leverage_le one side)
  refine ⟨accepted, ?_⟩
  intro now price book refused
  obtain ⟨side, tooHigh⟩ := Book.accrue_refused stored.reachable.sound.valid refused
  exact accepted side tooHigh

end Accruing

/-- A pool that allows a leverage of twenty accrues at any time and price. -/
theorem accrual_accepts_rates_sample
    : let pool := (sample.after sampleTrades).after [.executeCall ⟨20⟩ .reinit]
      StoredUnder (.ofNat 20) pool ∧ pool.book.parameters.SlowAt (.ofNat 20)
        ∧ ∀ now price book,
            Book.accrue now price pool.book ≠ .error (.math .rateTooHigh) book := by
  intro pool
  have stored : StoredUnder (.ofNat 20) pool := storedUnder_sample
  have slow : pool.book.parameters.SlowAt (.ofNat 20) :=
    Parameters.slowAt_of_lt stored.reachable.sound.valid (by decide)
  exact ⟨stored, slow, (accrual_accepts_rates stored (by decide) slow).2⟩

/-- A bound of a hundred million and interest of 100% per year are valid parameters. -/
def steepParameters : Parameters :=
  { Parameters.testnet with maxLeverage := 100000000, interestRate := .one }

/-- Under such parameters a lender lends base, a trader goes short at a leverage of forty million,
and a second passes.
-/
def steepTrades : List (Command SimulatedVenue) :=
  [.setParameters ⟨1⟩ steepParameters,
    .executeCall ⟨10⟩ (.depositBase 40000000 0 .zero none),
    .executeCall ⟨20⟩ (.depositQuote 1 39999999 .zero none),
    .setTime ⟨1⟩]

/-- The next accrual is refused, and with it the lender's reinit, the trader's close, any change of
the parameters by the administrator, and the shutdown of the pool.
-/
theorem steep_trade_stops_pool
    : ∃ pool : Pool SimulatedVenue, Reachable pool ∧ pool.book.parameters.violation? = none
        ∧ (∃ book, Book.accrue pool.now .one pool.book = .error (.math .rateTooHigh) book)
        ∧ (Command.executeCall ⟨10⟩ .reinit).run pool = .error (.math .rateTooHigh) pool
        ∧ (Command.executeCall ⟨20⟩ (.closePosition .zero)).run pool
          = .error (.math .rateTooHigh) pool
        ∧ (Command.setParameters ⟨1⟩ .testnet).run pool = .error (.math .rateTooHigh) pool
        ∧ (Command.shutDown ⟨10⟩).run pool = .error (.math .rateTooHigh) pool := by
  have accrues : Book.accrue (sample.after steepTrades).now .one (sample.after steepTrades).book
      = .error (.math .rateTooHigh) (sample.after steepTrades).book := by
    decide +kernel
  refine ⟨sample.after steepTrades, reachable_sample.after steepTrades, ?_, ⟨_, accrues⟩, ?_⟩
  · decide +kernel
  · decide +kernel

end Pool

end MarginLending
