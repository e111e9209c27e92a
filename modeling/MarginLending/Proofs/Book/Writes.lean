import MarginLending.Pool.Execute
import MarginLending.Proofs.Actions
import MarginLending.Proofs.Book.Fields
import MarginLending.Proofs.Heap.Rollback

/-!
Every action of a book is a sequence of single writes, however it ends. What each write keeps, every
action keeps.
-/

namespace MarginLending

namespace Book

/-- One write to a book: a ledger, a position, a heap, or one of the small fields. -/
inductive Write : Book → Book → Prop
  | ledger (book : Book) (asset : Asset) (ledger : Ledger)
      : book.Write (book.setLedger asset ledger)
  | put (book : Book) (account : AccountId) (position : Position)
    : book.Write (book.putPosition account position)
  | erase (book : Book) (account : AccountId) : book.Write (book.erasePosition account)
  | heap (book : Book) (asset : Asset) {heap : LeverageHeap}
      (rewritten : (book.heap asset).Rewrite heap)
    : book.Write (book.setHeap asset heap)
  | leverage (book : Book) (leverage : PerAsset Q96) : book.Write { book with leverage }
  | accrued (book : Book) (time : Timestamp) : book.Write { book with lastAccrual := time }
  | frozen (book : Book) (asset : Asset) (snapshot : Option Snapshot)
    : book.Write { book with mode := .ofDebt asset, snapshot }
  | parameters (book : Book) {parameters : Parameters} (valid : parameters.violation? = none)
    : book.Write { book with parameters }

/-- A sequence of writes. -/
abbrev Writes : Book → Book → Prop := Relation.ReflTransGen Write

/-- Writes keep the parameters valid, by induction on the sequence. -/
theorem Writes.valid {book book' : Book} (written : book.Writes book')
    (valid : book.parameters.violation? = none)
    : book'.parameters.violation? = none := by
  induction written with
  | refl => exact valid
  | tail _ last ih =>
      cases last with
      | put account position =>
          rw [putPosition_eq]
          exact ih
      | erase account =>
          rw [erasePosition_eq]
          exact ih
      | parameters violated => exact violated
      | ledger | heap | leverage | accrued | frozen => exact ih

/-- A frozen book stays frozen, by induction on the sequence. -/
theorem Writes.isEmergency {book book' : Book} (written : book.Writes book')
    (frozen : book.mode.isEmergency = true)
    : book'.mode.isEmergency = true := by
  induction written with
  | refl => exact frozen
  | tail _ last ih =>
      cases last with
      | put account position =>
          rw [putPosition_eq]
          exact ih
      | erase account =>
          rw [erasePosition_eq]
          exact ih
      | frozen asset snapshot => cases asset <;> rfl
      | ledger | heap | leverage | accrued | parameters => exact ih

/-- A book that is not frozen was not frozen before. -/
theorem Writes.regular {book book' : Book} (written : book.Writes book')
    (regular : book'.mode.isEmergency = false)
    : book.mode.isEmergency = false := by
  cases mode : book.mode.isEmergency with
  | false => rfl
  | true => rw [written.isEmergency mode] at regular; cases regular

section Seats

variable (book : Book) (account : AccountId)

/-- Replaying reports sets positions, by induction on the moves. -/
theorem writes_foldl_applyMove (moves : List Move) : book.Writes (moves.foldl applyMove book) := by
  induction moves generalizing book with
  | nil => exact .refl
  | cons move rest ih =>
      refine Relation.ReflTransGen.trans ?_ (ih (book.applyMove move))
      unfold applyMove
      split
      · exact .single (.put ..)
      · exact .refl

theorem writes_applyUpdate {α : Type} (asset : Asset) {update : HeapUpdate α}
    (rewritten : (book.heap asset).Rewrite update.heap)
    : book.Writes (book.applyUpdate asset update) :=
  .head (.heap book asset rewritten) (writes_foldl_applyMove _ _)

theorem writes_unseat (asset : Asset) (slot : Nat) : book.Writes (book.unseat asset slot) :=
  book.writes_applyUpdate asset (.remove ..)

theorem writes_reseat : book.Writes (book.reseat account) := by
  unfold reseat
  split
  · exact .refl
  · simp only
    split
    · split
      · exact book.writes_applyUpdate _ (.updateKey ..)
      · exact .refl
    · split <;> split
      · exact (book.writes_unseat _ _).trans (writes_applyUpdate _ _ (.insert ..))
      · exact book.writes_applyUpdate _ (.insert ..)
      · exact book.writes_unseat _ _
      · exact .refl

theorem writes_handOver (bad : Position) (badAccount : AccountId)
    : book.Writes (book.handOver bad badAccount account) := by
  unfold handOver
  have moved : book.Writes
      (((book.erasePosition account).erasePosition badAccount).putPosition account bad) :=
    .tail (.tail (.single (.erase ..)) (.erase ..)) (.put ..)
  split
  · exact .tail moved (.heap _ _ (.setAccount ..))
  · exact moved

end Seats

-----
-- Every action on a book is a sequence of writes
-----

section Actions

variable (book : Book) (account : AccountId) (asset : Asset)

theorem steps_modifyLedger (change : Ledger → Except PoolError Ledger)
    : Steps Write (modifyLedger asset change) book :=
  .get_bind (.lift_bind fun _ _ => .of_set (.ledger ..))

/-- Replacing both ledgers and a position is three writes. -/
theorem writes_rebook (ledger otherLedger : Ledger) (position : Position)
    : book.Writes (((book.setLedger asset ledger).setLedger asset.other otherLedger).putPosition
        account position) :=
  .tail (.tail (.single (.ledger ..)) (.ledger ..)) (.put ..)

theorem steps_credit (real : Nat) : Steps Write (credit account asset real) book := by
  unfold credit
  split
  · exact .of_pure _
  · exact .get_bind (.lift_bind fun _ _ => .lift_bind fun _ _ => writes_rebook ..)

theorem steps_debit (real : Nat) : Steps Write (debit account asset real) book := by
  unfold debit
  split
  · exact .of_pure _
  · refine .get_bind (.lift_bind fun _ _ => .lift_bind fun _ _ => .lift_bind fun _ _ =>
      .bind (writes_rebook ..) fun _ _ _ => ?_)
    split
    · exact .of_throw _
    · exact .of_pure _

theorem steps_payOut (amount : Nat) : Steps Write (payOut asset amount) book :=
  book.steps_modifyLedger asset _

theorem steps_payIn (amount : Nat) : Steps Write (payIn asset amount) book :=
  book.steps_modifyLedger asset _

theorem steps_settle (order : SwapOrder) (fill : Fill) : Steps Write (settle order fill) book :=
  .bind (book.steps_payOut ..) fun _ _ _ => steps_payIn ..

theorem steps_reseatM : Steps Write (reseatM account) book :=
  .of_modify (book.writes_reseat account)

theorem steps_removePosition : Steps Write (removePosition account) book := by
  unfold removePosition
  refine .get_bind ?_
  split
  · exact .of_pure _
  · next position _ =>
      refine .bind (steps_modifyLedger ..) fun _ first _ => .bind (steps_modifyLedger ..)
        fun _ second _ => .of_modify ?_
      split
      · exact .tail (writes_unseat ..) (.erase ..)
      · exact .single (.erase ..)

theorem steps_dropIfEmpty : Steps Write (dropIfEmpty account) book := by
  unfold dropIfEmpty
  refine .get_bind ?_
  split
  · exact book.steps_removePosition account
  · exact .of_pure _

theorem steps_refreshLeverage (price : Q96) : Steps Write (refreshLeverage price) book :=
  .get_bind (.lift_bind fun _ _ => .lift_bind fun _ _ => .of_set (.leverage ..))

theorem steps_accrueSide (interestRate feeGrowth : Q96) (seconds : Nat)
    : Steps Write (accrueSide interestRate feeGrowth seconds asset) book := by
  unfold accrueSide
  refine .get_bind ?_
  simp only
  split
  · exact .of_pure _
  · exact .liftMath_bind fun _ => .lift_bind fun _ _ => .lift_bind fun _ _ =>
      .bind (.of_set (.ledger ..)) fun _ _ _ => steps_credit ..

theorem steps_accrueFor (seconds : Nat) (price : Q96)
    : Steps Write (accrueFor seconds price) book :=
  .get_bind (.liftMath_bind fun _ => .lift_bind fun _ _ => .liftMath_bind fun _ =>
    .bind (steps_accrueSide ..) fun _ _ _ => .bind (steps_accrueSide ..) fun _ _ _ =>
      steps_refreshLeverage ..)

theorem steps_accrue (now : Timestamp) (price : Q96) : Steps Write (accrue now price) book := by
  unfold accrue
  refine .get_bind ?_
  simp only
  split
  · exact .of_pure _
  · split
    · exact .of_pure _
    · exact .bind (steps_accrueFor ..) fun _ _ _ => .bind (.of_modify (.single (.accrued ..)))
        fun _ _ _ => .of_pure _

theorem steps_shareAmongLenders (amount : Nat)
    : Steps Write (shareAmongLenders asset amount) book := by
  unfold shareAmongLenders
  split
  · exact .of_pure _
  · refine .get_bind ?_
    simp only
    split
    · exact steps_credit ..
    · exact steps_modifyLedger ..

theorem steps_chargeBorrowers (shortfall owed : Nat)
    : Steps Write (chargeBorrowers asset shortfall owed) book :=
  steps_modifyLedger ..

theorem steps_relieveDebt (amount owed : Nat)
    : Steps Write (relieveDebt asset amount owed) book := by
  unfold relieveDebt
  split
  · exact steps_modifyLedger ..
  · exact .of_pure _

theorem steps_raiseDebt (shortfall owed : Nat)
    : Steps Write (raiseDebt asset shortfall owed) book :=
  steps_modifyLedger ..

end Actions

end Book

end MarginLending
