import MarginLending.Proofs.Book.Entries

/-!
Whose positions a call may change. A call acts for its caller and pays in for an owner: it debits
and drops no position but its caller's, takes over or seizes only positions that owe something, and
credits the caller, the owner and the fee holder. Debt is written off only while some of it stays.
-/

namespace MarginLending

namespace Book

/-- One action of a book that a call may make for its caller and the owner it pays in for. -/
inductive Deed (caller owner : AccountId) : Book → Book → Prop
  | payOut {book book' : Book} {asset : Asset} {amount : Nat}
      (paid : payOut asset amount book = .ok () book')
    : Deed caller owner book book'
  | payIn {book book' : Book} {asset : Asset} {amount : Nat}
      (paid : payIn asset amount book = .ok () book')
    : Deed caller owner book book'
  | share {book book' : Book} {asset : Asset} {amount : Nat}
      (shared : shareAmongLenders asset amount book = .ok () book')
    : Deed caller owner book book'
  | charge {book book' : Book} {asset : Asset} {shortfall owed : Nat}
      (charged : chargeBorrowers asset shortfall owed book = .ok () book')
    : Deed caller owner book book'
  | relieve {book book' : Book} {asset : Asset} {amount debt : Nat}
      (owes : (book.ledger asset).totalRealDebt = .ok debt) (stays : amount ≤ debt - 1)
      (relieved : relieveDebt asset amount (book.ledger asset).discountedDebt book = .ok () book')
    : Deed caller owner book book'
  | raise {book book' : Book} {asset : Asset} {shortfall owed : Nat}
      (raised : raiseDebt asset shortfall owed book = .ok () book')
    : Deed caller owner book book'
  | credit {book book' : Book} {account : AccountId} {asset : Asset} {real : Nat}
      (payee : account = caller ∨ account = owner ∨ account = .feeHolder)
      (credited : credit account asset real book = .ok () book')
    : Deed caller owner book book'
  | debit {book book' : Book} {asset : Asset} {real : Nat}
      (debited : debit caller asset real book = .ok () book')
    : Deed caller owner book book'
  | reseat (book : Book) (account : AccountId) : Deed caller owner book (book.reseat account)
  | drop {book book' : Book} (removed : removePosition caller book = .ok () book')
    : Deed caller owner book book'
  | seize {book book' : Book} {account : AccountId} {position : Position} {debtAsset : Asset}
      (found : book.position? account = some position)
      (owes : position.kind.debtAsset? = some debtAsset)
      (removed : removePosition account book = .ok () book')
    : Deed caller owner book book'
  | takeOver {book : Book} {bad : Position} {badAccount : AccountId} {debtAsset : Asset}
      (found : book.position? badAccount = some bad)
      (owes : bad.kind.debtAsset? = some debtAsset)
    : Deed caller owner book (book.handOver bad badAccount caller)
  | refresh {book book' : Book} {price : Q96}
      (refreshed : refreshLeverage price book = .ok () book')
    : Deed caller owner book book'
  | grow {book book' : Book} {interestRate feeGrowth : Q96} {seconds : Nat} {asset : Asset}
      (accrued : accrueSide interestRate feeGrowth seconds asset book = .ok () book')
    : Deed caller owner book book'
  | stamp (book : Book) (time : Timestamp)
    : Deed caller owner book { book with lastAccrual := time }
  | parameters (book : Book) (parameters : Parameters)
    : Deed caller owner book { book with parameters }

/-- A sequence of actions for one caller and one owner. -/
abbrev Deeds (caller owner : AccountId) : Book → Book → Prop :=
  Relation.ReflTransGen (Deed caller owner)

/-- One action that an operation makes on a book that is up to date: for its caller, for the owner
it pays in for, and on the bad account whose position it takes over. It touches no coefficient.
-/
inductive Deal (caller owner : AccountId) (bad? : Option AccountId) : Book → Book → Prop
  | payOut {book book' : Book} {asset : Asset} {amount : Nat}
      (paid : payOut asset amount book = .ok () book')
    : Deal caller owner bad? book book'
  | payIn {book book' : Book} {asset : Asset} {amount : Nat}
      (paid : payIn asset amount book = .ok () book')
    : Deal caller owner bad? book book'
  | credit {book book' : Book} {account : AccountId} {asset : Asset} {real : Nat}
      (payee : account = caller ∨ account = owner ∨ account = .feeHolder)
      (credited : credit account asset real book = .ok () book')
    : Deal caller owner bad? book book'
  | debit {book book' : Book} {asset : Asset} {real : Nat}
      (debited : debit caller asset real book = .ok () book')
    : Deal caller owner bad? book book'
  | reseat (book : Book) (account : AccountId) : Deal caller owner bad? book (book.reseat account)
  | drop {book book' : Book} (removed : removePosition caller book = .ok () book')
    : Deal caller owner bad? book book'
  | takeOver {book : Book} {bad : Position} {badAccount : AccountId} {debtAsset : Asset}
      (named : bad? = some badAccount) (found : book.position? badAccount = some bad)
      (owes : bad.kind.debtAsset? = some debtAsset)
    : Deal caller owner bad? book (book.handOver bad badAccount caller)
  | refresh {book book' : Book} {price : Q96}
      (refreshed : refreshLeverage price book = .ok () book')
    : Deal caller owner bad? book book'

/-- A sequence of actions of one operation. -/
abbrev Deals (caller owner : AccountId) (bad? : Option AccountId) : Book → Book → Prop :=
  Relation.ReflTransGen (Deal caller owner bad?)

section Doing

variable {caller owner : AccountId} {bad? : Option AccountId} {book book' : Book}

/-- Whatever a call may do is an entry. -/
theorem Deed.entry (deed : book.Deed caller owner book') : book.Entry book' := by
  cases deed with
  | payOut paid => exact .place (.payOut paid)
  | payIn paid => exact .place (.payIn paid)
  | share shared => exact .place (.share shared)
  | charge charged => exact .place (.charge charged)
  | relieve _ _ relieved => exact .place (.relieve relieved)
  | raise raised => exact .place (.raise raised)
  | credit _ credited => exact .credit credited
  | debit debited => exact .debit debited
  | reseat account => exact .reseat book account
  | drop removed => exact .remove removed
  | seize _ _ removed => exact .remove removed
  | takeOver => exact .handOver ..
  | refresh refreshed => exact .refresh refreshed
  | grow accrued => exact .grow accrued
  | stamp time => exact .stamp book time
  | parameters parameters => exact .parameters book parameters

theorem Deeds.entries (deeds : book.Deeds caller owner book') : book.Entries book' :=
  Relation.ReflTransGen.mono (fun _ _ => Deed.entry) _ _ deeds

/-- Whatever an operation may do, a call may. -/
theorem Deal.deed (deal : book.Deal caller owner bad? book') : book.Deed caller owner book' := by
  cases deal with
  | payOut paid => exact .payOut paid
  | payIn paid => exact .payIn paid
  | credit payee credited => exact .credit payee credited
  | debit debited => exact .debit debited
  | reseat account => exact .reseat book account
  | drop removed => exact .drop removed
  | takeOver _ found owes => exact .takeOver found owes
  | refresh refreshed => exact .refresh refreshed

theorem Deals.deeds (deals : book.Deals caller owner bad? book') : book.Deeds caller owner book' :=
  Relation.ReflTransGen.mono (fun _ _ => Deal.deed) _ _ deals

theorem Deals.settle {order : SwapOrder} {fill : Fill}
    (settled : settle order fill book = .ok () book')
    : book.Deals caller owner bad? book' := by
  obtain ⟨middle, out, into⟩ := settle_ok settled
  exact .tail (.single (.payOut out)) (.payIn into)

theorem Deals.dropIfEmpty (dropped : dropIfEmpty caller book = .ok () book')
    : book.Deals caller owner bad? book' := by
  rcases dropIfEmpty_ok dropped with rfl | ⟨_, removed⟩
  · exact .refl
  · exact .single (.drop removed)

/-- The end of a trade seats the caller anew, drops it if it is empty, and stores the leverage. -/
theorem Deals.finish {dropped : Book} {price : Q96}
    (drops : Book.dropIfEmpty caller (book.reseat caller) = .ok () dropped)
    (refreshes : refreshLeverage price dropped = .ok () book')
    : book.Deals caller owner bad? book' :=
  .tail (.head (.reseat book caller) (Deals.dropIfEmpty drops)) (.refresh refreshes)

/-- An accrual grows both sides and stores the leverage and the time. -/
theorem Deeds.accrue {now : Timestamp} {price : Q96} {moved : Bool}
    (accrued : accrue now price book = .ok moved book')
    : book.Deeds caller owner book' := by
  rcases accrue_ok accrued with ⟨_, rfl⟩ | ⟨_, _, _, middle, grown, rfl⟩
  · exact .refl
  · obtain ⟨_, _, _, first, second, _, _, _, base, quote, refreshed⟩ := accrueFor_ok grown
    exact .tail (.tail (.tail (.single (.grow base)) (.grow quote)) (.refresh refreshed))
      (.stamp ..)

theorem Entries.accrue {now : Timestamp} {price : Q96} {moved : Bool}
    (accrued : accrue now price book = .ok moved book')
    : book.Entries book' := by
  have deeds : book.Deeds .feeHolder .feeHolder book' := Deeds.accrue accrued
  exact deeds.entries

end Doing

end Book

end MarginLending
