import MarginLending.Proofs.Book.Leverage
import MarginLending.Proofs.Pool.Entries
import MarginLending.Proofs.Pool.Runs

/-!
The liquidation pass ends by itself, and where it ends nothing is due. Every margin call takes the
account that it liquidates out of its heap and moves no other node, so the pass calls each ranked
account once at most, and the fuel that bounds its loops never runs out.
-/

namespace MarginLending

theorem LeverageHeap.mem_accounts_of_peek? {heap : LeverageHeap} {root : HeapNode}
    (atRoot : heap.peek? = some root)
    : root.account ∈ heap.accounts :=
  mem_accounts_of_getElem? atRoot

namespace Book

-----
-- A removal takes one account out of one heap
-----

/-- All accounts that the heaps rank. -/
def ranked (book : Book) : List AccountId :=
  (book.heap .base).accounts ++ (book.heap .quote).accounts

theorem length_ranked (book : Book)
    : book.ranked.length = (book.heap .base).size + (book.heap .quote).size := by
  rw [ranked, List.length_append, LeverageHeap.length_accounts, LeverageHeap.length_accounts]

section Removal

variable {book book' : Book} {account : AccountId} {asset : Asset}

theorem mem_ranked (member : account ∈ (book.heap asset).accounts) : account ∈ book.ranked := by
  unfold ranked
  cases asset with
  | base => exact List.mem_append_left _ member
  | quote => exact List.mem_append_right _ member

/-- An account left the heap of an asset, and nobody else left or entered a heap. -/
structure Unranked (book : Book) (account : AccountId) (asset : Asset) (book' : Book) : Prop where
  here : (book.heap asset).accounts.Perm (account :: (book'.heap asset).accounts)
  there : (book'.heap asset.other).accounts = (book.heap asset.other).accounts

theorem Unranked.ranked (unranked : book.Unranked account asset book')
    : book.ranked.Perm (account :: book'.ranked) := by
  obtain ⟨here, there⟩ := unranked
  unfold Book.ranked
  cases asset with
  | base =>
      rw [show (book'.heap .quote).accounts = _ from there]
      exact here.append_right _
  | quote =>
      rw [show (book'.heap .base).accounts = _ from there]
      exact (here.append_left _).trans List.perm_middle

theorem Unranked.size_lt (unranked : book.Unranked account asset book')
    : (book'.heap asset).size < (book.heap asset).size := by
  have lengths := unranked.here.length_eq
  rw [List.length_cons, LeverageHeap.length_accounts, LeverageHeap.length_accounts] at lengths
  omega

theorem Seated.unranked_removePosition (seated : book.Seated none)
    (member : account ∈ (book.heap asset).accounts)
    (removed : Book.removePosition account book = .ok () book')
    : book.Unranked account asset book' := by
  rcases removePosition_ok removed with
    ⟨absent, _⟩ | ⟨position, base, quote, evicted, found, _, _, evicting, rfl⟩
  · have isSome := seated.position?_isSome member
    rw [absent] at isSome
    cases isSome
  · generalize middle_eq : (book.setLedger .base base).setLedger .quote quote = middle at evicting
    have heaps : middle.heap = book.heap := middle_eq ▸ rfl
    have seatedMiddle : middle.Seated none := middle_eq ▸ seated.of_same (fun _ => rfl) rfl
    have slot : middle.heapIndexOf account = position.heapIndex :=
      middle_eq ▸ heapIndexOf_of_position? found
    rw [← heaps] at member
    rw [← slot, (seatedMiddle.heapSide?_eq_some_iff asset).mpr member] at evicting
    obtain ⟨node, atSlot, rfl⟩ := seatedMiddle.get?_heapIndexOf member
    change evicted = middle.applyUpdate asset ((middle.heap asset).remove _) at evicting
    have left := (LeverageHeap.remove_perm atSlot).map HeapNode.account
    constructor
    · rw [heap_erasePosition, evicting, heap_applyUpdate_same, ← heaps]
      exact left
    · rw [heap_erasePosition, evicting, heap_applyUpdate_other, heaps]

theorem Unranked.of_heaps_eq {later : Book} (unranked : book.Unranked account asset book')
    (same : later.heaps = book'.heaps)
    : book.Unranked account asset later := by
  have heaps : later.heap = book'.heap := by
    funext side
    rw [heap, heap, same]
  exact ⟨heaps ▸ unranked.here, heaps ▸ unranked.there⟩

end Removal

end Book

namespace Pool

section Passes

variable {V : Type} [Venue V] {pool pool' : Pool V} {terms : Terms} {asset : Asset}
  {liquidated accounts : List AccountId}

/-- A margin call takes the account that it liquidates out of its heap and moves no other node. -/
theorem unranked_marginCall {account : AccountId} (consistent : pool.book.Consistent none)
    (member : account ∈ (pool.book.heap asset).accounts)
    (called : marginCall terms account pool = .ok () pool')
    : pool.book.Unranked account asset pool'.book := by
  obtain ⟨removed, removes, placing⟩ := placements_marginCall called
  have unranked := consistent.seated.unranked_removePosition member removes
  rcases placing with placed | ⟨_, middle, placed, froze⟩
  · exact unranked.of_heaps_eq placed.heaps
  · obtain ⟨_, _, rfl⟩ := freeze_ok froze
    exact unranked.of_heaps_eq placed.heaps

-----
-- What a pass does, without a bound on its length
-----

/-- What running an action of a pass comes to. -/
abbrev PassEnd (V : Type) := EStateM.Result PoolError (Pool V) (List AccountId)

/-- Sweeping one heap: while its root is due, the root's account is margin called. The accounts that
were called are kept, the first one first, whether the sweep goes through or fails.
-/
inductive SweepsHeap (terms : Terms) (debtAsset : Asset)
    : List AccountId → Pool V → List AccountId → PassEnd V → Prop
  | frozen {liquidated : List AccountId} {pool : Pool V}
      (frozen : pool.book.mode.isEmergency = true)
    : SweepsHeap terms debtAsset liquidated pool [] (.ok liquidated pool)
  | empty {liquidated : List AccountId} {pool : Pool V}
      (regular : pool.book.mode.isEmergency = false)
      (empty : (pool.book.heap debtAsset).peek? = none)
    : SweepsHeap terms debtAsset liquidated pool [] (.ok liquidated pool)
  | settled {liquidated : List AccountId} {pool : Pool V} {root : HeapNode}
      (regular : pool.book.mode.isEmergency = false)
      (atRoot : (pool.book.heap debtAsset).peek? = some root)
      (settled : rootIsDue terms debtAsset root pool.book = .ok false)
    : SweepsHeap terms debtAsset liquidated pool [] (.ok liquidated pool)
  | unknown {liquidated : List AccountId} {pool : Pool V} {root : HeapNode} {error : PoolError}
      (regular : pool.book.mode.isEmergency = false)
      (atRoot : (pool.book.heap debtAsset).peek? = some root)
      (unknown : rootIsDue terms debtAsset root pool.book = .error error)
    : SweepsHeap terms debtAsset liquidated pool [] (.error error pool)
  | failed {liquidated : List AccountId} {pool pool' : Pool V} {root : HeapNode} {error : PoolError}
      (regular : pool.book.mode.isEmergency = false)
      (atRoot : (pool.book.heap debtAsset).peek? = some root)
      (due : rootIsDue terms debtAsset root pool.book = .ok true)
      (fails : marginCall terms root.account pool = .error error pool')
    : SweepsHeap terms debtAsset liquidated pool [root.account] (.error error pool')
  | called {liquidated accounts : List AccountId} {pool middle : Pool V} {root : HeapNode}
      {ending : PassEnd V}
      (regular : pool.book.mode.isEmergency = false)
      (atRoot : (pool.book.heap debtAsset).peek? = some root)
      (due : rootIsDue terms debtAsset root pool.book = .ok true)
      (calls : marginCall terms root.account pool = .ok () middle)
      (rest : SweepsHeap terms debtAsset (root.account :: liquidated) middle accounts ending)
    : SweepsHeap terms debtAsset liquidated pool (root.account :: accounts) ending

/-- Sweeping both heaps in turns, until the pool is frozen or neither sweep called anybody. -/
inductive SweepsBoth (terms : Terms)
    : List AccountId → Pool V → List AccountId → PassEnd V → Prop
  | baseFails {liquidated accounts : List AccountId} {pool pool' : Pool V} {error : PoolError}
      (base : SweepsHeap terms .base liquidated pool accounts (.error error pool'))
    : SweepsBoth terms liquidated pool accounts (.error error pool')
  | quoteFails {liquidated first second swept : List AccountId} {pool middle pool' : Pool V}
      {error : PoolError}
      (base : SweepsHeap terms .base liquidated pool first (.ok swept middle))
      (quote : SweepsHeap terms .quote swept middle second (.error error pool'))
    : SweepsBoth terms liquidated pool (first ++ second) (.error error pool')
  | done {liquidated first second swept last : List AccountId} {pool middle pool' : Pool V}
      (base : SweepsHeap terms .base liquidated pool first (.ok swept middle))
      (quote : SweepsHeap terms .quote swept middle second (.ok last pool'))
      (ends : pool'.book.mode.isEmergency = true ∨ first ++ second = [])
    : SweepsBoth terms liquidated pool (first ++ second) (.ok last pool')
  | again {liquidated first second swept last accounts : List AccountId}
      {pool middle pool' : Pool V} {ending : PassEnd V}
      (base : SweepsHeap terms .base liquidated pool first (.ok swept middle))
      (quote : SweepsHeap terms .quote swept middle second (.ok last pool'))
      (regular : pool'.book.mode.isEmergency = false) (calls : first ++ second ≠ [])
      (rest : SweepsBoth terms last pool' accounts ending)
    : SweepsBoth terms liquidated pool (first ++ second ++ accounts) ending

/-- A whole pass: both heaps are swept, and the leverage is stored unless the pool is frozen. -/
inductive Passes (terms : Terms) : Pool V → List AccountId → PassEnd V → Prop
  | fails {accounts : List AccountId} {pool pool' : Pool V} {error : PoolError}
      (sweeps : SweepsBoth terms [] pool accounts (.error error pool'))
    : Passes terms pool accounts (.error error pool')
  | frozen {accounts swept : List AccountId} {pool pool' : Pool V}
      (sweeps : SweepsBoth terms [] pool accounts (.ok swept pool'))
      (frozen : pool'.book.mode.isEmergency = true)
    : Passes terms pool accounts (.ok swept pool')
  | unknown {accounts swept : List AccountId} {pool pool' : Pool V} {book : Book}
      {error : PoolError}
      (sweeps : SweepsBoth terms [] pool accounts (.ok swept pool'))
      (regular : pool'.book.mode.isEmergency = false)
      (fails : Book.refreshLeverage terms.price pool'.book = .error error book)
    : Passes terms pool accounts (.error error (pool'.withBook book))
  | refreshed {accounts swept : List AccountId} {pool pool' : Pool V} {book : Book}
      (sweeps : SweepsBoth terms [] pool accounts (.ok swept pool'))
      (regular : pool'.book.mode.isEmergency = false)
      (refreshed : Book.refreshLeverage terms.price pool'.book = .ok () book)
    : Passes terms pool accounts (.ok swept (pool'.withBook book))

-----
-- Nobody is called twice
-----

/-- The accounts that were called were ranked, each once; and where the sweep goes through, those
that are still ranked are the others, and the accounts are answered, the latest first.
-/
inductive Accounted (liquidated : List AccountId) (pool : Pool V) (accounts : List AccountId)
    : PassEnd V → Prop
  | ok {pool' : Pool V} (ranked : pool.book.ranked.Perm (accounts ++ pool'.book.ranked))
      (consistent : pool'.book.Consistent none) (written : Writes pool pool')
    : Accounted liquidated pool accounts (.ok (accounts.reverse ++ liquidated) pool')
  | error {pool' : Pool V} {error : PoolError} {rest : List AccountId}
      (ranked : pool.book.ranked.Perm (accounts ++ rest))
    : Accounted liquidated pool accounts (.error error pool')

omit [Venue V] in
theorem Accounted.refl (consistent : pool.book.Consistent none)
    : Accounted liquidated pool [] (.ok liquidated pool) :=
  .ok .rfl consistent .refl

omit [Venue V] in
/-- What two sweeps in a row called is accounted for together. -/
theorem Accounted.trans {first second swept : List AccountId} {middle : Pool V}
    {ending : PassEnd V} (before : Accounted liquidated pool first (.ok swept middle))
    (after : Accounted swept middle second ending)
    : Accounted liquidated pool (first ++ second) ending := by
  cases before with
  | ok ranked _ written =>
      cases after with
      | ok rankedAfter consistent writtenAfter =>
          rw [← List.append_assoc, ← List.reverse_append]
          refine .ok ?_ consistent (written.trans writtenAfter)
          rw [List.append_assoc]
          exact ranked.trans (rankedAfter.append_left first)
      | @error _ _ rest rankedAfter =>
          have all := ranked.trans (rankedAfter.append_left first)
          rw [← List.append_assoc] at all
          exact .error all

omit [Venue V] in
theorem Accounted.consistent {swept : List AccountId}
    (accounted : Accounted liquidated pool accounts (.ok swept pool'))
    : pool'.book.Consistent none := by
  cases accounted with
  | ok _ consistent _ => exact consistent

/-- A margin call of a ranked account is accounted for. -/
theorem Accounted.call {account : AccountId} (consistent : pool.book.Consistent none)
    (member : account ∈ (pool.book.heap asset).accounts)
    (called : marginCall terms account pool = .ok () pool')
    : Accounted liquidated pool [account] (.ok (account :: liquidated) pool') :=
  .ok (unranked_marginCall consistent member called).ranked
    (consistent_marginCall consistent called) ((steps_marginCall ..).of_ok called)

/-- The calls of a sweep are accounted for, by induction on the sweep. -/
theorem SweepsHeap.accounted {ending : PassEnd V}
    (sweeps : SweepsHeap terms asset liquidated pool accounts ending)
    (consistent : pool.book.Consistent none)
    : Accounted liquidated pool accounts ending := by
  induction sweeps with
  | frozen => exact .refl consistent
  | empty => exact .refl consistent
  | settled => exact .refl consistent
  | unknown => exact .error .rfl
  | failed _ atRoot _ _ =>
      have member := Book.mem_ranked (LeverageHeap.mem_accounts_of_peek? atRoot)
      exact .error (List.perm_cons_erase member)
  | called _ atRoot _ calls _ ih =>
      have member := LeverageHeap.mem_accounts_of_peek? atRoot
      exact (Accounted.call consistent member calls).trans
        (ih (consistent_marginCall consistent calls))

/-- The calls of alternating sweeps are accounted for, by induction on the turns. -/
theorem SweepsBoth.accounted {ending : PassEnd V}
    (sweeps : SweepsBoth terms liquidated pool accounts ending)
    (consistent : pool.book.Consistent none)
    : Accounted liquidated pool accounts ending := by
  induction sweeps with
  | baseFails base => exact base.accounted consistent
  | quoteFails base quote =>
      have first := base.accounted consistent
      exact first.trans (quote.accounted first.consistent)
  | done base quote _ =>
      have first := base.accounted consistent
      exact first.trans (quote.accounted first.consistent)
  | again base quote _ _ _ ih =>
      have first := base.accounted consistent
      have both := first.trans (quote.accounted first.consistent)
      exact both.trans (ih both.consistent)

/-- The calls of a pass are those of its sweeps; storing the leverage calls nobody. -/
theorem Passes.accounted {ending : PassEnd V} (passes : Passes terms pool accounts ending)
    (consistent : pool.book.Consistent none)
    : Accounted [] pool accounts ending := by
  cases passes with
  | fails sweeps => exact sweeps.accounted consistent
  | frozen sweeps _ => exact sweeps.accounted consistent
  | unknown sweeps _ _ =>
      cases sweeps.accounted consistent with
      | ok ranked _ _ => exact .error ranked
  | @refreshed _ _ _ pool' book sweeps _ refreshed =>
      cases sweeps.accounted consistent with
      | ok ranked consistentEnd written =>
          have stored := Writes.of_book pool' ((Book.steps_refreshLeverage ..).of_ok refreshed)
          refine .ok ?_ (consistentEnd.refreshLeverage refreshed) (written.trans stored)
          obtain ⟨_, rfl⟩ := Book.refreshLeverage_ok refreshed
          exact ranked

omit [Venue V] in
/-- Nobody is called twice, and no more accounts than are ranked. -/
theorem Accounted.nodup_and_length_le {ending : PassEnd V}
    (accounted : Accounted liquidated pool accounts ending) (consistent : pool.book.Consistent none)
    : accounts.Nodup ∧ accounts.length ≤ pool.book.ranked.length := by
  have calls : ∃ rest, pool.book.ranked.Perm (accounts ++ rest) := by
    cases accounted with
    | ok ranked _ _ => exact ⟨_, ranked⟩
    | error ranked => exact ⟨_, ranked⟩
  obtain ⟨rest, ranked⟩ := calls
  refine ⟨(List.nodup_append.mp (ranked.nodup_iff.mp consistent.seated.nodup)).1, ?_⟩
  rw [ranked.length_eq, List.length_append]
  exact Nat.le_add_right _ _

-----
-- The fuel never runs out
-----

theorem sweepHeap_succ (debtAsset : Asset) (fuel : Nat) (liquidated : List AccountId)
    (pool : Pool V)
    : sweepHeap terms debtAsset (fuel + 1) liquidated pool
      = if pool.book.mode.isEmergency then .ok liquidated pool
        else
          match (pool.book.heap debtAsset).peek? with
          | none => .ok liquidated pool
          | some root =>
              match rootIsDue terms debtAsset root pool.book with
              | .error error => .error error pool
              | .ok false => .ok liquidated pool
              | .ok true =>
                  match marginCall terms root.account pool with
                  | .error error pool' => .error error pool'
                  | .ok () middle =>
                      sweepHeap terms debtAsset fuel (root.account :: liquidated) middle := by
  conv_lhs => unfold sweepHeap
  change (if pool.book.mode.isEmergency then _ else _ : PoolM V (List AccountId)) pool = _
  split
  · rfl
  · cases (pool.book.heap debtAsset).peek? with
    | none => rfl
    | some root =>
        simp only
        cases rootIsDue terms debtAsset root pool.book with
        | error error => rfl
        | ok due =>
            cases due with
            | false => rfl
            | true =>
                change EStateM.bind (marginCall terms root.account) _ pool = _
                unfold EStateM.bind
                cases marginCall terms root.account pool <;> rfl

/-- The fuel of a sweep is enough for all nodes of its heap, by induction on the fuel: each call
takes a node away.
-/
theorem sweepsHeap_sweepHeap {fuel : Nat} (consistent : pool.book.Consistent none)
    (enough : (pool.book.heap asset).size ≤ fuel)
    : ∃ accounts, SweepsHeap terms asset liquidated pool accounts
        (sweepHeap terms asset fuel liquidated pool) := by
  induction fuel generalizing pool liquidated with
  | zero =>
      refine ⟨[], ?_⟩
      cases mode : pool.book.mode.isEmergency with
      | true => exact .frozen mode
      | false =>
          refine .empty mode (Array.getElem?_eq_none_iff.mpr ?_)
          exact enough
  | succ fuel ih =>
      rw [sweepHeap_succ]
      split
      · next frozen => exact ⟨[], .frozen frozen⟩
      · next regular =>
          have regular := isEmergency_of_not regular
          split
          · next empty => exact ⟨[], .empty regular empty⟩
          · next root atRoot =>
              split
              · next unknown => exact ⟨[], .unknown regular atRoot unknown⟩
              · next settled => exact ⟨[], .settled regular atRoot settled⟩
              · next due =>
                  split
                  · next fails => exact ⟨_, .failed regular atRoot due fails⟩
                  · next middle calls =>
                      have fewer := (unranked_marginCall consistent
                        (LeverageHeap.mem_accounts_of_peek? atRoot) calls).size_lt
                      obtain ⟨accounts, rest⟩ :=
                        ih (consistent_marginCall consistent calls) (by omega)
                      exact ⟨_, .called regular atRoot due calls rest⟩

theorem sweepsHeap_sweepSide (terms : Terms) (asset : Asset) (liquidated : List AccountId)
    (consistent : pool.book.Consistent none)
    : ∃ accounts, SweepsHeap terms asset liquidated pool accounts
        (sweepSide terms asset liquidated pool) :=
  sweepsHeap_sweepHeap consistent (Nat.le_refl _)

theorem sweepBoth_succ (fuel : Nat) (liquidated : List AccountId) (pool : Pool V)
    : sweepBoth terms (fuel + 1) liquidated pool
      = match sweepSide terms .base liquidated pool with
        | .error error pool' => .error error pool'
        | .ok swept middle =>
            match sweepSide terms .quote swept middle with
            | .error error pool' => .error error pool'
            | .ok last pool' =>
                if pool'.book.mode.isEmergency || last.length == liquidated.length then
                  .ok last pool'
                else sweepBoth terms fuel last pool' := by
  conv_lhs => unfold sweepBoth
  change EStateM.bind _ _ pool = _
  unfold EStateM.bind
  cases sweepSide terms .base liquidated pool with
  | error error pool' => rfl
  | ok swept middle =>
      simp only
      change EStateM.bind _ _ middle = _
      unfold EStateM.bind
      cases sweepSide terms .quote swept middle with
      | error error pool' => rfl
      | ok last pool' =>
          simp only
          change
            (if pool'.book.mode.isEmergency || _ then _ else _ : PoolM V (List AccountId)) pool'
              = _
          split <;> rfl

/-- The fuel of alternating sweeps is enough, by induction on the fuel: every turn but the last
takes a node away.
-/
theorem sweepsBoth_sweepBoth {fuel : Nat} (consistent : pool.book.Consistent none)
    (enough : pool.book.ranked.length < fuel)
    : ∃ accounts, SweepsBoth terms liquidated pool accounts
        (sweepBoth terms fuel liquidated pool) := by
  induction fuel generalizing pool liquidated with
  | zero => exact absurd enough (Nat.not_lt_zero _)
  | succ fuel ih =>
      rw [sweepBoth_succ]
      obtain ⟨first, base⟩ := sweepsHeap_sweepSide terms .base liquidated consistent
      have atMiddle := base.accounted consistent
      split
      · next fails =>
          rw [fails] at base
          exact ⟨first, .baseFails base⟩
      · next swept middle sweepsBase =>
          rw [sweepsBase] at base atMiddle
          obtain ⟨second, quote⟩ := sweepsHeap_sweepSide terms .quote swept atMiddle.consistent
          have atEnd := atMiddle.trans (quote.accounted atMiddle.consistent)
          split
          · next fails =>
              rw [fails] at quote
              exact ⟨_, .quoteFails base quote⟩
          · next last pool' sweepsQuote =>
              rw [sweepsQuote] at quote atEnd
              generalize accounts_eq : first ++ second = accounts at atEnd
              cases atEnd with
              | ok ranked consistentEnd _ =>
                  have lengths := ranked.length_eq
                  rw [List.length_append] at lengths
                  split
                  · next ends =>
                      refine ⟨_, .done base quote ?_⟩
                      rw [Bool.or_eq_true, beq_iff_eq, List.length_append, List.length_reverse]
                        at ends
                      rw [accounts_eq, ← List.length_eq_zero_iff]
                      exact ends.imp_right fun same => by omega
                  · next goesOn =>
                      rw [Bool.or_eq_true, beq_iff_eq, List.length_append, List.length_reverse,
                        not_or] at goesOn
                      obtain ⟨regular, longer⟩ := goesOn
                      obtain ⟨third, rest⟩ := ih consistentEnd (by omega)
                      refine ⟨_, .again base quote (isEmergency_of_not regular) ?_ rest⟩
                      rw [accounts_eq, ne_eq, ← List.length_eq_zero_iff]
                      omega

/-- What the pass computes is a pass: its loops end before their fuel does. -/
theorem passes_liquidateDue (terms : Terms) (consistent : pool.book.Consistent none)
    : ∃ accounts, Passes terms pool accounts (liquidateDue terms pool) := by
  have enough : pool.book.ranked.length
      < (pool.book.heap .base).size + (pool.book.heap .quote).size + 1 := by
    rw [Book.length_ranked]
    exact Nat.lt_succ_self _
  obtain ⟨accounts, sweeps⟩ := sweepsBoth_sweepBoth consistent enough
  refine ⟨accounts, ?_⟩
  unfold liquidateDue
  change Passes terms pool accounts (EStateM.bind (sweepBoth _ _ _) _ pool)
  unfold EStateM.bind
  cases result : sweepBoth terms ((pool.book.heap .base).size + (pool.book.heap .quote).size + 1) []
      pool with
  | error error pool' =>
      rw [result] at sweeps
      exact .fails sweeps
  | ok swept pool' =>
      rw [result] at sweeps
      simp only
      change Passes terms pool accounts
        ((if pool'.book.mode.isEmergency then _ else _ : PoolM V (List AccountId)) pool')
      split
      · next frozen => exact .frozen sweeps frozen
      · next regular =>
          have regular := isEmergency_of_not regular
          change Passes terms pool accounts (EStateM.bind _ _ pool')
          unfold EStateM.bind
          simp only [liftM, monadLift, MonadLift.monadLift]
          cases refresh : Book.refreshLeverage terms.price pool'.book with
          | error error book => exact .unknown sweeps regular refresh
          | ok value book => exact .refreshed sweeps regular refresh

-----
-- Where a pass ends nothing is due
-----

/-- On the side that owes an asset nothing is due: nobody is ranked, or the root is not due. -/
def Rests (terms : Terms) (debtAsset : Asset) (book : Book) : Prop :=
  (book.heap debtAsset).peek? = none
    ∨ ∃ root, (book.heap debtAsset).peek? = some root
        ∧ rootIsDue terms debtAsset root book = .ok false

omit [Venue V] in
theorem rootIsDue_eq_false {root : HeapNode} {book : Book} {position : Position}
    (found : book.position? root.account = some position)
    (settled : rootIsDue terms asset root book = .ok false)
    : book.isLiquidatable position terms.price = .ok false
      ∧ ∃ leverage, book.systemLeverage asset terms.price = .ok leverage
          ∧ leverage ≤ book.parameters.leverageBound := by
  unfold rootIsDue at settled
  simp only [found, Except.bind_eq_ok, Except.pure_eq_ok, Bool.or_eq_false_iff,
    decide_eq_false_iff_not] at settled
  obtain ⟨_, within, leverage, known, rfl, below⟩ := settled
  exact ⟨within, leverage, known, Nat.le_of_not_lt below⟩

/-- A sweep that called nobody and left the pool regular found its side at rest. -/
theorem SweepsHeap.rests {swept : List AccountId}
    (sweeps : SweepsHeap terms asset liquidated pool [] (.ok swept pool'))
    (regular : pool'.book.mode.isEmergency = false)
    : pool' = pool ∧ Rests terms asset pool.book := by
  cases sweeps with
  | frozen frozen =>
      rw [frozen] at regular
      cases regular
  | empty _ empty => exact ⟨rfl, .inl empty⟩
  | settled _ atRoot settled => exact ⟨rfl, .inr ⟨_, atRoot, settled⟩⟩

/-- Alternating sweeps that leave the pool regular leave both sides at rest, by induction on the
turns: the last turn called nobody.
-/
theorem SweepsBoth.rests {ending : PassEnd V} {swept : List AccountId}
    (sweeps : SweepsBoth terms liquidated pool accounts ending) (ends : ending = .ok swept pool')
    (regular : pool'.book.mode.isEmergency = false)
    : ∀ asset, Rests terms asset pool'.book := by
  induction sweeps with
  | baseFails => cases ends
  | quoteFails => cases ends
  | done base quote stops =>
      cases ends
      rcases stops with frozen | nobody
      · rw [frozen] at regular
        cases regular
      · obtain ⟨rfl, rfl⟩ := List.append_eq_nil_iff.mp nobody
        obtain ⟨rfl, quoteRests⟩ := quote.rests regular
        obtain ⟨rfl, baseRests⟩ := base.rests regular
        intro asset
        cases asset with
        | base => exact baseRests
        | quote => exact quoteRests
  | again _ _ _ _ _ ih => exact ih ends

/-- On a side at rest the root and the side as a whole are within the bound; a side that nobody is
ranked on owes nothing.
-/
theorem Rests.within {book : Book} {leverage : Q96} (rests : Rests terms asset book)
    (consistent : book.Consistent none) (valid : book.parameters.violation? = none)
    (known : book.systemLeverage asset terms.price = .ok leverage)
    : leverage ≤ book.parameters.leverageBound
      ∧ ∀ root, (book.heap asset).peek? = some root →
          ∃ position, book.position? root.account = some position
            ∧ book.isLiquidatable position terms.price = .ok false := by
  rcases rests with empty | ⟨root, atRoot, settled⟩
  · rw [Book.systemLeverage_of_unowed (consistent.discountedDebt_of_empty empty) known]
    refine ⟨Parameters.one_le_leverageBound valid, fun root atRoot => ?_⟩
    rw [empty] at atRoot
    cases atRoot
  · have member := LeverageHeap.mem_accounts_of_peek? atRoot
    obtain ⟨position, found⟩ :=
      Option.isSome_iff_exists.mp (consistent.seated.position?_isSome member)
    obtain ⟨within, system, knownSystem, below⟩ := rootIsDue_eq_false found settled
    obtain rfl := Except.ok.inj (known.symm.trans knownSystem)
    refine ⟨below, fun other atOther => ?_⟩
    obtain rfl := Option.some.inj (atRoot.symm.trans atOther)
    exact ⟨position, found, within⟩

/-- Storing the leverage computes it for both sides. -/
theorem refreshLeverage_systemLeverage {book book' : Book} {price : Q96}
    (refreshed : Book.refreshLeverage price book = .ok () book') (asset : Asset)
    : ∃ leverage, book.systemLeverage asset price = .ok leverage := by
  obtain ⟨short, long, knownShort, knownLong, _⟩ := Book.refreshLeverage_eq refreshed
  cases asset with
  | base => exact ⟨short, knownShort⟩
  | quote => exact ⟨long, knownLong⟩

/-- A pass that leaves the pool regular leaves both sides at rest, with their leverage known. -/
theorem Passes.rests {swept : List AccountId}
    (passes : Passes terms pool accounts (.ok swept pool'))
    (regular : pool'.book.mode.isEmergency = false) (asset : Asset)
    : Rests terms asset pool'.book
      ∧ ∃ leverage, pool'.book.systemLeverage asset terms.price = .ok leverage := by
  cases passes with
  | frozen _ frozen =>
      rw [frozen] at regular
      cases regular
  | refreshed sweeps before refreshed =>
      have rests := sweeps.rests rfl before asset
      obtain ⟨leverage, known⟩ := refreshLeverage_systemLeverage refreshed asset
      obtain ⟨_, rfl⟩ := Book.refreshLeverage_ok refreshed
      exact ⟨rests, leverage, known⟩

/-- A pass that went through and left the pool regular left both sides and both roots within the
bound.
-/
theorem within_of_liquidateDue (consistent : pool.book.Consistent none)
    (valid : pool.book.parameters.violation? = none)
    (went : liquidateDue terms pool = .ok liquidated pool')
    (regular : pool'.book.mode.isEmergency = false) (asset : Asset)
    : (∃ leverage, pool'.book.systemLeverage asset terms.price = .ok leverage
        ∧ leverage ≤ pool'.book.parameters.leverageBound)
      ∧ ∀ root, (pool'.book.heap asset).peek? = some root →
          ∃ position, pool'.book.position? root.account = some position
            ∧ pool'.book.isLiquidatable position terms.price = .ok false := by
  obtain ⟨accounts, passes⟩ := passes_liquidateDue terms consistent
  have accounted := passes.accounted consistent
  rw [went] at passes accounted
  obtain ⟨rests, leverage, known⟩ := passes.rests regular asset
  have written : Writes pool pool' := (steps_liquidateDue ..).of_ok went
  obtain ⟨below, roots⟩ := rests.within accounted.consistent (written.book.valid valid) known
  exact ⟨⟨leverage, known, below⟩, roots⟩

/-- Where a pass may begin: at a pool between two calls, or within a call that has just accrued. -/
inductive PassBegins (terms : Terms) (pool : Pool V) : Pool V → Prop
  | between : PassBegins terms pool pool
  | accrued {book : Book} {payload : EventPayload}
      (accrues : Book.accrue terms.now terms.price pool.book.openJournal = .ok true book)
    : PassBegins terms pool
        (((pool.withBook pool.book.openJournal).withBook book).recording payload)

omit [Venue V] in
/-- A pass begins at a consistent book with valid parameters. -/
theorem PassBegins.sound {start : Pool V} (begins : PassBegins terms pool start)
    (sound : pool.Sound)
    : start.book.Consistent none ∧ start.book.parameters.violation? = none := by
  cases begins with
  | between => exact ⟨sound.consistent, sound.valid⟩
  | accrued accrues =>
      have written := (Book.steps_accrue ..).of_ok accrues
      exact ⟨sound.consistent.openJournal.accrue accrues,
        Book.Writes.valid written sound.valid⟩

/-- Wherever a pass begins, its loops end by themselves. It margin calls nobody twice, so that there
are no more calls than nodes; and if it leaves the pool regular, both sides as a whole are within
the leverage bound, and so is the root of each heap.
-/
theorem liquidation_ends_at_rest (reachable : Reachable pool) {start : Pool V}
    (begins : PassBegins terms pool start)
    : ∃ accounts, Passes terms start accounts (liquidateDue terms start)
        ∧ accounts.Nodup
        ∧ accounts.length ≤ (start.book.heap .base).size + (start.book.heap .quote).size
        ∧ ∀ liquidated pool', liquidateDue terms start = .ok liquidated pool' →
            liquidated = accounts.reverse
            ∧ (pool'.book.mode.isEmergency = false →
                ∀ asset,
                  (∃ leverage, pool'.book.systemLeverage asset terms.price = .ok leverage
                    ∧ leverage ≤ pool'.book.parameters.leverageBound)
                  ∧ ∀ root, (pool'.book.heap asset).peek? = some root →
                      ∃ position, pool'.book.position? root.account = some position
                        ∧ pool'.book.isLiquidatable position terms.price = .ok false) := by
  obtain ⟨consistent, valid⟩ := begins.sound reachable.sound
  obtain ⟨accounts, passes⟩ := passes_liquidateDue terms consistent
  have accounted := passes.accounted consistent
  obtain ⟨once, bounded⟩ := accounted.nodup_and_length_le consistent
  rw [Book.length_ranked] at bounded
  refine ⟨accounts, passes, once, bounded, ?_⟩
  intro liquidated pool' went
  rw [went] at accounted
  cases accounted with
  | ok =>
      exact ⟨List.append_nil _, fun regular => within_of_liquidateDue consistent valid went regular⟩

/-- The sample trades, after which base gains a tenth of its price. -/
def sampleRise : List (Command SimulatedVenue) :=
  sampleTrades ++ [.changeVenue { sample.venue with price := ⟨11 * Q96.unit / 10⟩ }]

/-- The terms of a call by an outsider at that price. -/
def riseTerms : Terms := ⟨⟨99⟩, ⟨11 * Q96.unit / 10⟩, 0, ⟨secondsInDay⟩⟩

/-- The pool of that call once it has accrued. -/
def risen : Pool SimulatedVenue :=
  let pool := sample.after sampleRise
  let accrued := endState (Book.accrue riseTerms.now riseTerms.price pool.book.openJournal)
  let elapsed := riseTerms.now.since pool.book.lastAccrual
  ((pool.withBook pool.book.openJournal).withBook accrued).recording
    (.reinit elapsed accrued.leverage)

/-- The second trader is over the bound at the new price, and the pass calls nobody else. -/
theorem liquidation_ends_at_rest_rise
    : ∃ pool', Passes riseTerms risen [⟨21⟩] (.ok [⟨21⟩] pool')
        ∧ ∃ leverage, pool'.book.systemLeverage .base riseTerms.price = .ok leverage
            ∧ leverage ≤ pool'.book.parameters.leverageBound := by
  have accrues : Book.accrue riseTerms.now riseTerms.price
      (sample.after sampleRise).book.openJournal
      = .ok true (endState (Book.accrue riseTerms.now riseTerms.price
          (sample.after sampleRise).book.openJournal)) := by decide +kernel
  obtain ⟨accounts, passes, _, _, ends⟩ :=
    liquidation_ends_at_rest (reachable_sample.after sampleRise) (.accrued accrues)
  have result : liquidateDue riseTerms risen
      = .ok [⟨21⟩] (endState (liquidateDue riseTerms risen)) := by decide +kernel
  have regular : (endState (liquidateDue riseTerms risen)).book.mode.isEmergency = false := by
    decide +kernel
  obtain ⟨liquidated, atRest⟩ := ends _ _ result
  obtain rfl : accounts = [⟨21⟩] := by simpa using (congrArg List.reverse liquidated).symm
  exact ⟨_, result ▸ passes, (atRest regular .base).1⟩

end Passes

end Pool

end MarginLending
