import MarginLending.Call

/-!
What decoding keeps of a request. A second amount and an owner are refused where the kind of call
has no use for them. A first amount, a price limit and an unwrapping flag are not: decoding passes
over them, so that it tells accepted requests apart by their other fields only.
-/

namespace MarginLending

namespace CallKind

/-- Whether calls of a kind have a first amount. -/
def usesAmount : CallKind → Bool
  | .closePosition | .reinit | .emergencyWithdraw => false
  | _ => true

/-- Whether calls of a kind have a price limit. -/
def usesLimit : CallKind → Bool
  | .depositBase | .depositQuote | .short | .long | .closePosition | .sellCollateral => true
  | _ => false

/-- Whether calls of a kind can unwrap what they pay out. -/
def usesUnwrap : CallKind → Bool
  | .withdrawBase | .withdrawQuote | .emergencyWithdraw => true
  | _ => false

/-- Whether calls of a kind have a second amount, and can have an owner. -/
def usesOwner : CallKind → Bool
  | .depositBase | .depositQuote | .receivePosition => true
  | _ => false

/-- Deposits and takeovers are what decoding asks for where a second amount or an owner is given. -/
theorem usesOwner_eq (kind : CallKind)
    : kind.usesOwner = (kind.isDeposit || kind == .receivePosition) := by
  cases kind <;> rfl

end CallKind

namespace Request

/-- The request without the route and without what its kind of call has no use for and decoding does
not refuse.
-/
def heard (request : Request) : Request :=
  { request with
    amount1 := if request.kind.usesAmount then request.amount1 else 0
    priceLimit := if request.kind.usesLimit then request.priceLimit else .zero
    unwrap := request.kind.usesUnwrap && request.unwrap
    route := 0 }

/-- Nothing but the route stands in a field that the kind of call has no use for. -/
structure Tidy (request : Request) : Prop where
  amount : ¬request.kind.usesAmount → request.amount1 = 0
  limit : ¬request.kind.usesLimit → request.priceLimit = .zero
  unwrap : ¬request.kind.usesUnwrap → request.unwrap = false

/-- Then all of it is heard. -/
theorem Tidy.heard_eq {request : Request} (tidy : request.Tidy)
    : request.heard = { request with route := 0 } := by
  have amount : (if request.kind.usesAmount then request.amount1 else 0) = request.amount1 :=
    ite_eq_left_iff.mpr fun unused => (tidy.amount unused).symm
  have limit : (if request.kind.usesLimit then request.priceLimit else .zero)
      = request.priceLimit :=
    ite_eq_left_iff.mpr fun unused => (tidy.limit unused).symm
  have unwrap : (request.kind.usesUnwrap && request.unwrap) = request.unwrap := by
    cases uses : request.kind.usesUnwrap with
    | true => rfl
    | false => rw [tidy.unwrap (by simp [uses]), Bool.and_false]
  unfold heard
  rw [amount, limit, unwrap]

end Request

namespace Call

/-- The request that asks for a call and for nothing else. -/
def request : Call → Request
  | .depositBase amount longAmount limitPrice owner =>
      { Request.ofKind .depositBase with
        amount1 := amount, amount2 := longAmount, priceLimit := limitPrice, owner }
  | .depositQuote amount shortAmount limitPrice owner =>
      { Request.ofKind .depositQuote with
        amount1 := amount, amount2 := shortAmount, priceLimit := limitPrice, owner }
  | .withdrawBase amount unwrap => { Request.ofKind .withdrawBase with amount1 := amount, unwrap }
  | .withdrawQuote amount unwrap => { Request.ofKind .withdrawQuote with amount1 := amount, unwrap }
  | .short amount limitPrice =>
      { Request.ofKind .short with amount1 := amount, priceLimit := limitPrice }
  | .long amount limitPrice =>
      { Request.ofKind .long with amount1 := amount, priceLimit := limitPrice }
  | .closePosition limitPrice => { Request.ofKind .closePosition with priceLimit := limitPrice }
  | .sellCollateral amount limitPrice =>
      { Request.ofKind .sellCollateral with amount1 := amount, priceLimit := limitPrice }
  | .reinit => Request.ofKind .reinit
  | .receivePosition badAccount quoteAmount baseAmount =>
      { Request.ofKind .receivePosition with
        amount1 := quoteAmount, amount2 := baseAmount, owner := some badAccount }
  | .emergencyWithdraw unwrap => { Request.ofKind .emergencyWithdraw with unwrap }

/-- A request is decoded by what is heard of it. -/
theorem ofRequest_heard (request : Request) : ofRequest request.heard = ofRequest request := by
  obtain ⟨kind, amount1, amount2, priceLimit, unwrap, owner, route⟩ := request
  cases kind <;> rfl

/-- An accepted request has no second amount and no owner unless its kind of call has them. -/
theorem unused_of_accepted {request : Request} {call : Call}
    (accepted : ofRequest request = .ok call) (unused : ¬request.kind.usesOwner)
    : request.amount2 = 0 ∧ request.owner = none := by
  obtain ⟨noDeposit, noTakeover⟩
      : request.kind.isDeposit = false ∧ (request.kind == .receivePosition) = false := by
    simpa only [CallKind.usesOwner_eq, Bool.not_eq_true, Bool.or_eq_false_iff] using unused
  simp only [ofRequest, noDeposit, noTakeover] at accepted
  split at accepted
  · cases accepted
  · next owned =>
      split at accepted
      · cases accepted
      · next counted => exact ⟨by simpa using counted, by simpa using owned⟩

/-- What is heard of an accepted request is the request for its call. -/
theorem heard_eq_request {request : Request} {call : Call} (accepted : ofRequest request = .ok call)
    : request.heard = call.request := by
  have unused := unused_of_accepted accepted
  simp only [ofRequest] at accepted
  split at accepted
  · cases accepted
  · split at accepted
    · cases accepted
    · obtain ⟨kind, amount1, amount2, priceLimit, unwrap, owner, route⟩ := request
      cases kind with
      | receivePosition =>
          cases owner with
          | none => cases accepted
          | some account =>
              cases accepted
              rfl
      | depositBase | depositQuote =>
          cases accepted
          rfl
      | _ =>
          obtain ⟨rfl, rfl⟩ := unused Bool.false_ne_true
          cases accepted
          rfl

/-- Two accepted requests decode to one call exactly if the same is heard of them. So they agree in
their kind, their second amount and their owner, which stand nowhere that they are not used; and if
neither is untidy, they agree in everything but the route.
-/
theorem decoding_keeps_heard {left right : Request} {call other : Call}
    (asksCall : ofRequest left = .ok call) (asksOther : ofRequest right = .ok other)
    : (call = other ↔ left.heard = right.heard)
      ∧ (call = other →
          left.kind = right.kind ∧ left.amount2 = right.amount2 ∧ left.owner = right.owner)
      ∧ (¬left.kind.usesOwner → left.amount2 = 0 ∧ left.owner = none)
      ∧ (call = other → left.Tidy → right.Tidy →
          left.kind = right.kind ∧ left.amount1 = right.amount1 ∧ left.amount2 = right.amount2
            ∧ left.priceLimit = right.priceLimit ∧ left.unwrap = right.unwrap
            ∧ left.owner = right.owner) := by
  have heardAlike : call = other ↔ left.heard = right.heard := by
    constructor
    · rintro rfl
      rw [heard_eq_request asksCall, heard_eq_request asksOther]
    · intro same
      rw [← ofRequest_heard, same, ofRequest_heard, asksOther] at asksCall
      exact (Except.ok.inj asksCall).symm
  refine ⟨heardAlike, ?_, unused_of_accepted asksCall, ?_⟩
  · intro same
    have heard := heardAlike.mp same
    simp only [Request.heard, Request.mk.injEq] at heard
    obtain ⟨kind, _, amount2, _, _, owner, _⟩ := heard
    exact ⟨kind, amount2, owner⟩
  · intro same leftTidy rightTidy
    have heard := heardAlike.mp same
    rw [leftTidy.heard_eq, rightTidy.heard_eq, Request.mk.injEq] at heard
    obtain ⟨kind, amount1, amount2, priceLimit, unwrap, owner, _⟩ := heard
    exact ⟨kind, amount1, amount2, priceLimit, unwrap, owner⟩

/-- Two tidy sales of collateral that differ in their routes. -/
theorem decoding_keeps_heard_sale
    : let left :=
        { Request.ofKind .sellCollateral with amount1 := 7, priceLimit := .one, route := 3 }
      let right := { left with route := 4 }
      ofRequest left = .ok (.sellCollateral 7 .one)
      ∧ ofRequest right = .ok (.sellCollateral 7 .one)
      ∧ left.Tidy ∧ right.Tidy
      ∧ left.heard = right.heard
      ∧ left.amount1 = right.amount1 ∧ left.priceLimit = right.priceLimit
      ∧ ¬left.kind.usesOwner ∧ left.amount2 = 0 ∧ left.owner = none := by
  intro left right
  have asksLeft : ofRequest left = .ok (.sellCollateral 7 .one) := rfl
  have asksRight : ofRequest right = .ok (.sellCollateral 7 .one) := rfl
  have leftTidy : left.Tidy := ⟨by decide, by decide, fun _ => rfl⟩
  have rightTidy : right.Tidy := ⟨by decide, by decide, fun _ => rfl⟩
  obtain ⟨heard, _, unused, tidy⟩ := decoding_keeps_heard asksLeft asksRight
  obtain ⟨_, amount, _, limit, _⟩ := tidy rfl leftTidy rightTidy
  exact ⟨asksLeft, asksRight, leftTidy, rightTidy, heard.mp rfl, amount, limit, by decide,
    unused (by decide)⟩

/-- An amount and a flag of a closing, a limit of a withdrawal and a flag of a deposit are dropped.
-/
theorem decoding_drops_stray_fields
    : let close := Request.ofKind .closePosition
      let withdrawal := { Request.ofKind .withdrawBase with amount1 := 10 }
      let deposit := { Request.ofKind .depositBase with amount1 := 10 }
      ofRequest { close with amount1 := 5 } = .ok (.closePosition .zero)
      ∧ ofRequest { close with unwrap := true } = .ok (.closePosition .zero)
      ∧ ofRequest close = .ok (.closePosition .zero)
      ∧ ofRequest { withdrawal with priceLimit := .one } = .ok (.withdrawBase 10 false)
      ∧ ofRequest withdrawal = .ok (.withdrawBase 10 false)
      ∧ ofRequest { deposit with unwrap := true } = .ok (.depositBase 10 0 .zero none)
      ∧ ofRequest deposit = .ok (.depositBase 10 0 .zero none)
      ∧ ¬∀ left right call, ofRequest left = .ok call → ofRequest right = .ok call →
          left.amount1 = right.amount1 := by
  refine ⟨rfl, rfl, rfl, rfl, rfl, rfl, rfl, ?_⟩
  intro keepsAmount
  have same := keepsAmount { Request.ofKind .closePosition with amount1 := 5 }
    (Request.ofKind .closePosition) (.closePosition .zero) rfl rfl
  cases same

end Call

end MarginLending
