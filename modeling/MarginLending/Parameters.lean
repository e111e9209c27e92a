import MarginLending.Fixed.Conversion

/-!
Risk and fee parameters of a pool, their presets, and the rules that acceptable ones obey. Rates,
fees and slippage are fractions.
-/

namespace MarginLending

/-- What the administrator may set. -/
structure Parameters where
  /-- Positions, and each side as a whole, above this leverage are liquidated. -/
  maxLeverage : Nat
  /-- Annual interest on debt at leverage one; a side's leverage multiplies it. -/
  interestRate : Decimal
  /-- Annual fee on debt, paid to the fee holder. -/
  fee : Decimal
  /-- Charged on the quote side of a leveraged trade. -/
  swapFee : Decimal
  /-- How far below the oracle's price a liquidation may sell. -/
  liquidationSlippage : Decimal
  /-- Smallest trade and smallest balance of a position. -/
  minimumAmount : Nat
  /-- Cap on the pool's balance of each asset, valued in quote. -/
  quoteLimit : Nat
  deriving DecidableEq

/-- Which rule a set of parameters breaks. -/
inductive ParameterError where
  | invalidLeverage (value : Nat)
  | fractionOutOfRange (name : String) (value : Decimal)
  | zeroLimit (name : String)
  deriving DecidableEq

/-- The wording of a broken rule. -/
def ParameterError.message : ParameterError → String
  | .invalidLeverage value => "max leverage must be above 1, got " ++ toString value
  | .fractionOutOfRange name value => name ++ " must be within [0, 1], got " ++ value.text
  | .zeroLimit name => name ++ " must be non-zero"

namespace Parameters

/-- The usual parameters. -/
def default : Parameters where
  maxLeverage := 20
  interestRate := .ofDigits 54 3
  fee := .ofDigits 1 2
  swapFee := .ofDigits 1 3
  liquidationSlippage := .ofDigits 5 2
  minimumAmount := 5
  quoteLimit := 1000000000000

/-- Lower leverage and more room for liquidations. -/
def conservative : Parameters :=
  { default with
    maxLeverage := 5
    liquidationSlippage := .ofDigits 1 1 }

/-- No fees and a small minimum. -/
def testnet : Parameters :=
  { default with fee := .zero, swapFee := .zero, minimumAmount := 1 }

instance : Inhabited Parameters := ⟨default⟩

/-- The fractions with the names they are reported under, in the order they are checked. -/
def fractions (parameters : Parameters) : List (String × Decimal) :=
  [("interest_rate", parameters.interestRate),
    ("fee", parameters.fee),
    ("swap_fee", parameters.swapFee),
    ("mc_slippage", parameters.liquidationSlippage)]

/-- The limits with the names they are reported under, in the order they are checked. -/
def limits (parameters : Parameters) : List (String × Nat) :=
  [("position_min_amount", parameters.minimumAmount), ("quote_limit", parameters.quoteLimit)]

/-- Whether a fraction lies between zero and one, both included. -/
def isFraction (d : Decimal) : Bool :=
  !d.lessThan .zero && !Decimal.one.lessThan d

/-- The first broken rule, if there is one. -/
def violation? (parameters : Parameters) : Option ParameterError :=
  if parameters.maxLeverage ≤ 1 then some (.invalidLeverage parameters.maxLeverage)
  else
    match parameters.fractions.find? fun entry => !isFraction entry.2 with
    | some (name, value) => some (.fractionOutOfRange name value)
    | none =>
        (parameters.limits.find? fun entry => entry.2 == 0).map fun entry => .zeroLimit entry.1

/-- Fails with the first broken rule. -/
def validate (parameters : Parameters) : Except ParameterError Unit :=
  match parameters.violation? with
  | some error => .error error
  | none => .ok ()

/-- Equality of all parameters by value, whatever the scales of the fractions. -/
def sameValues (a b : Parameters) : Bool :=
  a.maxLeverage == b.maxLeverage
    && a.interestRate.sameValue b.interestRate
    && a.fee.sameValue b.fee
    && a.swapFee.sameValue b.swapFee
    && a.liquidationSlippage.sameValue b.liquidationSlippage
    && a.minimumAmount == b.minimumAmount
    && a.quoteLimit == b.quoteLimit

/-- The leverage bound as a fixed-point number. -/
def leverageBound (parameters : Parameters) : Q96 := .ofNat parameters.maxLeverage

/-- The annual interest rate as a fixed-point number. -/
def annualInterest (parameters : Parameters) : Except MathError Q96 :=
  Q96.ofDecimal parameters.interestRate

/-- The annual fee as a fixed-point number. -/
def annualFee (parameters : Parameters) : Except MathError Q96 :=
  Q96.ofDecimal parameters.fee

/-- The fee on a traded quote amount, rounded down. -/
def swapFeeOn (parameters : Parameters) (quote : Nat) : Except MathError Nat :=
  fractionOf quote parameters.swapFee

/-- The least that a liquidation may return for collateral of a given worth. -/
def liquidationFloor (parameters : Parameters) (worth : Nat) : Except MathError Nat :=
  match Decimal.one.sub? parameters.liquidationSlippage with
  | some kept => fractionOf worth kept
  | none => .error .overflow

end Parameters

/-- Where a pool is deployed. -/
inductive Environment where
  | development
  | testnet
  | mainnet
  deriving DecidableEq, Repr

/-- The preset of an environment. -/
def Environment.parameters : Environment → Parameters
  | .development => .default
  | .testnet => .testnet
  | .mainnet => .conservative

end MarginLending
