import MarginLending.Proofs.Json.Reader
import MarginLending.Proofs.Text.Scalars
import MarginLending.Wire.Call
import MarginLending.Wire.Parameters

/-!
Parameters, requests and calls are read back from the texts they are written as. Each field is found
by its name and read in the way it was written; what is asked of the values is that they fit their
types and that no decimal is a zero under a minus sign.
-/

namespace MarginLending

-----
-- Records
-----

namespace Json

/-- The fields of a record are those that were put into it. -/
theorem fields?_record {fields : List (String × Json)} (distinct : (fields.map Prod.fst).Nodup)
    : (record fields).fields? (fields.map Prod.fst) = some ⟨fields⟩ := by
  have entries
      : (fields.map fun field => (some field.1, field.2)).mapM
          (fun field : Option String × Json => field.1.map fun key => (key, field.2))
            = some fields := by
    rw [List.mapM_map]
    exact List.mapM_pure.trans (congrArg some (List.map_id fields))
  have known : fields.filter (fun entry => (fields.map Prod.fst).contains entry.1) = fields :=
    List.filter_eq_self.mpr fun entry member =>
      List.contains_iff_mem.mpr (List.mem_map_of_mem member)
  simp only [fields?, record, entries, Option.bind_eq_bind, Option.bind_some, known]
  exact if_pos distinct

section Lookup

variable {α : Type} {name other : String} (json : Json) (others : List (String × Json))

/-- What stands in front under another name is passed over. -/
theorem lookup_cons_of_ne (differ : name ≠ other)
    : ((other, json) :: others).lookup name = others.lookup name := by
  have unequal : (name == other) = false := beq_eq_false_iff_ne.mpr differ
  rw [List.lookup_cons, unequal]

@[simp] theorem Fields.get?_cons_self (read? : Json → Option α)
    : get? ⟨(name, json) :: others⟩ name read? = read? json := by
  rw [get?, List.lookup_cons_self, Option.bind_some]

@[simp] theorem Fields.get?_cons_of_ne (differ : name ≠ other) (read? : Json → Option α)
    : get? ⟨(other, json) :: others⟩ name read? = get? ⟨others⟩ name read? := by
  rw [get?, get?, lookup_cons_of_ne json others differ]

@[simp] theorem Fields.getOptional?_cons_of_ne (differ : name ≠ other) (read? : Json → Option α)
    : getOptional? ⟨(other, json) :: others⟩ name read? = getOptional? ⟨others⟩ name read? := by
  rw [getOptional?, getOptional?, lookup_cons_of_ne json others differ]

end Lookup

theorem natBelow?_nat {n bound : Nat} (small : n < bound) : (nat n).natBelow? bound = some n :=
  if_pos small

theorem amount?_nat {n : Nat} (small : n < amountLimit) : amount? (nat n) = some n :=
  natBelow?_nat small

theorem short?_nat {n : Nat} (small : n < Nat.pow 2 32) : short? (nat n) = some n :=
  natBelow?_nat small

end Json

-----
-- Single values
-----

theorem AccountId.ofJson?_toJson {account : AccountId} (small : account.number < Nat.pow 2 64)
    : ofJson? account.toJson = some account := by
  rw [ofJson?, toJson, Json.natBelow?_nat small]
  rfl

theorem Q96.ofJson?_toJson {q : Q96} (fits : q.raw < wordLimit) : ofJson? q.toJson = some q := by
  simp only [ofJson?, toJson, Json.string, Json.string?, Option.bind_eq_bind, Option.bind_some,
    String.toList_ofList, HexWord.read?_render fits]
  rfl

/-- A decimal that is not a zero under a minus sign. -/
def Decimal.Plain (d : Decimal) : Prop := d.negative = true → d.digits ≠ 0

theorem Decimal.ofJson?_toJson {d : Decimal} (plain : d.Plain) : ofJson? d.toJson = some d := by
  rw [toJson, Json.string, ofJson?, text, String.toList_ofList, readAny?_render plain]

theorem CallKind.ofJson?_toJson (kind : CallKind) : ofJson? kind.toJson = some kind :=
  kind.ofName?_name

/-- An account fits its type, where there is one. -/
def OwnerInRange (owner : Option AccountId) : Prop :=
  ∀ account ∈ owner, account.number < Nat.pow 2 64

/-- An owner is read back, and so is none. -/
theorem getOptional?_ownerJson {owner : Option AccountId} (inRange : OwnerInRange owner)
    (name : String) (others : List (String × Json))
    : Json.Fields.getOptional? ⟨(name, ownerJson owner) :: others⟩ name AccountId.ofJson?
      = some owner := by
  rw [Json.Fields.getOptional?, List.lookup_cons_self]
  cases owner with
  | none => rfl
  | some account =>
      exact congrArg (Option.map some) (AccountId.ofJson?_toJson (inRange account rfl))

theorem wellFormed_ownerJson (owner : Option AccountId) : (ownerJson owner).WellFormed := by
  cases owner with
  | none => trivial
  | some account => exact Json.wellFormed_nat account.number

-----
-- Parameters
-----

namespace Parameters

/-- The leverage and the limits fit their types, and no fraction is a zero under a minus sign. -/
structure InRange (parameters : Parameters) : Prop where
  maxLeverage : parameters.maxLeverage < Nat.pow 2 32
  minimumAmount : parameters.minimumAmount < amountLimit
  quoteLimit : parameters.quoteLimit < amountLimit
  interestRate : parameters.interestRate.Plain
  fee : parameters.fee.Plain
  swapFee : parameters.swapFee.Plain
  liquidationSlippage : parameters.liquidationSlippage.Plain

/-- Parameters in range are those that their record is read as. -/
theorem ofJson?_toJson {parameters : Parameters} (inRange : parameters.InRange)
    : ofJson? parameters.toJson = some parameters := by
  have fields : parameters.toJson.fields? fieldNames = some ⟨_⟩ :=
    Json.fields?_record (show fieldNames.Nodup by decide)
  simp [ofJson?, fields, Json.short?_nat inRange.maxLeverage,
    Decimal.ofJson?_toJson inRange.interestRate, Decimal.ofJson?_toJson inRange.fee,
    Decimal.ofJson?_toJson inRange.swapFee, Decimal.ofJson?_toJson inRange.liquidationSlippage,
    Json.amount?_nat inRange.minimumAmount, Json.amount?_nat inRange.quoteLimit]

theorem wellFormed_toJson (parameters : Parameters) : parameters.toJson.WellFormed :=
  Json.wellFormed_record (by simp [Decimal.toJson])

theorem read?_write {parameters : Parameters} (inRange : parameters.InRange)
    : read? parameters.write = some parameters := by
  rw [read?, write, Json.read?_write parameters.wellFormed_toJson, Option.bind_some,
    ofJson?_toJson inRange]

end Parameters

-----
-- Requests
-----

namespace Request

/-- Amounts, price limit, owner and route fit their types. -/
structure InRange (request : Request) : Prop where
  amount1 : request.amount1 < amountLimit
  amount2 : request.amount2 < amountLimit
  priceLimit : request.priceLimit.raw < wordLimit
  owner : OwnerInRange request.owner
  route : request.route < Nat.pow 2 32

/-- A request in range is the one that its record is read as. -/
theorem ofJson?_toJson {request : Request} (inRange : request.InRange)
    : ofJson? request.toJson = some request := by
  have fields : request.toJson.fields? fieldNames = some ⟨_⟩ :=
    Json.fields?_record (show fieldNames.Nodup by decide)
  simp [ofJson?, fields, CallKind.ofJson?_toJson, Json.amount?_nat inRange.amount1,
    Json.amount?_nat inRange.amount2, Q96.ofJson?_toJson inRange.priceLimit, Json.bool?,
    getOptional?_ownerJson inRange.owner, Json.short?_nat inRange.route]

theorem wellFormed_toJson (request : Request) : request.toJson.WellFormed :=
  Json.wellFormed_record (by simp [CallKind.toJson, Q96.toJson, wellFormed_ownerJson])

theorem read?_write {request : Request} (inRange : request.InRange)
    : read? request.write = some request := by
  rw [read?, write, Json.read?_write request.wellFormed_toJson, Option.bind_some,
    ofJson?_toJson inRange]

end Request

-----
-- Calls
-----

namespace Call

/-- Amounts, limit and accounts fit their types. -/
def InRange : Call → Prop
  | .depositBase amount traded limitPrice owner | .depositQuote amount traded limitPrice owner =>
      amount < amountLimit ∧ traded < amountLimit ∧ limitPrice.raw < wordLimit ∧ OwnerInRange owner
  | .withdrawBase amount _ | .withdrawQuote amount _ => amount < amountLimit
  | .short amount limitPrice | .long amount limitPrice | .sellCollateral amount limitPrice =>
      amount < amountLimit ∧ limitPrice.raw < wordLimit
  | .closePosition limitPrice => limitPrice.raw < wordLimit
  | .receivePosition badAccount quoteAmount baseAmount =>
      badAccount.number < Nat.pow 2 64 ∧ quoteAmount < amountLimit ∧ baseAmount < amountLimit
  | .reinit | .emergencyWithdraw _ => True

/-- The fields of a call are those of its kind. -/
theorem fields_names (call : Call) : call.fields.map Prod.fst = call.kind.fieldNames := by
  cases call <;> rfl

theorem fieldNames_nodup (kind : CallKind) : kind.fieldNames.Nodup := by
  cases kind <;> decide

/-- The fields of a call in range are read as the call. -/
theorem ofFields?_fields {call : Call} (inRange : call.InRange)
    : ofFields? call.kind ⟨call.fields⟩ = some call := by
  cases call with
  | depositBase amount traded limitPrice owner | depositQuote amount traded limitPrice owner =>
      obtain ⟨amountSmall, tradedSmall, limitFits, ownerInRange⟩ := inRange
      simp [ofFields?, kind, fields, Json.amount?_nat amountSmall, Json.amount?_nat tradedSmall,
        Q96.ofJson?_toJson limitFits, getOptional?_ownerJson ownerInRange]
  | withdrawBase amount unwrap | withdrawQuote amount unwrap =>
      simp [ofFields?, kind, fields, Json.amount?_nat inRange, Json.bool?]
  | short amount limitPrice | long amount limitPrice | sellCollateral amount limitPrice =>
      simp [ofFields?, kind, fields, Json.amount?_nat inRange.1, Q96.ofJson?_toJson inRange.2]
  | closePosition limitPrice => simp [ofFields?, kind, fields, Q96.ofJson?_toJson inRange]
  | reinit => rfl
  | receivePosition badAccount quoteAmount baseAmount =>
      obtain ⟨accountSmall, quoteSmall, baseSmall⟩ := inRange
      simp [ofFields?, kind, fields, AccountId.ofJson?_toJson accountSmall,
        Json.amount?_nat quoteSmall, Json.amount?_nat baseSmall]
  | emergencyWithdraw unwrap => rfl

/-- What stands under the name of a kind is read as the fields of that kind. -/
theorem ofJson?_variant {kind : CallKind} (hasFields : kind ≠ .reinit) (content : Json)
    : ofJson? (.record [(kind.variantName, content)])
      = (content.fields? kind.fieldNames).bind (ofFields? kind) := by
  simp only [ofJson?, Json.record, List.map, Json.variant?, Option.bind_eq_bind, Option.bind_some,
    CallKind.ofVariantName?_variantName]
  cases kind with
  | reinit => exact absurd rfl hasFields
  | _ => rfl

/-- A call in range is the one that its variant is read as. -/
theorem ofJson?_toJson {call : Call} (inRange : call.InRange)
    : ofJson? call.toJson = some call := by
  have content : (Json.record call.fields).fields? call.kind.fieldNames = some ⟨call.fields⟩ := by
    rw [← call.fields_names]
    exact Json.fields?_record (call.fields_names ▸ fieldNames_nodup call.kind)
  have read
      : ((Json.record call.fields).fields? call.kind.fieldNames).bind (ofFields? call.kind)
        = some call := by
    rw [content, Option.bind_some, ofFields?_fields inRange]
  have variant (hasFields : call.kind ≠ .reinit) :=
    (ofJson?_variant hasFields (Json.record call.fields)).trans read
  cases call with
  | reinit => rfl
  | _ => exact variant nofun

theorem wellFormed_fields (call : Call) : (Json.record call.fields).WellFormed := by
  cases call <;>
    exact Json.wellFormed_record
      (by simp [fields, Q96.toJson, wellFormed_ownerJson, AccountId.toJson])

theorem wellFormed_toJson (call : Call) : call.toJson.WellFormed := by
  have content := call.wellFormed_fields
  cases call with
  | reinit => trivial
  | _ => exact ⟨content, trivial⟩

theorem read?_write {call : Call} (inRange : call.InRange) : read? call.write = some call := by
  rw [read?, write, Json.read?_write call.wellFormed_toJson, Option.bind_some,
    ofJson?_toJson inRange]

end Call

/-- Whatever is in range is read back from the text it is written as. -/
theorem written_values_read_back
    : (∀ parameters : Parameters, parameters.InRange →
        Parameters.read? parameters.write = some parameters)
      ∧ (∀ request : Request, request.InRange → Request.read? request.write = some request)
      ∧ ∀ call : Call, call.InRange → Call.read? call.write = some call :=
  ⟨fun _ => Parameters.read?_write, fun _ => Request.read?_write, fun _ => Call.read?_write⟩

/-- The largest values of all types, zeros with and without fraction digits, and an owner and none.
-/
theorem written_values_read_back_extremes
    : let least : Decimal := ⟨true, mantissaLimit - 1, 28, by decide, by decide⟩
      let parameters : Parameters :=
        ⟨Nat.pow 2 32 - 1, ⟨false, 0, 28, by decide, by decide⟩, .zero, .maximum, least,
          amountLimit - 1, amountLimit - 1⟩
      let request : Request :=
        ⟨.receivePosition, amountLimit - 1, 0, ⟨wordLimit - 1⟩, true, some ⟨Nat.pow 2 64 - 1⟩,
          Nat.pow 2 32 - 1⟩
      let call := Call.depositQuote (amountLimit - 1) 0 .zero none
      parameters.InRange ∧ request.InRange ∧ call.InRange
      ∧ Parameters.read? parameters.write = some parameters
      ∧ Request.read? request.write = some request
      ∧ Call.read? call.write = some call := by
  intro least parameters request call
  have parametersInRange : parameters.InRange :=
    { maxLeverage := by decide
      minimumAmount := by decide
      quoteLimit := by decide
      interestRate := nofun
      fee := nofun
      swapFee := nofun
      liquidationSlippage := fun _ => by decide }
  have requestInRange : request.InRange :=
    { amount1 := by decide
      amount2 := by decide
      priceLimit := by decide
      owner := by
        rintro account ⟨⟩
        decide
      route := by decide }
  have callInRange : call.InRange := ⟨by decide, by decide, by decide, nofun⟩
  obtain ⟨readParameters, readRequest, readCall⟩ := written_values_read_back
  exact ⟨parametersInRange, requestInRange, callInRange, readParameters _ parametersInRange,
    readRequest _ requestInRange, readCall _ callInRange⟩

example
    : (Call.closePosition ⟨255⟩).write.toList
      = '{' :: "\"ClosePosition\":".toList ++ '{' :: "\"limit_price\":\"0xff\"".toList
        ++ ['}', '}'] := by
  decide

end MarginLending
