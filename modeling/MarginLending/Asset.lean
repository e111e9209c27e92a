/-!
The two assets of a pool and values kept once per asset. Most tables of the pool come in such
pairs, so a rule is written once for an arbitrary asset and its counterpart.
-/

namespace MarginLending

/-- Base is the traded asset; quote is the asset prices are expressed in. -/
inductive Asset where
  | base
  | quote
  deriving DecidableEq, Repr

/-- The counterpart of an asset. -/
def Asset.other : Asset → Asset
  | .base => .quote
  | .quote => .base

@[simp] theorem Asset.other_other (asset : Asset) : asset.other.other = asset := by
  cases asset <;> rfl

theorem Asset.other_ne (asset : Asset) : asset.other ≠ asset := by
  cases asset <;> decide

/-- One value for each asset. -/
structure PerAsset (α : Type) where
  base : α
  quote : α
  deriving DecidableEq, Repr

namespace PerAsset

variable {α β : Type}

/-- The value kept for an asset. -/
def get (values : PerAsset α) : Asset → α
  | .base => values.base
  | .quote => values.quote

/-- Replaces the value of one asset. -/
def set (values : PerAsset α) (asset : Asset) (value : α) : PerAsset α :=
  match asset with
  | .base => { values with base := value }
  | .quote => { values with quote := value }

/-- Applies one function to both values. -/
def map (f : α → β) (values : PerAsset α) : PerAsset β :=
  { base := f values.base, quote := f values.quote }

/-- The same value for both assets. -/
def both (value : α) : PerAsset α :=
  { base := value, quote := value }

@[simp] theorem get_set_same (values : PerAsset α) (asset : Asset) (value : α)
    : (values.set asset value).get asset = value := by
  cases asset <;> rfl

@[simp] theorem get_set_other (values : PerAsset α) (asset : Asset) (value : α)
    : (values.set asset value).get asset.other = values.get asset.other := by
  cases asset <;> rfl

@[simp] theorem get_other_set (values : PerAsset α) (asset : Asset) (value : α)
    : (values.set asset.other value).get asset = values.get asset := by
  cases asset <;> rfl

@[simp] theorem set_get (values : PerAsset α) (asset : Asset)
    : values.set asset (values.get asset) = values := by
  cases asset <;> rfl

@[simp] theorem get_both (value : α) (asset : Asset) : (both value).get asset = value := by
  cases asset <;> rfl

@[simp] theorem get_map (f : α → β) (values : PerAsset α) (asset : Asset)
    : (values.map f).get asset = f (values.get asset) := by
  cases asset <;> rfl

/-- Two pairs agree when they agree on every asset, by inspecting both fields. -/
theorem ext_get {left right : PerAsset α} (h : ∀ asset, left.get asset = right.get asset)
    : left = right := by
  cases left
  cases right
  have base := h .base
  have quote := h .quote
  simp only [PerAsset.get] at base quote
  rw [base, quote]

end PerAsset

end MarginLending
