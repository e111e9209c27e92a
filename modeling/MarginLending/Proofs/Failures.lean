import MarginLending.Proofs.Actions

/-!
What a computation or an action may fail with. For a kind of errors, a computation fails within the
kind if every error it can fail with is of that kind. Sequences, folds and lifted parts of such
computations are such computations again; in an action each part starts from the state in which the
part before it went through.
-/

namespace MarginLending

section Computations

variable {ε α β : Type} {kind : ε → Prop}

/-- If the computation fails, it fails with an error of a kind. -/
structure FailsWithin (kind : ε → Prop) (x : Except ε α) : Prop where
  within : ∀ error, x = .error error → kind error

namespace FailsWithin

theorem of_ok {x : Except ε α} {a : α} (known : x = .ok a) : FailsWithin kind x := by
  constructor
  rintro error failed
  rw [known] at failed
  cases failed

theorem pure (a : α) : FailsWithin kind (Pure.pure a : Except ε α) := of_ok rfl

theorem throw {error : ε} (isKind : kind error)
    : FailsWithin kind (MonadExcept.throw error : Except ε α) := by
  constructor
  rintro _ failed
  cases failed
  exact isKind

/-- A sequence fails within a kind if both parts do. -/
theorem bind {x : Except ε α} {f : α → Except ε β} (first : FailsWithin kind x)
    (second : ∀ a, x = .ok a → FailsWithin kind (f a))
    : FailsWithin kind (x >>= f) := by
  constructor
  intro error failed
  rcases Except.bind_eq_error.mp failed with failed | ⟨a, went, failed⟩
  · exact first.within error failed
  · exact (second a went).within error failed

theorem map {x : Except ε α} {f : α → β} (first : FailsWithin kind x)
    : FailsWithin kind (f <$> x) :=
  ⟨fun error failed => first.within error (Except.map_eq_error.mp failed)⟩

/-- A fold fails within a kind if each of its steps does, by induction on the list. -/
theorem foldlM {step : β → α → Except ε β} {list : List α}
    (steps : ∀ total, ∀ a ∈ list, FailsWithin kind (step total a)) (start : β)
    : FailsWithin kind (list.foldlM step start) := by
  induction list generalizing start with
  | nil => exact pure start
  | cons head rest ih =>
      rw [List.foldlM_cons]
      exact bind (steps start head List.mem_cons_self) fun next _ =>
        ih (fun total a member => steps total a (List.mem_cons_of_mem _ member)) next

variable {kind : PoolError → Prop}

/-- An error of arithmetic is the cause of the pool's error. -/
theorem lift {x : Except MathError α} (first : FailsWithin (fun cause => kind (.math cause)) x)
    : FailsWithin kind (liftM x : Except PoolError α) := by
  cases result : x with
  | ok a => exact of_ok rfl
  | error cause =>
      constructor
      rintro _ failed
      cases failed
      exact first.within cause result

theorem lift_bind {x : Except MathError α} {f : α → Except PoolError β}
    (first : FailsWithin (fun cause => kind (.math cause)) x)
    (second : ∀ a, x = .ok a → FailsWithin kind (f a))
    : FailsWithin kind ((liftM x : Except PoolError α) >>= f) :=
  bind first.lift fun a known => second a (Except.liftMath_eq_ok.mp known)

end FailsWithin

end Computations

-----
-- Actions
-----

section Actions

variable {ε σ α β : Type} {kind : ε → Prop}

/-- If the action fails from a state, it fails with an error of a kind. -/
structure FailsWithinFrom (kind : ε → Prop) (x : EStateM ε σ α) (s : σ) : Prop where
  within : ∀ error t, x s = .error error t → kind error

namespace FailsWithinFrom

variable {s : σ}

theorem of_ok {x : EStateM ε σ α} {a : α} {t : σ} (went : x s = .ok a t)
    : FailsWithinFrom kind x s := by
  constructor
  rintro error u failed
  rw [went] at failed
  cases failed

theorem pure (a : α) : FailsWithinFrom kind (Pure.pure a : EStateM ε σ α) s := of_ok rfl

theorem throw {error : ε} (isKind : kind error)
    : FailsWithinFrom kind (MonadExcept.throw error : EStateM ε σ α) s := by
  constructor
  rintro _ t failed
  cases failed
  exact isKind

theorem set (t : σ) : FailsWithinFrom kind (MonadState.set t : EStateM ε σ PUnit) s := of_ok rfl

theorem modify (f : σ → σ)
    : FailsWithinFrom kind (MonadState.modifyGet fun s => (⟨⟩, f s) : EStateM ε σ PUnit) s :=
  of_ok rfl

/-- A sequence goes on from where its first part went through to. -/
theorem bind {x : EStateM ε σ α} {f : α → EStateM ε σ β} (first : FailsWithinFrom kind x s)
    (second : ∀ a t, x s = .ok a t → FailsWithinFrom kind (f a) t)
    : FailsWithinFrom kind (x >>= f) s := by
  constructor
  intro error t failed
  rcases EStateM.bind_eq_error.mp failed with failed | ⟨a, u, went, failed⟩
  · exact first.within error t failed
  · exact (second a u went).within error t failed

theorem get_bind {f : σ → EStateM ε σ β} (second : FailsWithinFrom kind (f s) s)
    : FailsWithinFrom kind (get >>= f) s :=
  ⟨second.within⟩

section

variable {kind : PoolError → Prop}

theorem lift {x : Except PoolError α} (first : FailsWithin kind x)
    : FailsWithinFrom kind (liftM x : EStateM PoolError σ α) s :=
  ⟨fun error _ failed => first.within error (EStateM.lift_eq_error.mp failed).1⟩

/-- A computation inside an action does not move the state. -/
theorem lift_bind {x : Except PoolError α} {f : α → EStateM PoolError σ β}
    (first : FailsWithin kind x) (second : ∀ a, x = .ok a → FailsWithinFrom kind (f a) s)
    : FailsWithinFrom kind ((liftM x : EStateM PoolError σ α) >>= f) s := by
  refine bind (lift first) fun a t went => ?_
  obtain ⟨known, rfl⟩ := EStateM.lift_eq_ok.mp went
  exact second a known

theorem liftMath_bind {x : Except MathError α} {f : α → EStateM PoolError σ β}
    (first : FailsWithin (fun cause => kind (.math cause)) x)
    (second : ∀ a, x = .ok a → FailsWithinFrom kind (f a) s)
    : FailsWithinFrom kind ((liftM x : EStateM PoolError σ α) >>= f) s :=
  lift_bind first.lift fun a known => second a (Except.liftMath_eq_ok.mp known)

end

-----
-- Actions on a pool
-----

section

open Pool

variable {V : Type} {pool : Pool V} {kind : PoolError → Prop}

theorem liftBook {x : BookM α} (first : FailsWithinFrom kind x pool.book)
    : FailsWithinFrom kind (liftM x : PoolM V α) pool := by
  constructor
  intro error pool' failed
  simp only [liftM, monadLift, MonadLift.monadLift] at failed
  cases result : x pool.book with
  | ok a book =>
      rw [result] at failed
      cases failed
  | error error book =>
      rw [result] at failed
      cases failed
      exact first.within _ _ result

theorem liftBook_bind {x : BookM α} {f : α → PoolM V β}
    (first : FailsWithinFrom kind x pool.book)
    (second : ∀ a book, x pool.book = .ok a book → FailsWithinFrom kind (f a) (pool.withBook book))
    : FailsWithinFrom kind ((liftM x : PoolM V α) >>= f) pool := by
  refine bind (liftBook first) fun a pool' lifted => ?_
  obtain ⟨book, went, rfl⟩ := liftBook_eq_ok.mp lifted
  exact second a book went

theorem readBook_bind {f : Book → PoolM V β} (second : FailsWithinFrom kind (f pool.book) pool)
    : FailsWithinFrom kind (readBook >>= f) pool :=
  ⟨second.within⟩

theorem record (payload : EventPayload)
    : FailsWithinFrom kind (Pool.record payload : PoolM V Unit) pool :=
  modify _

theorem record_bind {payload : EventPayload} {f : Unit → PoolM V β}
    (second : FailsWithinFrom kind (f ()) (pool.recording payload))
    : FailsWithinFrom kind (Pool.record payload >>= f) pool :=
  ⟨second.within⟩

end

end FailsWithinFrom

end Actions

end MarginLending
