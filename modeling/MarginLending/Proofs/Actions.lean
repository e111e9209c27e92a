import MarginLending.Pool.Basic
import Mathlib.Logic.Relation

/-!
How actions end. An action on a book or a pool goes through or fails, and leaves a state either way.
The outcome of a compound action is read off the outcomes of its parts, so that a call is taken
apart without unfolding the monad; and an action whose parts change the state by steps changes it by
steps, however it ends.
-/

namespace MarginLending

section Computations

variable {ε α β : Type}

/-- A sequence succeeds exactly when both parts do. -/
theorem Except.bind_eq_ok {x : Except ε α} {f : α → Except ε β} {b : β}
    : x >>= f = .ok b ↔ ∃ a, x = .ok a ∧ f a = .ok b := by
  cases x <;> simp [bind, Except.bind]

/-- Sequences do the same when what follows a success does. -/
theorem Except.bind_congr {x : Except ε α} {f g : α → Except ε β}
    (same : ∀ a, x = .ok a → f a = g a)
    : x >>= f = x >>= g := by
  cases x with
  | ok a => exact same a rfl
  | error e => rfl

theorem Except.map_eq_ok {x : Except ε α} {f : α → β} {b : β}
    : f <$> x = .ok b ↔ ∃ a, x = .ok a ∧ f a = b := by
  cases x <;> simp [Functor.map, Except.map]

theorem Except.pure_eq_ok {a b : α} : (pure a : Except ε α) = .ok b ↔ a = b := by
  simp [pure, Except.pure]

theorem Except.throw_eq_ok {e : ε} {b : α} : (throw e : Except ε α) = .ok b ↔ False := by
  simp [throw, throwThe, MonadExceptOf.throw]

/-- A sequence fails where one of its parts does. -/
theorem Except.bind_eq_error {x : Except ε α} {f : α → Except ε β} {e : ε}
    : x >>= f = .error e ↔ x = .error e ∨ ∃ a, x = .ok a ∧ f a = .error e := by
  cases x <;> simp [bind, Except.bind]

theorem Except.map_eq_error {x : Except ε α} {f : α → β} {e : ε}
    : f <$> x = .error e ↔ x = .error e := by
  cases x <;> simp [Functor.map, Except.map]

theorem Except.pure_eq_error {a : α} {e : ε} : (pure a : Except ε α) = .error e ↔ False := by
  simp [pure, Except.pure]

theorem Except.throw_eq_error {e e' : ε} : (throw e : Except ε α) = .error e' ↔ e = e' := by
  simp [throw, throwThe, MonadExceptOf.throw]

/-- Lifting a failed computation into the pool's errors keeps its success. -/
theorem Except.liftMath_eq_ok {x : Except MathError α} {a : α}
    : (liftM x : Except PoolError α) = .ok a ↔ x = .ok a := by
  cases x with
  | ok value =>
      change (Except.ok value : Except PoolError α) = .ok a ↔ _
      rw [Except.ok.injEq, Except.ok.injEq]
  | error error => exact ⟨nofun, nofun⟩

/-- A failed computation fails the call that needs it with its cause. -/
theorem Except.liftMath_eq_error {x : Except MathError α} {e : MathError}
    : (liftM x : Except PoolError α) = .error (.math e) ↔ x = .error e := by
  cases x with
  | ok value => exact ⟨nofun, nofun⟩
  | error error =>
      change (Except.error (.math error) : Except PoolError α) = .error (.math e) ↔ _
      rw [Except.error.injEq, Except.error.injEq, PoolError.math.injEq]

end Computations

-----
-- A compound action goes through exactly when its parts do
-----

section Actions

variable {σ α β : Type}

namespace EStateM

variable {ε : Type}

theorem bind_eq_ok {x : EStateM ε σ α} {f : α → EStateM ε σ β} {s t : σ} {b : β}
    : (x >>= f) s = .ok b t ↔ ∃ a u, x s = .ok a u ∧ f a u = .ok b t := by
  simp only [bind, EStateM.bind]
  cases x s <;> simp [and_assoc]

/-- What a failed sequence did: its first part failed, or its second part did after it. -/
theorem bind_eq_error {x : EStateM ε σ α} {f : α → EStateM ε σ β} {s t : σ} {e : ε}
    : (x >>= f) s = .error e t
      ↔ x s = .error e t ∨ ∃ a u, x s = .ok a u ∧ f a u = .error e t := by
  simp only [bind, EStateM.bind]
  cases x s <;> simp [and_assoc]

/-- Sequences do the same when what follows a success does. -/
theorem bind_congr {x y : EStateM ε σ α} {f g : α → EStateM ε σ β} {s : σ} (first : x s = y s)
    (same : ∀ a t, y s = .ok a t → f a t = g a t)
    : (x >>= f) s = (y >>= g) s := by
  simp only [bind, EStateM.bind, first]
  cases result : y s with
  | ok a t => exact same a t result
  | error e t => rfl

theorem pure_eq_ok {s t : σ} {a b : α}
    : (pure a : EStateM ε σ α) s = .ok b t ↔ a = b ∧ s = t :=
  Iff.of_eq (EStateM.Result.ok.injEq a s b t)

theorem throw_eq_ok {e : ε} {s t : σ} {b : α}
    : (throw e : EStateM ε σ α) s = .ok b t ↔ False :=
  ⟨nofun, nofun⟩

/-- What follows a failure does not matter. -/
theorem throw_bind_congr {e : ε} {f g : α → EStateM ε σ β} {s : σ}
    : ((throw e : EStateM ε σ α) >>= f) s = ((throw e : EStateM ε σ α) >>= g) s :=
  bind_congr rfl fun _ _ thrown => (throw_eq_ok.mp thrown).elim

theorem get_eq_ok {s t u : σ} : (get : EStateM ε σ σ) s = .ok u t ↔ s = u ∧ s = t :=
  Iff.of_eq (EStateM.Result.ok.injEq s s u t)

theorem set_eq_ok {s t u : σ} {a : PUnit}
    : (set u : EStateM ε σ PUnit) s = .ok a t ↔ u = t :=
  ⟨fun same => (EStateM.Result.ok.inj same).2, fun same => congrArg (EStateM.Result.ok a) same⟩

theorem set_eq_error {s t u : σ} {e : ε}
    : (set u : EStateM ε σ PUnit) s = .error e t ↔ False :=
  ⟨nofun, nofun⟩

theorem modify_eq_ok {f : σ → σ} {s t : σ} {a : PUnit}
    : (modify f : EStateM ε σ PUnit) s = .ok a t ↔ f s = t :=
  ⟨fun same => (EStateM.Result.ok.inj same).2, fun same => congrArg (EStateM.Result.ok a) same⟩

end EStateM

/-- A computation inside an action leaves the state alone. -/
theorem EStateM.lift_eq_ok {x : Except PoolError α} {s t : σ} {a : α}
    : (liftM x : EStateM PoolError σ α) s = .ok a t ↔ x = .ok a ∧ s = t := by
  cases x with
  | ok value => exact EStateM.pure_eq_ok.trans (by simp)
  | error error => exact EStateM.throw_eq_ok.trans (by simp)

theorem EStateM.liftMath_eq_ok {x : Except MathError α} {s t : σ} {a : α}
    : (liftM x : EStateM PoolError σ α) s = .ok a t ↔ x = .ok a ∧ s = t := by
  refine (EStateM.lift_eq_ok (x := liftM x)).trans ?_
  rw [Except.liftMath_eq_ok]

theorem EStateM.lift_eq_error {x : Except PoolError α} {s t : σ} {e : PoolError}
    : (liftM x : EStateM PoolError σ α) s = .error e t ↔ x = .error e ∧ s = t := by
  cases x with
  | ok value => exact ⟨nofun, nofun⟩
  | error error =>
      change (EStateM.Result.error error s : EStateM.Result _ _ _) = .error e t ↔ _
      rw [EStateM.Result.error.injEq, Except.error.injEq]

theorem EStateM.liftMath_eq_error {x : Except MathError α} {s t : σ} {e : MathError}
    : (liftM x : EStateM PoolError σ α) s = .error (.math e) t ↔ x = .error e ∧ s = t := by
  refine (EStateM.lift_eq_error (x := liftM x)).trans ?_
  rw [Except.liftMath_eq_error]

theorem get_bind_apply {ε : Type} (f : σ → EStateM ε σ β) (s : σ) : (get >>= f) s = f s s := rfl

/-- The state that an action leaves, whether it went through or failed. -/
def endState {ε : Type} : EStateM.Result ε σ α → σ
  | .ok _ s => s
  | .error _ s => s

/-- From a state, an action leads on by steps, however it ends. -/
def Steps {ε : Type} (step : σ → σ → Prop) (x : EStateM ε σ α) (s : σ) : Prop :=
  Relation.ReflTransGen step s (endState (x s))

namespace Steps

variable {s : σ}

section

variable {ε : Type} {step : σ → σ → Prop}

/-- An action that goes through leads by steps to the state it leaves. -/
theorem of_ok {x : EStateM ε σ α} {a : α} {t : σ} (steps : Steps step x s) (went : x s = .ok a t)
    : Relation.ReflTransGen step s t := by
  unfold Steps at steps
  rwa [went] at steps

/-- An action that fails leads by steps to the state it leaves. -/
theorem of_error {x : EStateM ε σ α} {e : ε} {t : σ} (steps : Steps step x s)
    (failed : x s = .error e t)
    : Relation.ReflTransGen step s t := by
  unfold Steps at steps
  rwa [failed] at steps

theorem of_pure (a : α) : Steps step (pure a : EStateM ε σ α) s := .refl

theorem of_throw (e : ε) : Steps step (throw e : EStateM ε σ α) s := .refl

theorem of_set {t : σ} (next : step s t) : Steps step (set t : EStateM ε σ PUnit) s :=
  .single next

theorem of_modify {f : σ → σ} (next : Relation.ReflTransGen step s (f s))
    : Steps step (modify f : EStateM ε σ PUnit) s :=
  next

/-- A sequence goes on from where its first part went through to. -/
theorem bind {x : EStateM ε σ α} {f : α → EStateM ε σ β} (first : Steps step x s)
    (second : ∀ a t, x s = .ok a t → Steps step (f a) t)
    : Steps step (x >>= f) s := by
  unfold Steps at first ⊢
  change Relation.ReflTransGen step s (endState (EStateM.bind x f s))
  unfold EStateM.bind
  cases result : x s with
  | ok a t =>
      rw [result] at first
      exact first.trans (second a t result)
  | error e t =>
      rw [result] at first
      exact first

theorem get_bind {f : σ → EStateM ε σ β} (second : Steps step (f s) s)
    : Steps step (get >>= f) s :=
  second

end

section

variable {step : σ → σ → Prop}

theorem of_lift (x : Except PoolError α) : Steps step (liftM x : EStateM PoolError σ α) s := by
  cases x <;> exact .refl

/-- A computation inside an action does not move the state. -/
theorem lift_bind {x : Except PoolError α} {f : α → EStateM PoolError σ β}
    (second : ∀ a, x = .ok a → Steps step (f a) s)
    : Steps step ((liftM x : EStateM PoolError σ α) >>= f) s := by
  cases x with
  | ok a => exact second a rfl
  | error e => exact .refl

theorem liftMath_bind {x : Except MathError α} {f : α → EStateM PoolError σ β}
    (second : ∀ a, Steps step (f a) s)
    : Steps step ((liftM x : EStateM PoolError σ α) >>= f) s :=
  lift_bind fun a _ => second a

end

end Steps

end Actions

-----
-- Actions on the book of a pool
-----

namespace Pool

variable {V α : Type}

/-- The pool with another book. -/
def withBook (pool : Pool V) (book : Book) : Pool V := { pool with book }

/-- The pool with another venue. -/
def withVenue (pool : Pool V) (venue : V) : Pool V := { pool with venue }

/-- The pool with one more event of the call in progress. -/
def recording (pool : Pool V) (payload : EventPayload) : Pool V :=
  { pool with pending := pool.pending ++ [payload] }

@[simp] theorem book_withBook (pool : Pool V) (book : Book)
    : (pool.withBook book).book = book := rfl

@[simp] theorem book_withVenue (pool : Pool V) (venue : V)
    : (pool.withVenue venue).book = pool.book := rfl

@[simp] theorem book_recording (pool : Pool V) (payload : EventPayload)
    : (pool.recording payload).book = pool.book := rfl

/-- An action on the book changes the book of its pool and nothing else. -/
theorem liftBook_eq_ok {x : BookM α} {pool pool' : Pool V} {a : α}
    : (liftM x : PoolM V α) pool = .ok a pool'
      ↔ ∃ book, x pool.book = .ok a book ∧ pool.withBook book = pool' := by
  simp only [liftM, monadLift, MonadLift.monadLift]
  cases x pool.book <;> simp [withBook, and_assoc]

theorem readBook_eq_ok {pool pool' : Pool V} {book : Book}
    : (readBook : PoolM V Book) pool = .ok book pool' ↔ pool.book = book ∧ pool = pool' := by
  simp only [readBook, EStateM.bind_eq_ok, EStateM.get_eq_ok, EStateM.pure_eq_ok]
  constructor
  · rintro ⟨_, _, ⟨rfl, rfl⟩, rfl, rfl⟩
    exact ⟨rfl, rfl⟩
  · rintro ⟨rfl, rfl⟩
    exact ⟨_, _, ⟨rfl, rfl⟩, rfl, rfl⟩

theorem record_eq_ok {payload : EventPayload} {pool pool' : Pool V} {a : Unit}
    : (record payload : PoolM V Unit) pool = .ok a pool' ↔ pool.recording payload = pool' :=
  EStateM.modify_eq_ok

section Sequences

variable {β : Type} {pool : Pool V} {f g : α → PoolM V β}

theorem readBook_bind_congr {f g : Book → PoolM V β} (same : f pool.book pool = g pool.book pool)
    : (readBook >>= f) pool = (readBook >>= g) pool :=
  EStateM.bind_congr rfl fun book middle read => by
    obtain ⟨rfl, rfl⟩ := readBook_eq_ok.mp read
    exact same

theorem lift_bind_congr {x : Except PoolError α} (same : ∀ a, x = .ok a → f a pool = g a pool)
    : ((liftM x : PoolM V α) >>= f) pool = ((liftM x : PoolM V α) >>= g) pool :=
  EStateM.bind_congr rfl fun a middle went => by
    obtain ⟨known, rfl⟩ := EStateM.lift_eq_ok.mp went
    exact same a known

theorem liftMath_bind_congr {x : Except MathError α} (same : ∀ a, x = .ok a → f a pool = g a pool)
    : ((liftM x : PoolM V α) >>= f) pool = ((liftM x : PoolM V α) >>= g) pool :=
  EStateM.bind_congr rfl fun a middle went => by
    obtain ⟨known, rfl⟩ := EStateM.liftMath_eq_ok.mp went
    exact same a known

theorem liftBook_bind_congr {x : BookM α}
    (same : ∀ a book, x pool.book = .ok a book
      → f a (pool.withBook book) = g a (pool.withBook book))
    : ((liftM x : PoolM V α) >>= f) pool = ((liftM x : PoolM V α) >>= g) pool :=
  EStateM.bind_congr rfl fun a middle went => by
    obtain ⟨book, changed, rfl⟩ := liftBook_eq_ok.mp went
    exact same a book changed

end Sequences

end Pool

end MarginLending
