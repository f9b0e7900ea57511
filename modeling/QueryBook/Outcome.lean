import QueryBook.Error
import QueryBook.Notice

/-!
# Outcomes

The outcome of an operation is its result together with the notices it gave on the way, in
order. A failure ends a chain of operations but keeps the notices given before it.
-/

namespace QueryBook

/-- What an operation reported and what it came to. -/
structure Outcome (α : Type) where
  notices : List Notice
  result : Except Failure α

namespace Outcome

variable {α β : Type}

/-- A result without a notice. -/
protected def pure (a : α) : Outcome α :=
  ⟨[], .ok a⟩

/-- A failure without a notice. -/
def fail (e : Failure) : Outcome α :=
  ⟨[], .error e⟩

/-- A failure with an error about named queries. -/
def raise (e : QueryError) : Outcome α :=
  fail (.query e)

/-- A notice and nothing else. -/
def report (n : Notice) : Outcome Unit :=
  ⟨[n], .ok ()⟩

/-- A result as an outcome without a notice. -/
def ofExcept (r : Except Failure α) : Outcome α :=
  ⟨[], r⟩

/-- One operation after another: a failure of the first is that of the whole. -/
protected def bind (x : Outcome α) (f : α → Outcome β) : Outcome β :=
  match x.result with
  | .ok a => ⟨x.notices ++ (f a).notices, (f a).result⟩
  | .error e => ⟨x.notices, .error e⟩

instance : Monad Outcome where
  pure := Outcome.pure
  bind := Outcome.bind

@[simp] theorem pure_def (a : α) : (pure a : Outcome α) = ⟨[], .ok a⟩ := rfl

theorem bind_ok {x : Outcome α} {a : α} (h : x.result = .ok a) (f : α → Outcome β) :
    x >>= f = ⟨x.notices ++ (f a).notices, (f a).result⟩ := by
  show Outcome.bind x f = _
  simp [Outcome.bind, h]

theorem bind_error {x : Outcome α} {e : Failure} (h : x.result = .error e) (f : α → Outcome β) :
    x >>= f = ⟨x.notices, .error e⟩ := by
  show Outcome.bind x f = _
  simp [Outcome.bind, h]

/-- Whether the operation succeeded. -/
def isOk (x : Outcome α) : Bool :=
  match x.result with
  | .ok _ => true
  | .error _ => false

theorem isOk_eq_true {x : Outcome α} : x.isOk = true ↔ ∃ a, x.result = .ok a := by
  rw [isOk]
  split
  · next a h => simp [h]
  · next e h => simp [h]

theorem isOk_eq_false {x : Outcome α} : x.isOk = false ↔ ∃ e, x.result = .error e := by
  rw [isOk]
  split
  · next a h => simp [h]
  · next e h => simp [h]

end Outcome

end QueryBook
