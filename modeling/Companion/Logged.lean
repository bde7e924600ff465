import Companion.Event

/-! Computations that report events and may fail. The events of a failed computation are those
reported before it failed. Taking the result, and taking the events, are both compatible with
sequencing (`result_bind`, `events_bind_ok`). -/
namespace Companion

structure Logged (ε α : Type) where
  events : List Event
  result : Except ε α

namespace Logged

variable {ε ε' α β : Type}

/-- Succeeds without a report. -/
protected def pure (a : α) : Logged ε α := ⟨[], .ok a⟩

/-- Runs `x`, and `f` on its value if there is one. -/
protected def bind (x : Logged ε α) (f : α → Logged ε β) : Logged ε β :=
  match x.result with
  | .ok a =>
    let y := f a
    ⟨x.events ++ y.events, y.result⟩
  | .error e => ⟨x.events, .error e⟩

instance : Monad (Logged ε) where
  pure := Logged.pure
  bind := Logged.bind

/-- Reports one event. -/
def report (e : Event) : Logged ε Unit := ⟨[e], .ok ()⟩

/-- Fails without a report. -/
def fail (e : ε) : Logged ε α := ⟨[], .error e⟩

/-- A silent computation. -/
def ofExcept (x : Except ε α) : Logged ε α := ⟨[], x⟩

/-- The same computation with its errors renamed. -/
def mapError (f : ε → ε') (x : Logged ε α) : Logged ε' α := ⟨x.events, x.result.mapError f⟩

@[simp] theorem result_pure (a : α) : (pure a : Logged ε α).result = .ok a := rfl

@[simp] theorem events_pure (a : α) : (pure a : Logged ε α).events = [] := rfl

@[simp] theorem result_bind (x : Logged ε α) (f : α → Logged ε β) :
    (x >>= f).result = x.result.bind fun a => (f a).result := by
  show (Logged.bind x f).result = _
  unfold Logged.bind
  cases x.result <;> rfl

/-- A sequence succeeds when both its parts do. -/
theorem result_bind_eq_ok_iff {x : Logged ε α} {f : α → Logged ε β} {b : β} :
    (x >>= f).result = .ok b ↔ ∃ a, x.result = .ok a ∧ (f a).result = .ok b := by
  rw [result_bind]
  cases x.result <;> simp [Except.bind]

/-- A sequence fails when its first part does, or its second. -/
theorem result_bind_eq_error_iff {x : Logged ε α} {f : α → Logged ε β} {e : ε} :
    (x >>= f).result = .error e ↔
      x.result = .error e ∨ ∃ a, x.result = .ok a ∧ (f a).result = .error e := by
  rw [result_bind]
  cases x.result <;> simp [Except.bind]

theorem events_bind_ok {x : Logged ε α} {a : α} (h : x.result = .ok a) (f : α → Logged ε β) :
    (x >>= f).events = x.events ++ (f a).events := by
  show (Logged.bind x f).events = _
  simp [Logged.bind, h]

theorem events_bind_error {x : Logged ε α} {e : ε} (h : x.result = .error e)
    (f : α → Logged ε β) : (x >>= f).events = x.events := by
  show (Logged.bind x f).events = _
  simp [Logged.bind, h]

@[simp] theorem result_report (e : Event) : (report e : Logged ε Unit).result = .ok () := rfl

@[simp] theorem result_fail (e : ε) : (fail e : Logged ε α).result = .error e := rfl

@[simp] theorem result_ofExcept (x : Except ε α) : (ofExcept x).result = x := rfl

@[simp] theorem result_mapError (f : ε → ε') (x : Logged ε α) :
    (x.mapError f).result = x.result.mapError f := rfl

theorem result_mapError_eq_ok_iff {f : ε → ε'} {x : Logged ε α} {a : α} :
    (x.mapError f).result = .ok a ↔ x.result = .ok a := by
  rw [result_mapError]
  cases x.result <;> constructor <;> intro h <;> cases h <;> rfl

theorem result_mapError_eq_error_iff {f : ε → ε'} {x : Logged ε α} {e : ε'} :
    (x.mapError f).result = .error e ↔ ∃ cause, x.result = .error cause ∧ f cause = e := by
  rw [result_mapError]
  cases x.result with
  | error cause =>
    constructor
    · intro h
      exact ⟨cause, rfl, Except.error.inj h⟩
    · rintro ⟨cause', h, rfl⟩
      cases h
      rfl
  | ok a =>
    constructor
    · intro h
      cases h
    · rintro ⟨cause', h, -⟩
      cases h

theorem toOption_result_eq_some_iff {x : Logged ε α} {a : α} :
    x.result.toOption = some a ↔ x.result = .ok a := by
  cases x.result <;> simp [Except.toOption]

end Logged
end Companion
