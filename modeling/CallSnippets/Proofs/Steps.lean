/-!
# Steps that may fail

What a row of steps comes to, each of which may fail. A row succeeds if all its steps do, and the
first step that fails decides what it fails with.

## Main definitions

* `errorOf?`: What a step fails with.

## Theorems

* `ok_bind`, `error_bind`: A step that succeeds hands on what it made, one that fails ends the row.
* `bind_eq_ok`: A row succeeds exactly if both of its parts do.
* `map_eq_ok`, `mapError_eq_ok`: So does what is made of its end.
* `bind_eq_error`, `mapError_eq_error`: A row fails exactly if its first part does, or its second one behind
  the first, and fails with what is made of this.
* `map_ok`, `map_error`, `mapError_ok`, `mapError_error`: What is made of the end of a row.
* `errorOf?_bind`: A row fails with what its first part fails with, or else with what the second does.
-/

namespace CallSnippets

variable {ε ε' α β : Type}

@[simp] theorem ok_bind (a : α) (f : α → Except ε β) : (Except.ok a >>= f) = f a := rfl

@[simp] theorem error_bind (e : ε) (f : α → Except ε β) :
    ((Except.error e : Except ε α) >>= f) = .error e := rfl

@[simp] theorem pure_eq_ok (a : α) : (pure a : Except ε α) = .ok a := rfl

@[simp] theorem map_ok (f : α → β) (a : α) : (Except.ok a : Except ε α).map f = .ok (f a) := rfl

@[simp] theorem map_error (f : α → β) (e : ε) :
    (Except.error e : Except ε α).map f = .error e := rfl

@[simp] theorem mapError_ok (f : ε → ε') (a : α) :
    (Except.ok a : Except ε α).mapError f = .ok a := rfl

@[simp] theorem mapError_error (f : ε → ε') (e : ε) :
    (Except.error e : Except ε α).mapError f = .error (f e) := rfl

theorem bind_eq_ok {x : Except ε α} {f : α → Except ε β} {b : β} :
    (x >>= f) = .ok b ↔ ∃ a, x = .ok a ∧ f a = .ok b := by
  cases x with
  | error e => simp only [error_bind, reduceCtorEq, false_and, exists_false]
  | ok a => simp only [ok_bind, Except.ok.injEq, exists_eq_left']

theorem bind_eq_error {x : Except ε α} {f : α → Except ε β} {e : ε} :
    (x >>= f) = .error e ↔ x = .error e ∨ ∃ a, x = .ok a ∧ f a = .error e := by
  cases x with
  | error e' =>
      simp only [error_bind, Except.error.injEq, reduceCtorEq, false_and, exists_false, or_false]
  | ok a => simp only [ok_bind, reduceCtorEq, false_or, Except.ok.injEq, exists_eq_left']

theorem map_eq_ok {f : α → β} {x : Except ε α} {b : β} : x.map f = .ok b ↔ ∃ a, x = .ok a ∧ f a = b := by
  cases x with
  | error e => simp only [map_error, reduceCtorEq, false_and, exists_false]
  | ok a => simp only [map_ok, Except.ok.injEq, exists_eq_left']

theorem mapError_eq_ok {f : ε → ε'} {x : Except ε α} {a : α} :
    x.mapError f = .ok a ↔ x = .ok a := by
  cases x with
  | error e => simp only [mapError_error, reduceCtorEq]
  | ok b => simp only [mapError_ok, Except.ok.injEq]

theorem mapError_eq_error {f : ε → ε'} {x : Except ε α} {e' : ε'} :
    x.mapError f = .error e' ↔ ∃ e, x = .error e ∧ f e = e' := by
  cases x with
  | error e => simp only [mapError_error, Except.error.injEq, exists_eq_left']
  | ok a => simp only [mapError_ok, reduceCtorEq, false_and, exists_false]

theorem eq_ok_of_toOption {x : Except ε α} {a : α} (h : x.toOption = some a) : x = .ok a := by
  cases x with
  | error e => exact absurd h (by simp only [Except.toOption, reduceCtorEq, not_false_eq_true])
  | ok b => exact congrArg Except.ok (Option.some.inj h)

/-- What a step fails with, if it fails. -/
def errorOf? : Except ε α → Option ε
  | .error e => some e
  | .ok _ => none

@[simp] theorem errorOf?_ok (a : α) : errorOf? (.ok a : Except ε α) = none := rfl

@[simp] theorem errorOf?_error (e : ε) : errorOf? (.error e : Except ε α) = some e := rfl

theorem errorOf?_eq_some {x : Except ε α} {e : ε} : errorOf? x = some e ↔ x = .error e := by
  cases x with
  | ok a => simp only [errorOf?_ok, reduceCtorEq]
  | error e' => simp only [errorOf?_error, Option.some.injEq, Except.error.injEq]

/-- A row fails with what its first part fails with, or else with what the second does. The second part
    has to be known only for what the first one makes. -/
theorem errorOf?_bind {x : Except ε α} {f : α → Except ε β} {o : Option ε}
    (h : ∀ a, x = .ok a → errorOf? (f a) = o) : errorOf? (x >>= f) = (errorOf? x).or o := by
  cases x with
  | error e => rfl
  | ok a => rw [ok_bind, h a rfl, errorOf?_ok, Option.none_or]

theorem errorOf?_mapError (f : ε → ε') (x : Except ε α) :
    errorOf? (x.mapError f) = (errorOf? x).map f := by
  cases x <;> rfl

end CallSnippets
