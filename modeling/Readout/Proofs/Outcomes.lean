/-!
# Outcomes of steps

Steps that may fail are done one after the other, and a failure ends them.
-/

theorem Except.bind_eq_ok_iff {first : Except ε α} {after : α → Except ε β} {result : β} :
    first >>= after = .ok result ↔ ∃ value, first = .ok value ∧ after value = .ok result := by
  cases first with
  | error cause => exact ⟨nofun, nofun⟩
  | ok value =>
      exact ⟨fun after_eq => ⟨value, rfl, after_eq⟩, fun ⟨_, rfl, after_eq⟩ => after_eq⟩

theorem Except.toOption_eq_some_iff {outcome : Except ε α} {value : α} :
    outcome.toOption = some value ↔ outcome = .ok value := by
  cases outcome with
  | error cause => exact ⟨nofun, nofun⟩
  | ok found => rw [Except.ok.injEq, Except.toOption, Option.some.injEq]
