/-
Results that are known to be a success or a failure, and what they were made from.
-/

namespace DottedConfig

section

variable {ε α β : Type} {x : Except ε α}

theorem map_eq_error_iff {g : α → β} {fault : ε} :
    x.map g = .error fault ↔ x = .error fault := by
  cases x with
  | error fault' => simp [Except.map]
  | ok a => simp [Except.map]

theorem eq_ok_of_map {g : α → β} {b : β} (h : x.map g = .ok b) : ∃ a, x = .ok a ∧ g a = b := by
  cases x with
  | error fault => cases h
  | ok a => exact ⟨a, rfl, Except.ok.inj h⟩

theorem eq_ok_of_mapError {g : ε → ε} {a : α} (h : x.mapError g = .ok a) : x = .ok a := by
  cases x with
  | error fault => cases h
  | ok a' => exact congrArg _ (Except.ok.inj h)

theorem eq_ok_of_toOption {a : α} (h : x.toOption = some a) : x = .ok a := by
  cases x with
  | error fault => cases h
  | ok a' => exact congrArg _ (Option.some.inj h)

theorem eq_ok_of_bind {next : α → Except ε β} {b : β} (h : x >>= next = .ok b) :
    ∃ a, x = .ok a ∧ next a = .ok b := by
  cases x with
  | error fault => cases h
  | ok a => exact ⟨a, rfl, h⟩

end

end DottedConfig
