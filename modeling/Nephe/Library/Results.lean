import Mathlib.Tactic.Common

/-!
# Results that may be errors

A computation that ends well can be taken apart into its steps, all of which
ended well.
-/

namespace Nephe.Library

variable {ε α β : Type}

theorem bind_eq_ok {first : Except ε α} {next : α → Except ε β} {result : β} :
    (first >>= next) = .ok result ↔ ∃ value, first = .ok value ∧ next value = .ok result := by
  cases first with
  | error err => simp [bind, Except.bind]
  | ok value => simp [bind, Except.bind]

theorem map_eq_ok {first : Except ε α} {change : α → β} {result : β} :
    (change <$> first) = .ok result ↔ ∃ value, first = .ok value ∧ change value = result := by
  cases first with
  | error err => simp [Functor.map, Except.map]
  | ok value => simp [Functor.map, Except.map]

theorem pure_eq_ok {value result : α} :
    (pure value : Except ε α) = .ok result ↔ value = result := by
  simp [pure, Except.pure]

end Nephe.Library
