import Mathlib.Data.List.Basic

set_option autoImplicit false

namespace PackageAssay

variable {ε α β : Type}

theorem bind_eq_ok_iff (first : Except ε α) (next : α → Except ε β) (value : β) :
    (first >>= next) = .ok value ↔ ∃ middle, first = .ok middle ∧ next middle = .ok value := by
  cases first with
  | error failure => simp [bind, Except.bind]
  | ok middle => simp [bind, Except.bind]

theorem map_eq_ok_iff (change : α → β) (result : Except ε α) (value : β) :
    result.map change = .ok value ↔ ∃ held, result = .ok held ∧ change held = value := by
  cases result with
  | error failure => simp [Except.map]
  | ok held => simp [Except.map]

theorem map_of_mapM {see : α → Except ε β} {items : List α} {results : List β}
    (done : items.mapM see = .ok results) : items.map see = results.map .ok := by
  induction items generalizing results with
  | nil =>
      cases done
      rfl
  | cons item rest ih =>
      rw [List.mapM_cons, bind_eq_ok_iff] at done
      obtain ⟨first, seen, done⟩ := done
      obtain ⟨others, later, done⟩ := (bind_eq_ok_iff _ _ _).1 done
      cases done
      rw [List.map_cons, List.map_cons, seen, ih later]

theorem eq_ok_getD {result : Except ε α} (other : α) (succeeds : result.isOk = true) :
    result = .ok (result.toOption.getD other) := by
  cases result with
  | ok value => rfl
  | error failure => cases succeeds

theorem eq_ok_some {result : Except ε (Option α)} {value : α}
    (found : result.toOption.join = some value) : result = .ok (some value) := by
  cases result with
  | error failure => cases found
  | ok held =>
      cases held with
      | none => cases found
      | some other => rw [Option.some.inj found]

theorem exists_eq_ok_some {result : Except ε (Option α)}
    (found : result.toOption.join.isSome = true) : ∃ value, result = .ok (some value) := by
  obtain ⟨value, held⟩ := Option.isSome_iff_exists.1 found
  exact ⟨value, eq_ok_some held⟩

end PackageAssay
