import Mathlib.Data.List.Forall2
import NumericKernel.Fault

/-!
# Computations in several parts

What becomes of a computation is decided by its parts, one after the other: it succeeds when
all of them do, and fails with the first one that does.
-/

namespace NumericKernel

/-- Whether a computation has a given result can be decided, whatever its faults are. -/
instance decidableEqOk {α : Type} [DecidableEq α] (x : Except Fault α) (a : α) :
    Decidable (x = .ok a) :=
  match x with
  | .ok b => decidable_of_iff (b = a) (Except.ok.injEq b a ▸ Iff.rfl)
  | .error _ => .isFalse nofun

theorem ok_bind {α β : Type} (x : α) (next : α → Except Fault β) :
    (Except.ok x >>= next) = next x := rfl

section Bind

variable {α β : Type} {x : Except Fault α} {next : α → Except Fault β}

/-- A computation in two parts succeeds when both of them do. -/
theorem bind_eq_ok_iff {b : β} : (x >>= next) = .ok b ↔ ∃ a, x = .ok a ∧ next a = .ok b := by
  cases x with
  | error fault => simp [bind, Except.bind]
  | ok a => simp [ok_bind]

/-- A computation in two parts fails when the first one does, or the second one after it. -/
theorem bind_eq_error_iff {fault : Fault} :
    (x >>= next) = .error fault ↔ x = .error fault ∨ ∃ a, x = .ok a ∧ next a = .error fault := by
  cases x with
  | error first => simp [bind, Except.bind]
  | ok a => simp [ok_bind]

/-- A computation with another one in its place has the result of the first, or that of the
second where the first has no place in its domain. -/
theorem whereUndefined_eq_ok_iff {other : Except Fault α} {a : α} :
    whereUndefined x other = .ok a ↔
      x = .ok a ∨ (∃ fault, x = .error fault ∧ fault.kind = .undefinedDomain) ∧ other = .ok a := by
  cases x with
  | ok b => simp [whereUndefined]
  | error fault =>
    by_cases undefined : fault.kind = .undefinedDomain <;> simp [whereUndefined, undefined]

end Bind

section Lists

variable {α β : Type} {f : α → Except Fault β} {xs : List α} {ys : List β}

/-- A computation on every item of a list gives the list of the single results. -/
theorem mapM_eq_ok_iff :
    xs.mapM f = .ok ys ↔ List.Forall₂ (fun x y => f x = .ok y) xs ys := by
  induction xs generalizing ys with
  | nil => simp [pure, Except.pure, eq_comm]
  | cons x xs ih =>
    simp only [List.mapM_cons, bind_eq_ok_iff, ih, List.forall₂_cons_left_iff]
    refine exists_congr fun y => ?_
    simp [pure, Except.pure, eq_comm]

theorem exists_mapM_iff : (∃ ys, xs.mapM f = .ok ys) ↔ ∀ x ∈ xs, ∃ y, f x = .ok y := by
  simp only [mapM_eq_ok_iff]
  induction xs with
  | nil => simp
  | cons x xs ih => simp [← ih, List.forall₂_cons_left_iff]

end Lists

section Numbered

variable {α : Type} {f : Nat → Except Fault α} {n : Nat}

theorem mapM_range_succ (f : Nat → Except Fault α) (n : Nat) :
    (List.range (n + 1)).mapM f = do return (← (List.range n).mapM f) ++ [← f n] := by
  simp [List.range_succ]

/-- Numbered computations succeed with the results of each. -/
theorem mapM_range_eq_ok_iff {ys : List α} : (List.range n).mapM f = .ok ys ↔
    ys.length = n ∧ ∀ j (inside : j < ys.length), f j = .ok ys[j] := by
  simp only [mapM_eq_ok_iff, List.forall₂_iff_get, List.length_range, List.get_eq_getElem,
    List.getElem_range]
  refine ⟨fun ⟨length, each⟩ => ⟨length.symm, fun j inside => ?_⟩,
    fun ⟨length, each⟩ => ⟨length.symm, fun j _ inside => each j inside⟩⟩
  exact each j (length ▸ inside) inside

/-- Numbered computations fail with the first that does. -/
theorem mapM_range_eq_error_iff {fault : Fault} : (List.range n).mapM f = .error fault ↔
    ∃ j < n, f j = .error fault ∧ ∀ i < j, ∃ y, f i = .ok y := by
  induction n with
  | zero => simp [pure, Except.pure]
  | succ n ih =>
    have last : (∃ ys, (List.range n).mapM f = .ok ys ∧ f n = .error fault) ↔
        f n = .error fault ∧ ∀ i < n, ∃ y, f i = .ok y := by
      simp only [exists_and_right, exists_mapM_iff, List.mem_range]
      exact and_comm
    rw [Nat.exists_lt_succ_right, ← last, mapM_range_succ, bind_eq_error_iff, ih]
    simp [bind_eq_error_iff, pure, Except.pure]

end Numbered

end NumericKernel
