import Mathlib.Data.Nat.Fib.Basic
import NumericKernel.Proofs.Arithmetic.CommonDivisor

/-!
# Laws of the linear recurrences

The two numbers that a recurrence carries along are, from any start, combinations of
neighbouring Fibonacci numbers with the first two numbers for weights.  So the numbers of
Lucas are sums of Fibonacci numbers, and the laws of the Fibonacci numbers are laws of the
calls.

* `term_succ`: a recurrence from any two numbers on;
* `fibonacci_natCast`, `lucas_succ`: the two calls;
* `fibonacci_laws`: the sum that a Lucas number is, the law of addition, and that common
  divisors are again Fibonacci numbers.
-/

namespace NumericKernel.Recurrence

/-! ## From any start -/

/-- A term is a sum of Fibonacci numbers, weighted by the first two terms. -/
theorem term_succ (a b n : Nat) :
    term a b (n + 1) = a * Nat.fib n + b * Nat.fib (n + 1) := by
  -- one step of the loop makes another start, so the start is general in the induction
  induction n generalizing a b with
  | zero => simp [term]
  | succ n ih =>
    rw [term, ih, Nat.fib_add_two]
    ring

theorem term_fibonacci (n : Nat) : term 0 1 n = Nat.fib n := by
  cases n with
  | zero => rfl
  | succ n => rw [term_succ, Nat.zero_mul, Nat.zero_add, Nat.one_mul]

theorem term_lucas (n : Nat) : term 2 1 (n + 1) = Nat.fib n + Nat.fib (n + 2) := by
  rw [term_succ, Nat.fib_add_two]
  ring

/-! ## The calls -/

theorem termAt_natCast (name : String) (a b n : Nat) : termAt name a b n = .ok (term a b n) := by
  rw [termAt, if_neg (Int.not_lt.2 (Int.natCast_nonneg n)), Int.toNat_natCast]

/-- The call on a natural number gives its Fibonacci number. -/
theorem fibonacci_natCast (n : Nat) :
    Operation.fibonacci (.number (.int n)) = .ok (Nat.fib n) := by
  rw [← term_fibonacci]
  exact termAt_natCast "fibonacci" 0 1 n

/-- The call on a positive number gives the sum of the Fibonacci numbers beside it. -/
theorem lucas_succ (n : Nat) :
    Operation.lucas (.number (.int (n + 1 : Nat))) = .ok (Nat.fib n + Nat.fib (n + 2)) := by
  rw [← term_lucas]
  exact termAt_natCast "lucas" 2 1 (n + 1)

/-- A Lucas number is the sum of the Fibonacci numbers on either side of its index.  A
Fibonacci number of a sum of indices is that of the products of neighbours, and the common
divisor of two Fibonacci numbers is the one at the common divisor of their indices. -/
theorem fibonacci_laws :
    (∀ n : Int, 1 ≤ n → ∃ before after : Nat,
      Operation.fibonacci (.number (.int (n - 1))) = .ok before ∧
      Operation.fibonacci (.number (.int (n + 1))) = .ok after ∧
      Operation.lucas (.number (.int n)) = .ok (before + after)) ∧
    (∀ m n : Int, 0 ≤ m → 0 ≤ n → ∃ a a' b b' : Nat,
      Operation.fibonacci (.number (.int m)) = .ok a ∧
      Operation.fibonacci (.number (.int (m + 1))) = .ok a' ∧
      Operation.fibonacci (.number (.int n)) = .ok b ∧
      Operation.fibonacci (.number (.int (n + 1))) = .ok b' ∧
      Operation.fibonacci (.number (.int (m + n + 1))) = .ok (a' * b' + a * b)) ∧
    ∀ m n : Int, 0 ≤ m → 0 ≤ n → ∃ (a b g : Nat) (d : Int),
      Operation.fibonacci (.number (.int m)) = .ok a ∧
      Operation.fibonacci (.number (.int n)) = .ok b ∧
      Operation.gcd (.number (.int m)) (.number (.int n)) = .ok (.int d) ∧
      Operation.fibonacci (.number (.int d)) = .ok g ∧
      Operation.gcd (.number (.int a)) (.number (.int b)) = .ok (.int g) := by
  refine ⟨fun n positive => ?_, fun m n first second => ?_, fun m n first second => ?_⟩
  · obtain ⟨k, rfl⟩ : ∃ k : Nat, n = (k + 1 : Nat) := ⟨(n - 1).toNat, by omega⟩
    have before : ((k + 1 : Nat) : Int) - 1 = k := by omega
    refine ⟨Nat.fib k, Nat.fib (k + 2), ?_, fibonacci_natCast (k + 2), lucas_succ k⟩
    rw [before]
    exact fibonacci_natCast k
  · lift m to Nat using first
    lift n to Nat using second
    refine ⟨Nat.fib m, Nat.fib (m + 1), Nat.fib n, Nat.fib (n + 1), fibonacci_natCast m,
      fibonacci_natCast (m + 1), fibonacci_natCast n, fibonacci_natCast (n + 1), ?_⟩
    rw [Nat.add_comm, ← Nat.fib_add]
    exact fibonacci_natCast (m + n + 1)
  · lift m to Nat using first
    lift n to Nat using second
    refine ⟨Nat.fib m, Nat.fib n, Nat.fib (m.gcd n), m.gcd n, fibonacci_natCast m,
      fibonacci_natCast n, Number.gcd_natCast m n, fibonacci_natCast (m.gcd n), ?_⟩
    rw [Nat.fib_gcd]
    exact Number.gcd_natCast (Nat.fib m) (Nat.fib n)

/-- The Fibonacci numbers 144 and 2584 have the common divisor 8, which is the one at index
six. -/
theorem fibonacci_laws_twelve_eighteen :
    Operation.lucas (.number (.int 12)) = .ok 322 ∧
    Operation.fibonacci (.number (.int (12 + 18 + 1))) = .ok 1346269 ∧
    Operation.gcd (.number (.int 144)) (.number (.int 2584)) = .ok (.int 8) := by
  obtain ⟨sums, additions, divisors⟩ := fibonacci_laws
  obtain ⟨_, _, ⟨⟩, ⟨⟩, sum⟩ := sums 12 (by decide)
  obtain ⟨_, _, _, _, ⟨⟩, ⟨⟩, ⟨⟩, ⟨⟩, added⟩ := additions 12 18 (by decide) (by decide)
  obtain ⟨_, _, _, _, ⟨⟩, ⟨⟩, ⟨⟩, ⟨⟩, divisor⟩ := divisors 12 18 (by decide) (by decide)
  exact ⟨sum, added, divisor⟩

end NumericKernel.Recurrence
