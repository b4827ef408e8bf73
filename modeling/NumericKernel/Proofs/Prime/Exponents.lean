import NumericKernel.Proofs.Arithmetic.CommonDivisor
import NumericKernel.Proofs.Prime.Factorisation

/-!
# Exponents of products, common divisors and common multiples

The vector of exponents carries the product of two positive integers to the sum, the
greatest common divisor to the minimum and the least common multiple to the maximum,
place by place.  The shorter vector counts as continued with zeros.

* `getD_pointwise`: a combined vector in one place;
* `exponents_eq_pointwise`: a number is recognised by its multiplicities;
* `primeExponents_pointwise`: the three operations.
-/

namespace NumericKernel.Prime

/-- Two vectors combined place by place, the shorter one continued with zeros, without
the zeros at the end. -/
def pointwise (op : Nat → Nat → Nat) (xs ys : List Nat) : List Nat :=
  (List.zipWithAll (fun x y => op (x.getD 0) (y.getD 0)) xs ys).rdropWhile (· = 0)

/-- A combined vector has the combined exponents, places without one counting as zero. -/
theorem getD_pointwise {op : Nat → Nat → Nat} (zero : op 0 0 = 0) (xs ys : List Nat) (i : Nat) :
    (pointwise op xs ys).getD i 0 = op (xs.getD i 0) (ys.getD i 0) := by
  rw [pointwise, getD_rdropWhile, List.getD_eq_getElem?_getD, List.getElem?_zipWithAll,
    List.getD_eq_getElem?_getD, List.getD_eq_getElem?_getD]
  cases xs[i]? <;> cases ys[i]? <;> simp [zero]

theorem getLast?_pointwise (op : Nat → Nat → Nat) (xs ys : List Nat) :
    (pointwise op xs ys).getLast? ≠ some 0 := getLast?_rdropWhile _

/-- A number whose multiplicities are combined from those of two others has the combined
vector of exponents. -/
theorem exponents_eq_pointwise {op : Nat → Nat → Nat} (zero : op 0 0 = 0) {k m n : Nat}
    (combined : ∀ p, k.factorization p = op (m.factorization p) (n.factorization p)) :
    exponents k = pointwise op (exponents m) (exponents n) := by
  apply eq_of_getD_eq _ (getLast?_exponents k) (getLast?_pointwise op _ _)
  intro i
  rw [getD_pointwise zero, getD_exponents, getD_exponents, getD_exponents, Int.toNat_natCast,
    Int.toNat_natCast, Int.toNat_natCast, combined]

section Naturals

variable {m n : Nat} (hm : m ≠ 0) (hn : n ≠ 0)

include hm hn

theorem exponents_mul : exponents (m * n : Nat) = pointwise (· + ·) (exponents m) (exponents n) :=
  exponents_eq_pointwise rfl fun p => by rw [Nat.factorization_mul hm hn, Finsupp.add_apply]

theorem exponents_gcd : exponents (m.gcd n) = pointwise min (exponents m) (exponents n) :=
  exponents_eq_pointwise rfl fun p => by rw [Nat.factorization_gcd hm hn, Finsupp.inf_apply]

theorem exponents_lcm : exponents (m.lcm n) = pointwise max (exponents m) (exponents n) :=
  exponents_eq_pointwise rfl fun p => by rw [Nat.factorization_lcm hm hn, Finsupp.sup_apply]

end Naturals

theorem primeExponents_int (n : Int) :
    Operation.primeExponents (.number (.int n)) = .ok (exponents n) := rfl

/-- The exponents of a product are the sums of the exponents, those of the greatest
common divisor the minima and those of the least common multiple the maxima. -/
theorem primeExponents_pointwise {m n : Int} (hm : 1 ≤ m) (hn : 1 ≤ n) :
    ∃ es fs, Operation.primeExponents (.number (.int m)) = .ok es ∧
      Operation.primeExponents (.number (.int n)) = .ok fs ∧
      Operation.primeExponents (.number (.int (m * n))) = .ok (pointwise (· + ·) es fs) ∧
      (∃ d : Int, Operation.gcd (.number (.int m)) (.number (.int n)) = .ok (.int d) ∧
        Operation.primeExponents (.number (.int d)) = .ok (pointwise min es fs)) ∧
      ∃ l : Int, Operation.lcm (.number (.int m)) (.number (.int n)) = .ok (.int l) ∧
        Operation.primeExponents (.number (.int l)) = .ok (pointwise max es fs) := by
  lift m to Nat using by omega
  lift n to Nat using by omega
  have nonzero : m ≠ 0 ∧ n ≠ 0 := by omega
  obtain ⟨hm, hn⟩ := nonzero
  refine ⟨exponents m, exponents n, rfl, rfl, ?_, ⟨m.gcd n, Number.gcd_natCast m n, ?_⟩,
    m.lcm n, Number.lcm_natCast (Nat.gcd_ne_zero_left hm), ?_⟩
  · rw [primeExponents_int, ← exponents_mul hm hn, Nat.cast_mul]
  · rw [primeExponents_int, exponents_gcd hm hn]
  · rw [primeExponents_int, exponents_lcm hm hn]

/-- Two numbers of which neither has all the primes of the other. -/
theorem primeExponents_pointwise_360_84 :
    ∃ es fs, Operation.primeExponents (.number (.int 360)) = .ok es ∧
      Operation.primeExponents (.number (.int 84)) = .ok fs ∧
      ∃ d : Int, Operation.gcd (.number (.int 360)) (.number (.int 84)) = .ok (.int d) ∧
        Operation.primeExponents (.number (.int d)) = .ok (pointwise min es fs) := by
  obtain ⟨es, fs, left, right, -, common, -⟩ :=
    primeExponents_pointwise (m := 360) (n := 84) (by decide) (by decide)
  exact ⟨es, fs, left, right, common⟩

end NumericKernel.Prime
