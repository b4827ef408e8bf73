import Mathlib.Data.List.DropRight
import Mathlib.Data.Nat.Factorization.Basic
import NumericKernel.Operation
import NumericKernel.Proofs.Arithmetic.Integer
import NumericKernel.Proofs.Prime.Neighbour

/-!
# Unique factorisation

A positive integer and the vector of its exponents determine each other.  Both ways
are settled at one prime after the other: the walk through the primes reads off the
multiplicity of the prime that it stands at, and the product of the powers has these
multiplicities again.

* `factorsFrom_eq`: trial division finds the prime factors;
* `getD_drain`, `getLast?_drain`: what the walk reads off a tally;
* `factorization_powers`: the multiplicities in a product of powers;
* `primeExponents_inverse`: the two conversions undo each other.
-/

namespace NumericKernel.Prime

/-! ## Factors -/

/-- Trial division finds the prime factors of what is sifted. -/
theorem factorsFrom_eq {n p : Nat} (h : 2 ≤ p) (sifted : Sifted n p) :
    factorsFrom n p h = n.primeFactorsList := by
  fun_induction factorsFrom n p h with
  | case1 n p h low =>
    rcases Nat.lt_succ_iff_lt_or_eq.1 low with zero | rfl
    · rw [Nat.lt_one_iff.1 zero, Nat.primeFactorsList_zero]
    · rw [Nat.primeFactorsList_one]
  | case2 n p h high low =>
    have prime := (indivisible_iff_prime n).1 (sifted.indivisible (by omega) low)
    exact (Nat.primeFactorsList_prime prime).symm
  | case3 n p h high root zero ih =>
    have divides := Nat.dvd_of_mod_eq_zero zero
    have least : n.minFac = p := by
      apply Nat.le_antisymm (Nat.minFac_le_of_dvd h divides)
      apply Nat.le_of_not_lt
      intro before
      exact sifted _ (Nat.minFac_prime (by omega)).one_lt before (Nat.minFac_dvd n)
    obtain ⟨m, rfl⟩ := Nat.exists_eq_add_of_le' (Nat.le_of_not_lt high)
    rw [ih (sifted.of_dvd (Nat.div_dvd_of_dvd divides)), Nat.primeFactorsList_add_two, least]
  | case4 n p h high root rest ih => exact ih (sifted.successorNat rest)

theorem factors_eq (n : Int) : factors n = n.toNat.primeFactorsList :=
  factorsFrom_eq (Nat.le_refl 2) (sifted_two n.toNat)

/-! ## The walk through the primes -/

theorem nth_prime_ne {i j : Nat} (other : i ≠ j) : Nat.nth Nat.Prime i ≠ Nat.nth Nat.Prime j :=
  (Nat.nth_injective Nat.infinite_setOfPred_prime).ne other

/-- The walk reads the value of each prime, and zero for a prime without one. -/
theorem getD_drain {remaining : Dictionary Nat Nat} {p : Nat} (ahead : Ahead remaining p) {i : Nat}
    (start : p = Nat.nth Nat.Prime i) (j : Nat) :
    (drain remaining p ahead).getD j 0 = (remaining.get? (Nat.nth Nat.Prime (i + j))).getD 0 := by
  fun_induction drain remaining p ahead generalizing i j with
  | case1 remaining p ahead used =>
    rw [Dictionary.get?_of_size_eq_zero used]
    rfl
  | case2 remaining p ahead more ih =>
    cases j with
    | zero => rw [List.getD_cons_zero, start, Nat.add_zero]
    | succ j =>
      have met : Nat.nth Nat.Prime (i + 1 + j) ≠ p := start ▸ nth_prime_ne (by omega)
      rw [List.getD_cons_succ, ih (start ▸ successorNat_nth i) j, Dictionary.get?_erase, if_neg met,
        Nat.add_assoc, Nat.add_comm 1 j]

theorem drain_eq_nil_iff {remaining : Dictionary Nat Nat} {p : Nat} (ahead : Ahead remaining p) :
    drain remaining p ahead = [] ↔ remaining.size = 0 := by
  rw [drain]
  by_cases used : remaining.size = 0 <;> simp [used]

/-- The walk stops after the last key, so its last value is not a missing one. -/
theorem getLast?_drain {remaining : Dictionary Nat Nat} {p : Nat} (ahead : Ahead remaining p)
    (positive : ∀ q, remaining.get? q ≠ some 0) : (drain remaining p ahead).getLast? ≠ some 0 := by
  fun_induction drain remaining p ahead with
  | case1 remaining p ahead used => simp
  | case2 remaining p ahead more ih =>
    have kept (q : Nat) : (remaining.erase p).get? q ≠ some 0 := by
      rw [Dictionary.get?_erase]
      by_cases same : q = p
      · simp [same]
      · rw [if_neg same]
        exact positive q
    have later := ih kept
    rw [List.getLast?_cons]
    cases ends : (drain (remaining.erase p) (successorNat p) ahead.erase).getLast? with
    | some last => simpa [ends] using later
    | none =>
      have used := (drain_eq_nil_iff _).1 (List.getLast?_eq_none_iff.1 ends)
      have present : p ∈ remaining.keys := by
        by_contra absent
        apply more
        rw [← Dictionary.length_keys] at used ⊢
        rwa [Dictionary.keys_erase, List.filter_eq_self.2] at used
        intro q member
        exact decide_eq_true fun same => absent (same ▸ member)
      have value := remaining.get?_eq_some_get present
      have nonzero := positive p
      rw [value] at nonzero ⊢
      simpa using nonzero

/-- An exponent is the multiplicity of its prime. -/
theorem getD_exponents (n : Int) (i : Nat) :
    (exponents n).getD i 0 = n.toNat.factorization (Nat.nth Nat.Prime i) := by
  unfold exponents
  rw [getD_drain (ahead_tally n) Nat.nth_prime_zero_eq_two.symm, Nat.zero_add,
    Dictionary.get?_tally, factors_eq, ← Nat.primeFactorsList_count_eq]
  by_cases member : Nat.nth Nat.Prime i ∈ n.toNat.primeFactorsList
  · simp [member]
  · simp [member, List.count_eq_zero_of_not_mem]

theorem getLast?_exponents (n : Int) : (exponents n).getLast? ≠ some 0 := by
  apply getLast?_drain
  intro q
  rw [Dictionary.get?_tally]
  by_cases member : q ∈ factors n
  · simp [member, List.count_eq_zero]
  · simp [member]

/-! ## Products of powers -/

/-- The product of the powers of the primes from an index on. -/
noncomputable def powers (i : Nat) : List Nat → Nat
  | [] => 1
  | e :: rest => Nat.nth Nat.Prime i ^ e * powers (i + 1) rest

theorem powers_ne_zero (i : Nat) (es : List Nat) : powers i es ≠ 0 := by
  induction es generalizing i with
  | nil => exact Nat.one_ne_zero
  | cons e rest ih =>
    exact Nat.mul_ne_zero (pow_ne_zero e (Nat.prime_nth_prime i).ne_zero) (ih (i + 1))

/-- In a product of powers every prime has its exponent as its multiplicity. -/
theorem factorization_powers (i : Nat) (es : List Nat) (k : Nat) :
    (powers i es).factorization (Nat.nth Nat.Prime k) = if k < i then 0 else es.getD (k - i) 0 := by
  induction es generalizing i with
  | nil => simp [powers]
  | cons e rest ih =>
    have prime := Nat.prime_nth_prime i
    rw [powers, Nat.factorization_mul (pow_ne_zero e prime.ne_zero) (powers_ne_zero _ rest),
      Finsupp.add_apply, prime.factorization_pow, Finsupp.single_apply, ih]
    rcases Nat.lt_trichotomy k i with before | rfl | after
    · rw [if_neg (nth_prime_ne (by omega)), if_pos (by omega), if_pos before]
    · rw [if_pos rfl, if_pos k.lt_succ_self, if_neg k.lt_irrefl, Nat.sub_self]
      rfl
    · rw [if_neg (nth_prime_ne (by omega)), if_neg (by omega), if_neg (by omega), Nat.zero_add,
        show k - i = k - (i + 1) + 1 by omega, List.getD_cons_succ]

/-- Natural exponents as the values that a host passes. -/
def naturals (es : List Nat) : List Value := es.map fun e : Nat => .number (.int e)

/-- The product over natural exponents is exact. -/
theorem productFrom_naturals (i : Nat) (first : Int) (es : List Nat) :
    productFrom (Nat.nth Nat.Prime i) (.int first) (naturals es) =
      .ok (.int (first * powers i es)) := by
  induction es generalizing i first with
  | nil => simp [naturals, productFrom, powers]
  | cons e rest ih =>
    have exponent : (Value.number (.int e)).requireOperand = .ok (.int e) := rfl
    rw [naturals, List.map_cons, productFrom, exponent, ok_bind, Number.power_int, ok_bind,
      Number.mul_int, ok_bind, successorNat_nth]
    refine (ih (i + 1) _).trans ?_
    rw [powers, Nat.cast_mul, Nat.cast_pow, Int.mul_assoc]

/-- The call on natural exponents gives the product of the powers. -/
theorem ofExponents_naturals (es : List Nat) :
    ofExponents (naturals es) = .ok (.int (powers 0 es)) := by
  have product := productFrom_naturals 0 1 es
  rwa [Nat.nth_prime_zero_eq_two, Int.one_mul] at product

/-! ## Both directions -/

/-- Two numbers with the same multiplicities at all primes of the sequence are equal. -/
theorem eq_of_factorization_nth {m n : Nat} (hm : m ≠ 0) (hn : n ≠ 0)
    (same : ∀ i, m.factorization (Nat.nth Nat.Prime i) = n.factorization (Nat.nth Nat.Prime i)) :
    m = n := by
  apply Nat.eq_of_factorization_eq hm hn
  intro p
  by_cases prime : p.Prime
  · rw [← Nat.nth_count prime]
    exact same _
  · rw [Nat.factorization_eq_zero_of_not_prime m prime, Nat.factorization_eq_zero_of_not_prime n prime]

/-- Of two vectors that agree in all places neither is longer than the last value of
the other one that is not zero. -/
theorem length_le_of_getD_eq {xs ys : List Nat} (same : ∀ i, xs.getD i 0 = ys.getD i 0)
    (last : xs.getLast? ≠ some 0) : xs.length ≤ ys.length := by
  apply Nat.le_of_not_lt
  intro longer
  have beyond := same (xs.length - 1)
  rw [List.getD_eq_default ys 0 (by omega), List.getD_eq_getElem xs 0 (by omega)] at beyond
  apply last
  rw [List.getLast?_eq_getElem?, List.getElem?_eq_getElem (by omega), beyond]

/-- Vectors that agree in all places and end with no zero are equal. -/
theorem eq_of_getD_eq {xs ys : List Nat} (same : ∀ i, xs.getD i 0 = ys.getD i 0)
    (hx : xs.getLast? ≠ some 0) (hy : ys.getLast? ≠ some 0) : xs = ys := by
  have length : xs.length = ys.length :=
    Nat.le_antisymm (length_le_of_getD_eq same hx) (length_le_of_getD_eq (fun i => (same i).symm) hy)
  apply List.ext_getElem length
  intro i inside _
  rw [← List.getD_eq_getElem xs 0, same i, List.getD_eq_getElem]

/-- Dropping the zeros at the end changes no place. -/
theorem getD_rdropWhile (es : List Nat) (i : Nat) :
    (es.rdropWhile (· = 0)).getD i 0 = es.getD i 0 := by
  induction es using List.reverseRecOn with
  | nil => rfl
  | append_singleton es e ih =>
    rw [List.rdropWhile_concat]
    by_cases zero : e = 0
    · rw [if_pos (decide_eq_true zero), ih, zero]
      by_cases inside : i < es.length
      · rw [List.getD_append es _ 0 i inside]
      · rw [List.getD_eq_default es 0 (by omega), List.getD_append_right es _ 0 i (by omega)]
        cases i - es.length <;> rfl
    · rw [if_neg (by simpa using zero)]

/-- Without the zeros at the end a vector ends with no zero. -/
theorem getLast?_rdropWhile (es : List Nat) : (es.rdropWhile (· = 0)).getLast? ≠ some 0 := by
  intro zero
  have nonempty : es.rdropWhile (· = 0) ≠ [] := by
    intro empty
    rw [empty] at zero
    cases zero
  have kept := List.rdropWhile_last_not _ es nonempty
  rw [List.getLast?_eq_some_getLast nonempty] at zero
  exact kept (decide_eq_true (Option.some.inj zero))

theorem powers_exponents {n : Nat} (positive : n ≠ 0) : powers 0 (exponents n) = n := by
  apply eq_of_factorization_nth (powers_ne_zero 0 _) positive
  intro i
  rw [factorization_powers, if_neg i.not_lt_zero, Nat.sub_zero, getD_exponents, Int.toNat_natCast]

/-- The exponents of a product of powers are those given, without zeros at the end. -/
theorem exponents_powers (es : List Nat) :
    exponents (powers 0 es) = es.rdropWhile (· = 0) := by
  apply eq_of_getD_eq _ (getLast?_exponents _) (getLast?_rdropWhile es)
  intro i
  rw [getD_exponents, Int.toNat_natCast, factorization_powers, if_neg i.not_lt_zero, Nat.sub_zero,
    getD_rdropWhile]

/-- The exponents of a positive integer end with none that is zero and give the integer
back, and the number with given exponents gives these back, up to zeros at the end. -/
theorem primeExponents_inverse :
    (∀ n : Int, 1 ≤ n → ∃ es, Operation.primeExponents (.number (.int n)) = .ok es ∧
      es.getLast? ≠ some 0 ∧ Operation.ofPrimeExponents (naturals es) = .ok (.int n)) ∧
    ∀ es : List Nat, ∃ n : Int, Operation.ofPrimeExponents (naturals es) = .ok (.int n) ∧
      Operation.primeExponents (.number (.int n)) = .ok (es.rdropWhile (· = 0)) := by
  constructor
  · intro n positive
    obtain ⟨m, rfl⟩ := Int.eq_ofNat_of_zero_le (Int.le_of_lt positive)
    refine ⟨exponents m, rfl, getLast?_exponents m, ?_⟩
    have product := ofExponents_naturals (exponents m)
    rwa [powers_exponents (by omega)] at product
  · intro es
    refine ⟨powers 0 es, ofExponents_naturals es, ?_⟩
    exact congrArg Except.ok (exponents_powers es)

/-- A number that passes over the primes three and seven. -/
theorem primeExponents_inverse_2200 :
    ∃ es, Operation.primeExponents (.number (.int 2200)) = .ok es ∧ es.getLast? ≠ some 0 ∧
      Operation.ofPrimeExponents (naturals es) = .ok (.int 2200) :=
  primeExponents_inverse.1 2200 (by decide)

end NumericKernel.Prime
