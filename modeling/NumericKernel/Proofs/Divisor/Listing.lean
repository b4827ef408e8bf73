import Mathlib.Data.Nat.Basic
import NumericKernel.Operation

/-!
# The list of the divisors

The scan from `d` on lists the divisors that are at least `d` and have a cofactor that is
at least `d`.  A divisor and its cofactor enter the list together, one at either end,
unless they are equal.  So the list is in order across the square root, and to exchange
each divisor with its cofactor is to read the list backward.

* `mem_between_iff`, `pairwise_between`, `map_div_between`: the scan from any start;
* `divisors_int`: the call for an integer of any sign.
-/

namespace NumericKernel

namespace Divisor

variable {n d : Nat}

/-! ## Factors from a start on -/

/-- A factor of `n` that is at least `d`, as is its cofactor. -/
def Paired (n d k : Nat) : Prop := ∃ m, k * m = n ∧ d ≤ k ∧ d ≤ m

namespace Paired

variable {k : Nat}

theorem square_le (paired : Paired n d k) : d * d ≤ n := by
  obtain ⟨m, rfl, first, second⟩ := paired
  exact Nat.mul_le_mul first second

theorem of_succ (paired : Paired n (d + 1) k) : Paired n d k := by
  obtain ⟨m, product, first, second⟩ := paired
  exact ⟨m, product, Nat.le_of_succ_le first, Nat.le_of_succ_le second⟩

theorem start (divides : d ∣ n) (bound : d * d ≤ n) (positive : 0 < d) : Paired n d d :=
  ⟨n / d, Nat.mul_div_cancel' divides, Nat.le_refl d, (Nat.le_div_iff_mul_le positive).2 bound⟩

theorem cofactor (divides : d ∣ n) (bound : d * d ≤ n) (positive : 0 < d) : Paired n d (n / d) :=
  ⟨d, Nat.div_mul_cancel divides, (Nat.le_div_iff_mul_le positive).2 bound, Nat.le_refl d⟩

/-- One of a factor and its cofactor is the start, or both lie beyond it. -/
theorem start_or_succ (paired : Paired n d k) (positive : 0 < d) :
    (d ∣ n ∧ (k = d ∨ k = n / d)) ∨ Paired n (d + 1) k := by
  obtain ⟨m, rfl, first, second⟩ := paired
  by_cases least : k = d
  · exact .inl ⟨least ▸ Nat.dvd_mul_right k m, .inl least⟩
  by_cases greatest : m = d
  · subst greatest
    exact .inl ⟨Nat.dvd_mul_left m k, .inr (Nat.mul_div_cancel k positive).symm⟩
  · exact .inr ⟨m, rfl, by omega, by omega⟩

end Paired

/-! ## The scan from a start -/

/-- The scan lists the numbers that are in a pair from its start on. -/
theorem mem_between_iff (positive : 0 < d) (k : Nat) : k ∈ between n d ↔ Paired n d k := by
  fun_induction between n d with
  | case1 d bound divides square =>
    rw [List.mem_singleton]
    constructor
    · rintro rfl
      exact .start (Nat.dvd_of_mod_eq_zero divides) bound.1 positive
    · intro paired
      rcases paired.start_or_succ positive with ⟨_, least | greatest⟩ | beyond
      · exact least
      · exact greatest.trans (Nat.div_eq_of_eq_mul_left positive square.symm)
      · have above := beyond.square_le
        rw [← square, Nat.mul_self_le_mul_self_iff] at above
        omega
  | case2 d bound divides notSquare ih =>
    have dvd := Nat.dvd_of_mod_eq_zero divides
    rw [List.mem_cons, List.mem_append, List.mem_singleton, ih d.succ_pos]
    constructor
    · rintro (rfl | beyond | rfl)
      · exact .start dvd bound.1 positive
      · exact beyond.of_succ
      · exact .cofactor dvd bound.1 positive
    · intro paired
      rcases paired.start_or_succ positive with ⟨_, least | greatest⟩ | beyond
      · exact .inl least
      · exact .inr (.inr greatest)
      · exact .inr (.inl beyond)
  | case3 d bound rest ih =>
    rw [ih d.succ_pos]
    refine ⟨Paired.of_succ, fun paired => ?_⟩
    rcases paired.start_or_succ positive with ⟨dvd, _⟩ | beyond
    · exact absurd (Nat.mod_eq_zero_of_dvd dvd) rest
    · exact beyond
  | case4 d large =>
    refine ⟨fun member => absurd member List.not_mem_nil, fun paired => ?_⟩
    exact absurd ⟨paired.square_le, positive⟩ large

/-- What the scan finds after a divisor lies between it and its cofactor. -/
theorem lt_of_mem_between (positive : 0 < d) (divides : d ∣ n) {k : Nat}
    (member : k ∈ between n (d + 1)) : d < k ∧ k < n / d := by
  obtain ⟨m, rfl, first, second⟩ := (mem_between_iff d.succ_pos k).1 member
  refine ⟨first, ?_⟩
  rw [Nat.lt_div_iff_mul_lt_of_dvd (by omega) divides]
  exact Nat.mul_lt_mul_of_pos_left second (by omega)

/-- The scan lists the divisors in ascending order. -/
theorem pairwise_between (positive : 0 < d) : (between n d).Pairwise (· < ·) := by
  fun_induction between n d with
  | case1 d bound divides square => exact List.pairwise_singleton _ d
  | case2 d bound divides notSquare ih =>
    have dvd := Nat.dvd_of_mod_eq_zero divides
    have inner {k : Nat} (member : k ∈ between n (d + 1)) := lt_of_mem_between positive dvd member
    have ends : d < n / d := by
      rw [Nat.lt_div_iff_mul_lt_of_dvd (by omega) dvd]
      omega
    rw [List.pairwise_cons, List.pairwise_append]
    refine ⟨fun k member => ?_, ih d.succ_pos, List.pairwise_singleton _ _, fun k member e last => ?_⟩
    · rcases List.mem_append.1 member with between | last
      · exact (inner between).1
      · rwa [List.mem_singleton.1 last]
    · rw [List.mem_singleton.1 last]
      exact (inner member).2
  | case3 d bound rest ih => exact ih d.succ_pos
  | case4 d large => exact List.Pairwise.nil

/-- The first divisor and the last one are cofactors, and so on inward. -/
theorem map_div_between (positive : 0 < d) : (between n d).map (n / ·) = (between n d).reverse := by
  fun_induction between n d with
  | case1 d bound divides square =>
    rw [List.map_singleton, List.reverse_singleton, Nat.div_eq_of_eq_mul_left positive square.symm]
  | case2 d bound divides notSquare ih =>
    have dvd := Nat.dvd_of_mod_eq_zero divides
    have nonzero : n ≠ 0 := by omega
    rw [List.map_cons, List.map_append, List.map_singleton, ih d.succ_pos,
      Nat.div_div_self dvd nonzero, List.reverse_cons, List.reverse_append, List.reverse_singleton,
      List.singleton_append, List.cons_append]
  | case3 d bound rest ih => exact ih d.succ_pos
  | case4 d large => rfl

end Divisor

/-! ## The call -/

/-- The list has the positive divisors and nothing else. -/
theorem mem_divisors_iff {n : Int} (nonzero : n ≠ 0) (d : Nat) :
    d ∈ divisors n ↔ 0 < d ∧ (d : Int) ∣ n := by
  rw [divisors, Divisor.mem_between_iff Nat.one_pos, Divisor.Paired, Int.ofNat_dvd_left]
  constructor
  · rintro ⟨m, product, first, _⟩
    exact ⟨first, m, product.symm⟩
  · rintro ⟨first, m, product⟩
    refine ⟨m, product.symm, first, Nat.pos_of_ne_zero ?_⟩
    rintro rfl
    exact nonzero (Int.natAbs_eq_zero.1 product)

theorem divisors_zero : divisors 0 = [] := by
  rw [divisors, Divisor.between, dif_neg (by decide)]

theorem divisors_eq (n : Int) : Operation.divisors (.number (.int n)) = .ok (divisors n) := rfl

/-- The call lists the positive divisors of an integer other than zero in ascending order,
each once, and the quotients of the integer without its sign by them are the list read
backward.  For zero the list is empty. -/
theorem divisors_int :
    (∀ n : Int, n ≠ 0 → ∃ ds, Operation.divisors (.number (.int n)) = .ok ds ∧
      ds.Pairwise (· < ·) ∧ (∀ d : Nat, d ∈ ds ↔ 0 < d ∧ (d : Int) ∣ n) ∧
      ds.map (n.natAbs / ·) = ds.reverse) ∧
    Operation.divisors (.number (.int 0)) = .ok [] := by
  constructor
  · intro n nonzero
    exact ⟨divisors n, divisors_eq n, Divisor.pairwise_between Nat.one_pos,
      mem_divisors_iff nonzero, Divisor.map_div_between Nat.one_pos⟩
  · rw [divisors_eq, divisors_zero]

/-- The square of six, with the sign that the list does not see. -/
theorem divisors_int_minus_36 : ∃ ds, Operation.divisors (.number (.int (-36))) = .ok ds ∧
    ds.Pairwise (· < ·) ∧ 6 ∈ ds ∧ 8 ∉ ds ∧ ds.map (36 / ·) = ds.reverse := by
  obtain ⟨ds, listed, ascending, complete, mirrored⟩ := divisors_int.1 (-36) (by decide)
  refine ⟨ds, listed, ascending, (complete 6).2 (by decide), fun member => ?_, mirrored⟩
  exact absurd ((complete 8).1 member) (by decide)

end NumericKernel
