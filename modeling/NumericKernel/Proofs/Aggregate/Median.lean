import Mathlib.Data.List.Sort
import NumericKernel.Aggregate.Median
import NumericKernel.Proofs.Aggregate.Extremum
import NumericKernel.Proofs.Aggregate.Mean
import NumericKernel.Proofs.Double.Quotient

/-!
# Medians of integers

Integers are added and compared exactly, so of leaves that all stand for integers only these
integers count, and not their order.  The median is read off the middle of the integers in
ascending order, where as many stand before as behind:

* `median_eq`, `mean_eq`: the integers decide;
* `countP_lt_getElem_le`, `countP_getElem_lt_le`: how many are less or greater than one of them;
* `median_order_statistics`: what the median is, and that the order of the leaves is nothing
  to it and to the mean, the maximum and the minimum.
-/

namespace NumericKernel.Aggregate

variable {c : Coercion} {vs ws : List Value} {numbers : List Int}

/-! ## Leaves that stand for integers -/

/-- Each of the values stands for the integer at its place. -/
def Reads (c : Coercion) (vs : List Value) (numbers : List Int) : Prop :=
  List.Forall₂ (fun v n => c.toNumber v = .ok (.int n)) vs numbers

namespace Reads

/-- In another order, the values stand for the same integers in another order. -/
theorem exists_perm (reads : Reads c vs numbers) (perm : ws.Perm vs) :
    ∃ others, Reads c ws others ∧ others.Perm numbers := List.perm_comp_forall₂ perm reads

/-- A value that stands for an integer is no list. -/
theorem flat (reads : Reads c vs numbers) : ∀ v ∈ vs, Coercion.isIterable v = false := by
  induction reads with
  | nil => exact List.forall_mem_nil _
  | @cons v n vs numbers read reads ih =>
    refine List.forall_mem_cons.2 ⟨?_, ih⟩
    cases v with
    | list items => cases read
    | _ => rfl

theorem ofValue_eq (reads : Reads c vs numbers) :
    Tree.ofValue (.list vs) = .seq (vs.map .leaf) := Tree.ofValue_list_of_flat reads.flat

theorem mapM_leafNumber (reads : Reads c vs numbers) :
    (vs.map .leaf).mapM (leafNumber c) = .ok (numbers.map .int) := by
  rw [mapM_eq_ok_iff, List.forall₂_map_left_iff, List.forall₂_map_right_iff]
  exact reads

/-- The leaves are summed to the sum of their integers. -/
theorem sumFrom_eq (reads : Reads c vs numbers) (n : Int) :
    sumFrom c (.int n) (vs.map .leaf) = .ok (.int (n + numbers.sum)) := by
  induction reads generalizing n with
  | nil => rw [List.map_nil, sumFrom, List.sum_nil, Int.add_zero]
  | @cons v m vs numbers read reads ih =>
    rw [List.map_cons, sumFrom, read, ok_bind, Number.add_int, ok_bind, ih, List.sum_cons,
      Int.add_assoc]

theorem filterMap_integer? (reads : Reads c vs numbers) :
    vs.filterMap (integer? c) = numbers := by
  induction reads with
  | nil => rfl
  | cons read reads ih => rw [List.filterMap_cons_some (integer?_eq_some_iff.2 read), ih]

theorem passedOver_eq_nil (reads : Reads c vs numbers) : passedOver c vs = [] := by
  induction reads with
  | nil => rfl
  | @cons v n vs numbers read reads ih =>
    have kept : (c.toNumber v).isOk = true := by rw [read]; rfl
    exact (List.filter_cons_of_neg (by simp [kept])).trans ih

theorem whole (reads : Reads c vs numbers) : Whole c vs := by
  induction reads with
  | nil => exact List.forall_mem_nil _
  | cons read reads ih => exact List.forall_mem_cons.2 ⟨.inl ⟨_, read⟩, ih⟩

theorem maximum_eq (reads : Reads c vs numbers) :
    maximum c (.seq (vs.map .leaf)) = (.ok (numbers.max?.map .int), []) := by
  have row := Tree.leavesOf_map_leaf vs
  rw [Aggregate.maximum_eq (row.symm ▸ reads.whole), row, reads.filterMap_integer?,
    reads.passedOver_eq_nil]

theorem minimum_eq (reads : Reads c vs numbers) :
    minimum c (.seq (vs.map .leaf)) = (.ok (numbers.min?.map .int), []) := by
  have row := Tree.leavesOf_map_leaf vs
  rw [Aggregate.minimum_eq (row.symm ▸ reads.whole), row, reads.filterMap_integer?,
    reads.passedOver_eq_nil]

/-- The mean is the sum of the integers over their number. -/
theorem mean_eq (reads : Reads c vs numbers) (nonempty : vs ≠ []) :
    mean c (.seq (vs.map .leaf)) =
      do return .number (.real (← (Number.int numbers.sum).ratio (.int numbers.length))) := by
  obtain ⟨v, rest, rfl⟩ := List.exists_cons_of_ne_nil nonempty
  have count : ((rest.map Tree.leaf).length + 1 : Int) = numbers.length := by
    rw [← reads.length_eq, List.length_map, List.length_cons, Nat.cast_succ]
  rw [mean, Tree.items, ok_bind, List.map_cons, meanOf, ← List.map_cons, reads.sumFrom_eq, ok_bind,
    Int.zero_add, count]

end Reads

/-! ## The integers in ascending order -/

theorem ascending_int (numbers : List Int) :
    ascending (numbers.map .int) = numbers.mergeSort.map .int := by
  refine (List.map_mergeSort fun a _ b _ => ?_).symm
  rw [Number.less_int, ← decide_not, decide_eq_decide]
  exact Int.not_lt.symm

theorem pairwise_mergeSort_int (numbers : List Int) :
    numbers.mergeSort.Pairwise (· ≤ ·) := List.pairwise_mergeSort' (· ≤ ·) numbers

theorem mergeSort_eq_of_perm {others : List Int} (perm : others.Perm numbers) :
    others.mergeSort = numbers.mergeSort := by
  refine List.Perm.eq_of_pairwise' (pairwise_mergeSort_int others) (pairwise_mergeSort_int numbers) ?_
  exact (List.mergeSort_perm others _).trans (perm.trans (List.mergeSort_perm numbers _).symm)

section Ordered

variable {ordered : List Int} {i j k : Nat}

theorem getElem_le_getElem (ascends : ordered.Pairwise (· ≤ ·)) (le : i ≤ j)
    (inside : j < ordered.length) : ordered[i] ≤ ordered[j] :=
  ascends.rel_get_of_le (a := ⟨i, Nat.lt_of_le_of_lt le inside⟩) (b := ⟨j, inside⟩) le

theorem countP_eq_take_add_drop (p : Int → Bool) (ordered : List Int) (k : Nat) :
    ordered.countP p = (ordered.take k).countP p + (ordered.drop k).countP p := by
  rw [← List.countP_append, List.take_append_drop]

/-- Only the integers before a place can be less than the one there. -/
theorem countP_lt_getElem_le (ascends : ordered.Pairwise (· ≤ ·)) (inside : k < ordered.length) :
    ordered.countP (· < ordered[k]) ≤ k := by
  have later : (ordered.drop k).countP (· < ordered[k]) = 0 := by
    rw [List.countP_eq_zero]
    intro z mem
    obtain ⟨i, within, rfl⟩ := List.mem_drop_iff_getElem.1 mem
    simpa using getElem_le_getElem ascends (Nat.le_add_right k i) _
  rw [countP_eq_take_add_drop _ _ k, later]
  exact List.countP_le_length.trans (List.length_take_le k ordered)

/-- Only the integers behind a place can be greater than the one there. -/
theorem countP_getElem_lt_le (ascends : ordered.Pairwise (· ≤ ·)) (inside : k < ordered.length) :
    ordered.countP (ordered[k] < ·) ≤ ordered.length - (k + 1) := by
  have earlier : (ordered.take (k + 1)).countP (ordered[k] < ·) = 0 := by
    rw [List.countP_eq_zero]
    intro z mem
    obtain ⟨i, within, rfl⟩ := List.mem_take_iff_getElem.1 mem
    simpa using getElem_le_getElem ascends (by omega : i ≤ k) inside
  rw [countP_eq_take_add_drop _ _ (k + 1), earlier, Nat.zero_add, ← List.length_drop]
  exact List.countP_le_length

/-- In ascending order nothing lies between two neighbours. -/
theorem not_between (ascends : ordered.Pairwise (· ≤ ·)) (inside : k + 1 < ordered.length) {z : Int}
    (mem : z ∈ ordered) : ¬(ordered[k] < z ∧ z < ordered[k + 1]) := by
  intro ⟨above, below⟩
  obtain ⟨i, within, rfl⟩ := List.mem_iff_getElem.1 mem
  rcases Nat.lt_or_ge k i with behind | before
  · exact absurd below (Int.not_lt.2 (getElem_le_getElem ascends behind within))
  · exact absurd above (Int.not_lt.2 (getElem_le_getElem ascends before (by omega)))

end Ordered

/-! ## The median -/

/-- The one in the middle of the integers in order, or half the sum of the two there. -/
theorem median_eq (reads : Reads c vs numbers) (nonempty : vs ≠ []) {middle : Nat}
    (half : numbers.length / 2 = middle) :
    median c (.seq (vs.map .leaf)) =
      if numbers.length % 2 = 0 then do
        let sum := numbers.mergeSort.getD (middle - 1) 0 + numbers.mergeSort.getD middle 0
        return .number (.real (← (Number.int sum).ratio (.int 2)))
      else return .number (.int (numbers.mergeSort.getD middle 0)) := by
  have some : (numbers.mergeSort.map Number.int).isEmpty = false := by
    rw [List.isEmpty_eq_false_iff, ← List.length_pos_iff, List.length_map, List.length_mergeSort,
      ← reads.length_eq, List.length_pos_iff]
    exact nonempty
  have place (k : Nat) : (numbers.mergeSort.map Number.int).getD k (.int 0) =
      .int (numbers.mergeSort.getD k 0) := List.getD_map _ _ _
  rw [median, Tree.items, ok_bind, reads.mapM_leafNumber, ok_bind, ascending_int]
  simp only [some, List.length_map, List.length_mergeSort, half, place, Bool.false_eq_true, if_false]
  -- rewritten one by one: as a rule of the simplifier this step is left to evaluation, which
  -- goes into the quotient
  rw [Number.add_int, ok_bind]

/-- Two places of a list are two places of every rearrangement of it. -/
theorem exists_places_of_perm {ordered : List Int} (perm : ordered.Perm numbers) {k l : Nat}
    (apart : k ≠ l) (first : k < ordered.length) (second : l < ordered.length) :
    ∃ i j : Fin numbers.length, i ≠ j ∧ numbers[i] = ordered[k] ∧ numbers[j] = ordered[l] := by
  refine ⟨perm.subperm.idxInj ⟨k, first⟩, perm.subperm.idxInj ⟨l, second⟩, ?_,
    perm.subperm.getElem_idxInj_eq_getElem, perm.subperm.getElem_idxInj_eq_getElem⟩
  intro same
  exact apart (congrArg Fin.val (perm.subperm.idxInj_injective same))

/-- Of an odd number of integers the median is the one in the middle. -/
theorem median_odd (reads : Reads c vs numbers) {m : Nat} (odd : numbers.length = 2 * m + 1) :
    ∃ x ∈ numbers, median c (.seq (vs.map .leaf)) = .ok (.number (.int x)) ∧
      numbers.countP (· < x) ≤ m ∧ numbers.countP (x < ·) ≤ m := by
  have perm := List.mergeSort_perm numbers (· ≤ ·)
  have ascends := pairwise_mergeSort_int numbers
  have inside : m < numbers.mergeSort.length := by rw [List.length_mergeSort]; omega
  have nonempty : vs ≠ [] := by rw [← List.length_pos_iff, reads.length_eq]; omega
  refine ⟨numbers.mergeSort[m], perm.mem_iff.1 (List.getElem_mem inside), ?_, ?_, ?_⟩
  · rw [median_eq reads nonempty (by omega : numbers.length / 2 = m), if_neg (by omega),
      List.getD_eq_getElem _ _ inside]
    rfl
  · rw [← perm.countP_eq]
    exact countP_lt_getElem_le ascends inside
  · rw [← perm.countP_eq]
    refine (countP_getElem_lt_le ascends inside).trans ?_
    rw [List.length_mergeSort]
    omega

/-- Of an even number of integers the median is the mean of the two in the middle. -/
theorem median_even (reads : Reads c vs numbers) {m : Nat} (even : numbers.length = 2 * (m + 1)) :
    ∃ i j : Fin numbers.length, i ≠ j ∧ numbers[i] ≤ numbers[j] ∧
      median c (.seq (vs.map .leaf)) = (do
        return .number (.real (← (Number.int (numbers[i] + numbers[j])).ratio (.int 2)))) ∧
      numbers.countP (· < numbers[i]) ≤ m ∧ numbers.countP (numbers[j] < ·) ≤ m ∧
      ∀ z ∈ numbers, ¬(numbers[i] < z ∧ z < numbers[j]) := by
  have perm := List.mergeSort_perm numbers (· ≤ ·)
  have ascends := pairwise_mergeSort_int numbers
  have second : m + 1 < numbers.mergeSort.length := by rw [List.length_mergeSort]; omega
  have first : m < numbers.mergeSort.length := by omega
  have nonempty : vs ≠ [] := by rw [← List.length_pos_iff, reads.length_eq]; omega
  have neighbours : m ≠ m + 1 := Nat.ne_of_lt (Nat.lt_succ_self m)
  obtain ⟨i, j, apart, lower, upper⟩ := exists_places_of_perm perm neighbours first second
  refine ⟨i, j, apart, ?_, ?_, ?_, ?_, ?_⟩
  · rw [lower, upper]
    exact getElem_le_getElem ascends (Nat.le_succ m) second
  · rw [median_eq reads nonempty (by omega : numbers.length / 2 = m + 1), if_pos (by omega),
      Nat.add_sub_cancel, List.getD_eq_getElem _ _ first, List.getD_eq_getElem _ _ second, lower, upper]
  · rw [lower, ← perm.countP_eq]
    exact countP_lt_getElem_le ascends first
  · rw [upper, ← perm.countP_eq]
    refine (countP_getElem_lt_le ascends second).trans ?_
    rw [List.length_mergeSort]
    omega
  · intro z mem
    rw [lower, upper]
    exact not_between ascends second (perm.mem_iff.2 mem)

/-! ## The order of the leaves -/

theorem max?_eq_of_perm {others : List Int} (perm : others.Perm numbers) :
    others.max? = numbers.max? :=
  Option.ext fun m => by simp only [List.max?_eq_some_iff, perm.mem_iff]

theorem min?_eq_of_perm {others : List Int} (perm : others.Perm numbers) :
    others.min? = numbers.min? :=
  Option.ext fun m => by simp only [List.min?_eq_some_iff, perm.mem_iff]

/-- Two sequences that stand for the same integers, in any order, have the same outcomes. -/
theorem Reads.outcomes_eq {others : List Int} (reads : Reads c vs numbers) (nonempty : vs ≠ [])
    (readsOthers : Reads c ws others) (perm : others.Perm numbers) :
    median c (.seq (ws.map .leaf)) = median c (.seq (vs.map .leaf)) ∧
    mean c (.seq (ws.map .leaf)) = mean c (.seq (vs.map .leaf)) ∧
    maximum c (.seq (ws.map .leaf)) = maximum c (.seq (vs.map .leaf)) ∧
    minimum c (.seq (ws.map .leaf)) = minimum c (.seq (vs.map .leaf)) := by
  have nonemptyOthers : ws ≠ [] := by
    rw [← List.length_pos_iff, readsOthers.length_eq, perm.length_eq, ← reads.length_eq,
      List.length_pos_iff]
    exact nonempty
  refine ⟨?_, ?_, ?_, ?_⟩
  · rw [median_eq readsOthers nonemptyOthers rfl, median_eq reads nonempty rfl,
      mergeSort_eq_of_perm perm, perm.length_eq]
  · rw [readsOthers.mean_eq nonemptyOthers, reads.mean_eq nonempty, perm.sum_eq, perm.length_eq]
  · rw [readsOthers.maximum_eq, reads.maximum_eq, max?_eq_of_perm perm]
  · rw [readsOthers.minimum_eq, reads.minimum_eq, min?_eq_of_perm perm]

/-- No outcome depends on the order of the leaves. -/
theorem outcomes_eq_of_perm (reads : Reads c vs numbers) (nonempty : vs ≠ []) (perm : ws.Perm vs) :
    median c (.ofValue (.list ws)) = median c (.ofValue (.list vs)) ∧
    mean c (.ofValue (.list ws)) = mean c (.ofValue (.list vs)) ∧
    maximum c (.ofValue (.list ws)) = maximum c (.ofValue (.list vs)) ∧
    minimum c (.ofValue (.list ws)) = minimum c (.ofValue (.list vs)) := by
  obtain ⟨others, readsOthers, permuted⟩ := reads.exists_perm perm
  rw [reads.ofValue_eq, readsOthers.ofValue_eq]
  exact reads.outcomes_eq nonempty readsOthers permuted

/-- A flat list whose items all stand for integers.  If their number is odd, the median is
one of the integers, with at most half of the others less and at most half of them greater.  If
it is even, the median is the double nearest to half the sum of two of them, unless that is
too large for a double, with nothing between the two and at most half of the others on either
side.  And in any other order the items have the same median, mean, maximum and minimum. -/
theorem median_order_statistics {c : Coercion} {vs : List Value} {numbers : List Int}
    (nonempty : vs ≠ []) (reads : List.Forall₂ (fun v n => c.toNumber v = .ok (.int n)) vs numbers) :
    (∀ m, vs.length = 2 * m + 1 → ∃ x ∈ numbers,
      median c (.ofValue (.list vs)) = .ok (.number (.int x)) ∧
      numbers.countP (· < x) ≤ m ∧ numbers.countP (x < ·) ≤ m) ∧
    (∀ m, vs.length = 2 * m → ∃ i j : Fin numbers.length, i ≠ j ∧ numbers[i] ≤ numbers[j] ∧
      ((∃ half units, (Number.int (numbers[i] + numbers[j])).ratio (.int 2) = .ok half ∧
          Double.IsNearest (numbers[i] + numbers[j]) 2 half units ∧
          median c (.ofValue (.list vs)) = .ok (.number (.real half))) ∨
        ((Number.int (numbers[i] + numbers[j])).ratio (.int 2) = .error .quotientTooLarge ∧
          median c (.ofValue (.list vs)) = .error .quotientTooLarge)) ∧
      numbers.countP (· < numbers[i]) ≤ m - 1 ∧ numbers.countP (numbers[j] < ·) ≤ m - 1 ∧
      ∀ z ∈ numbers, ¬(numbers[i] < z ∧ z < numbers[j])) ∧
    ∀ ws : List Value, ws.Perm vs →
      median c (.ofValue (.list ws)) = median c (.ofValue (.list vs)) ∧
      mean c (.ofValue (.list ws)) = mean c (.ofValue (.list vs)) ∧
      maximum c (.ofValue (.list ws)) = maximum c (.ofValue (.list vs)) ∧
      minimum c (.ofValue (.list ws)) = minimum c (.ofValue (.list vs)) := by
  have positive : 0 < vs.length := List.length_pos_iff.2 nonempty
  have tree := Reads.ofValue_eq reads
  refine ⟨fun m odd => ?_, fun m even => ?_, fun ws perm => outcomes_eq_of_perm reads nonempty perm⟩
  · rw [tree]
    exact median_odd reads (reads.length_eq ▸ odd)
  · obtain ⟨k, rfl⟩ := Nat.exists_eq_succ_of_ne_zero (by omega : m ≠ 0)
    obtain ⟨i, j, apart, le, result, below, above, between⟩ :=
      median_even reads (reads.length_eq ▸ even)
    refine ⟨i, j, apart, le, ?_, below, above, between⟩
    rw [tree, result]
    rcases Number.ratio_int_nearest (numbers[i] + numbers[j]) (show (2 : Int) ≠ 0 by decide) with
      ⟨half, units, quotient, nearest, -⟩ | ⟨tooLarge, -⟩
    · rw [quotient]
      exact .inl ⟨half, units, rfl, nearest, rfl⟩
    · rw [tooLarge]
      exact .inr ⟨rfl, rfl⟩

/-- Three integers, one of them written as a text. -/
theorem median_order_statistics_three :
    median .standard (.ofValue (.list [.number (.int 3), .text "1", .number (.int 2)])) =
        .ok (.number (.int 2)) ∧
      median .standard (.ofValue (.list [.text "1", .number (.int 2), .number (.int 3)])) =
        .ok (.number (.int 2)) := by
  obtain ⟨odd, -, order⟩ := @median_order_statistics .standard
    [.number (.int 3), .text "1", .number (.int 2)] [3, 1, 2] (List.cons_ne_nil _ _)
    (.cons rfl (.cons rfl (.cons rfl .nil)))
  obtain ⟨x, mem, result, below, above⟩ := odd 1 rfl
  have middle : x = 2 := by
    simp only [List.mem_cons, List.not_mem_nil, or_false] at mem
    rcases mem with rfl | rfl | rfl
    · exact absurd below (by decide)
    · exact absurd above (by decide)
    · rfl
  rw [middle] at result
  have perm := List.perm_append_singleton (Value.number (.int 3)) [.text "1", .number (.int 2)]
  exact ⟨result, (order _ perm).1.trans result⟩

end NumericKernel.Aggregate
