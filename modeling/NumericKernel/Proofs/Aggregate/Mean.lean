import NumericKernel.Aggregate.Mean
import NumericKernel.Proofs.Aggregate.Leaves
import NumericKernel.Proofs.Arithmetic.Faults
import NumericKernel.Proofs.Coercion.Equality
import NumericKernel.Proofs.Text.NumberText

/-!
# Means of tables

A table has rows of any lengths, and its mean asks for the means of its columns, each built
anew from the items of the rows.  The items of a row are nested less deeply than the row, so
a column is nested less deeply than its table, whatever else the table holds; and a column
within the width of a table has an item.

* `length_le_of_asks`: calls inside calls go no deeper than the nesting;
* `meanOf_table_eq_ok_iff`, `meanOf_table_eq_error_iff`: the mean of a table from those of its
  columns;
* `meanOf_eq_meanOfNothing_iff`: only the outermost sequence can be found empty;
* `column_map_ofValue`: the columns of a table are the trees of the columns of its value;
* `mean_columns`: the mean of a value, from all of these.
-/

namespace NumericKernel

/-! ## Depth -/

namespace Tree

mutual

/-- How deeply a tree is nested. -/
def depth : Tree → Nat
  | .leaf _ => 0
  | .seq items => depthOf items + 1

/-- How deeply the deepest one of a row of trees is nested. -/
def depthOf : List Tree → Nat
  | [] => 0
  | item :: rest => max item.depth (depthOf rest)

end

variable {items : List Tree} {t u : Tree} {n position : Nat}

theorem depthOf_le_iff : depthOf items ≤ n ↔ ∀ t ∈ items, t.depth ≤ n := by
  induction items with
  | nil => simp [depthOf]
  | cons t rest ih => simp [depthOf, ih]

/-- The items of a row are nested less deeply than the row, unless the row is a leaf. -/
theorem depth_le_of_row (within : t.depth ≤ n + 1) (item : u ∈ t.row) : u.depth ≤ n := by
  cases t with
  | leaf raw =>
    obtain rfl := List.mem_singleton.1 item
    exact Nat.zero_le n
  | seq items => exact depthOf_le_iff.1 (Nat.le_of_succ_le_succ within) u item

end Tree

namespace Aggregate

variable {c : Coercion} {items inner rest : List Tree} {position n : Nat}

/-! ## Rows and columns -/

theorem width_le_iff : width items ≤ n ↔ ∀ t ∈ items, t.row.length ≤ n := by
  unfold width
  induction items with
  | nil => simp
  | cons t rest ih => simp [ih]

theorem lt_width_iff : position < width items ↔ ∃ t ∈ items, position < t.row.length := by
  simpa using width_le_iff.not

/-- The width of a table is the length of its longest rows. -/
theorem width_eq_iff (nonempty : items ≠ []) :
    n = width items ↔ (∀ t ∈ items, t.row.length ≤ n) ∧ ∃ t ∈ items, t.row.length = n := by
  have within := width_le_iff.1 (Nat.le_refl (width items))
  have longest : ∃ t ∈ items, t.row.length = width items := by
    rcases Nat.eq_zero_or_pos (width items) with zero | positive
    · obtain ⟨t, member⟩ := List.exists_mem_of_ne_nil items nonempty
      exact ⟨t, member, Nat.le_antisymm (within t member) (by omega)⟩
    · obtain ⟨t, member, long⟩ := lt_width_iff.1 (Nat.sub_one_lt_of_lt positive)
      exact ⟨t, member, Nat.le_antisymm (within t member) (by omega)⟩
  refine ⟨fun same => same ▸ ⟨within, longest⟩, fun ⟨bound, t, member, length⟩ => ?_⟩
  exact Nat.le_antisymm (length ▸ within t member) (width_le_iff.2 bound)

theorem mem_column_iff {u : Tree} :
    u ∈ column items position ↔ ∃ t ∈ items, t.row[position]? = some u := List.mem_filterMap

theorem column_ne_nil (within : position < width items) : column items position ≠ [] := by
  obtain ⟨t, member, long⟩ := lt_width_iff.1 within
  exact List.ne_nil_of_mem (mem_column_iff.2 ⟨t, member, List.getElem?_eq_getElem long⟩)

/-! ## Calls inside calls -/

/-- The mean of a table asks for the means of its columns. -/
inductive Asks : List Tree → List Tree → Prop
  | column {inner rest : List Tree} {position : Nat} (within : position < width (.seq inner :: rest)) :
    Asks (.seq inner :: rest) (column (.seq inner :: rest) position)

/-- A column is nested less deeply than the table that asks for its mean. -/
theorem depthOf_lt_of_asks {outer asked : List Tree} (asks : Asks outer asked) :
    Tree.depthOf asked < Tree.depthOf outer := by
  obtain @⟨inner, rest, position, within⟩ := asks
  have nested : Tree.depthOf (.seq inner :: rest) ≠ 0 := by simp [Tree.depthOf, Tree.depth]
  obtain ⟨n, deep⟩ := Nat.exists_eq_succ_of_ne_zero nested
  rw [deep, Nat.lt_succ_iff, Tree.depthOf_le_iff]
  intro u member
  obtain ⟨t, inTable, found⟩ := mem_column_iff.1 member
  have within : t.depth ≤ n + 1 := Tree.depthOf_le_iff.1 (Nat.le_of_eq deep) t inTable
  exact Tree.depth_le_of_row within (List.mem_of_getElem? found)

/-- A chain of calls, each made by the one before it, is no longer than the nesting is deep. -/
theorem length_le_of_asks {calls : List (List Tree)} (chain : calls.IsChain Asks)
    (start : calls.head? = some items) : calls.length ≤ Tree.depthOf items + 1 := by
  induction calls generalizing items with
  | nil => cases start
  | cons first more ih =>
    obtain rfl := Option.some.inj start
    cases more with
    | nil => simp
    | cons second more =>
      obtain ⟨asks, chain⟩ := List.isChain_cons_cons.1 chain
      have deeper := depthOf_lt_of_asks asks
      have later := ih chain rfl
      rw [List.length_cons]
      omega

/-! ## The mean of a table -/

/-- The mean of a table is the list of the means of its columns. -/
theorem meanOf_table_eq_ok_iff {r : Value} : meanOf c (.seq inner :: rest) = .ok r ↔
    ∃ means, r = .list means ∧ means.length = width (.seq inner :: rest) ∧
      ∀ j (inside : j < means.length), meanOf c (column (.seq inner :: rest) j) = .ok means[j] := by
  rw [meanOf, bind_eq_ok_iff]
  refine exists_congr fun means => ?_
  rw [mapM_range_eq_ok_iff, and_comm]
  simp [pure, Except.pure, eq_comm]

/-- The fault of a table is that of the first column that has one. -/
theorem meanOf_table_eq_error_iff {fault : Fault} : meanOf c (.seq inner :: rest) = .error fault ↔
    ∃ j < width (.seq inner :: rest), meanOf c (column (.seq inner :: rest) j) = .error fault ∧
      ∀ i < j, ∃ m, meanOf c (column (.seq inner :: rest) i) = .ok m := by
  rw [meanOf, bind_eq_error_iff, mapM_range_eq_error_iff]
  simp [pure, Except.pure]

/-! ## The fault of an empty sequence -/

/-- No sum finds its sequence empty. -/
theorem sumFrom_ne_meanOfNothing (first : Number) :
    sumFrom c first items ≠ .error .meanOfNothing := by
  induction items generalizing first with
  | nil => nofun
  | cons t rest ih =>
    intro fails
    cases t with
    | seq inner => cases fails
    | leaf raw =>
      rcases bind_eq_error_iff.1 fails with reading | ⟨n, -, fails⟩
      · rcases Coercion.fault_of_toNumber reading with given | ⟨_, _, -, given⟩ <;> cases given
      · rcases bind_eq_error_iff.1 fails with adding | ⟨next, -, fails⟩
        · cases Number.fault_of_combine adding
        · exact ih next fails

/-- A sequence is found empty only if it is, and not because a column is. -/
theorem meanOf_eq_meanOfNothing_iff : meanOf c items = .error .meanOfNothing ↔ items = [] := by
  refine ⟨fun fails => ?_, fun empty => by rw [empty, meanOf]⟩
  induction items using meanOf.induct with
  | case1 => rfl
  | case2 inner rest ih =>
    obtain ⟨j, inside, fails, -⟩ := meanOf_table_eq_error_iff.1 fails
    exact absurd (ih j fails) (column_ne_nil inside)
  | case3 raw rest =>
    rw [meanOf] at fails
    rcases bind_eq_error_iff.1 fails with summing | ⟨sum, -, fails⟩
    · exact absurd summing (sumFrom_ne_meanOfNothing _)
    · rcases bind_eq_error_iff.1 fails with dividing | ⟨x, -, fails⟩
      · rcases Number.fault_of_ratio dividing with given | given | given <;> cases given
      · cases fails

end Aggregate

/-! ## Values and their trees -/

theorem Value.plain_eq_empty_iff {v : Value} : v.plain = "" ↔ v = .text "" := by
  cases v with
  | text s => simp [plain]
  | number n => simp [plain, literal, n.text_ne_empty]
  | bool b => cases b <;> simp [plain, literal]
  | _ => simp [plain, literal]

/-- Only the empty text has no characters. -/
theorem Value.characters_eq_nil_iff {v : Value} : v.characters = .ok [] ↔ v = .text "" := by
  rw [← plain_eq_empty_iff, characters, bind_eq_ok_iff, display, shownAs]
  constructor
  · intro characters
    obtain ⟨s, shown, empty⟩ := characters
    split at shown
    · cases shown
      exact String.toList_eq_nil_iff.1 (List.map_eq_nil_iff.1 (Except.ok.inj empty))
    · cases shown
  · intro empty
    rw [plain_eq_empty_iff.1 empty]
    exact ⟨"", rfl, rfl⟩

/-- Only the empty sequence and the empty text have no items. -/
theorem Tree.items_eq_nil_iff {t : Tree} :
    t.items = .ok [] ↔ t = .seq [] ∨ t = .leaf (.text "") := by
  cases t with
  | seq inner => simp [items]
  | leaf raw =>
    rw [items, bind_eq_ok_iff]
    simp [pure, Except.pure, ← Value.characters_eq_nil_iff]

/-- A tree has no items only if its leaf cannot be shown. -/
theorem Tree.fault_of_items {t : Tree} {fault : Fault} (fails : t.items = .error fault) :
    fault = .tooLongToShow := by
  cases t with
  | seq inner => cases fails
  | leaf raw =>
    simp only [items, Value.characters, Value.display, Value.shownAs, bind_eq_error_iff, pure,
      Except.pure, reduceCtorEq, and_false, exists_false, or_false] at fails
    split at fails
    · cases fails
    · exact (Except.error.inj fails).symm

namespace Tree

/-- Trees without items are those of the empty list and of the empty text. -/
theorem ofValue_seq_nil_or_text_iff {v : Value} :
    ofValue v = .seq [] ∨ ofValue v = .leaf (.text "") ↔ v = .list [] ∨ v = .text "" :=
  or_congr ofValue_eq_nil_iff (ofValue_eq_leaf_iff rfl)

mutual

/-- The tree of a value is nested as deeply as the value. -/
theorem depth_ofValue (v : Value) : (ofValue v).depth = v.depth := by
  cases v with
  | list items => exact congrArg (· + 1) (depthOf_ofValues items)
  | _ => rfl

theorem depthOf_ofValues (vs : List Value) : depthOf (ofValues vs) = Value.depthOf vs := by
  cases vs with
  | nil => rfl
  | cons v rest => rw [ofValues, depthOf, Value.depthOf, depth_ofValue v, depthOf_ofValues rest]

end

/-- The characters of a text are not nested. -/
theorem depthOf_map_leaf (vs : List Value) : depthOf (vs.map .leaf) = 0 := by
  induction vs with
  | nil => rfl
  | cons v vs ih => rw [List.map_cons, depthOf, depth, ih, Nat.max_self]

/-- The items of the tree of a value are nested no more deeply than the value. -/
theorem depthOf_items_le {v : Value} {items : List Tree} (found : (ofValue v).items = .ok items) :
    depthOf items ≤ v.depth := by
  rw [← depth_ofValue]
  cases tree : ofValue v with
  | seq inner =>
    rw [tree] at found
    cases found
    exact Nat.le_succ _
  | leaf raw =>
    rw [tree, Tree.items, bind_eq_ok_iff] at found
    obtain ⟨characters, -, same⟩ := found
    rw [← Except.ok.inj same, depthOf_map_leaf]
    exact Nat.zero_le _

end Tree

namespace Aggregate

/-- The columns of a table are the trees of the columns of its value. -/
theorem column_map_ofValue (vs : List Value) (position : Nat) :
    column (vs.map .ofValue) position = (Value.column vs position).map .ofValue := by
  rw [column, Value.column, List.filterMap_map, List.map_filterMap]
  refine List.filterMap_congr fun v _ => ?_
  rw [Function.comp_apply, Tree.row_ofValue, List.getElem?_map]

/-- The mean of a list is that of the trees of its items. -/
theorem mean_ofValue_list (c : Coercion) (vs : List Value) :
    mean c (.ofValue (.list vs)) = meanOf c (vs.map .ofValue) := by
  rw [Tree.ofValue_list]
  rfl

/-- The width of a list of values is the length of its longest row. -/
theorem eq_width_ofValue_iff {vs : List Value} (nonempty : vs ≠ []) :
    n = width (vs.map .ofValue) ↔
      (∀ v ∈ vs, v.row.length ≤ n) ∧ ∃ v ∈ vs, v.row.length = n := by
  rw [width_eq_iff (mt List.map_eq_nil_iff.1 nonempty)]
  simp [Tree.row_ofValue]

/-- A position is within the width exactly if some value has an item there. -/
theorem lt_width_ofValue_iff {vs : List Value} :
    position < width (vs.map .ofValue) ↔ ∃ v ∈ vs, position < v.row.length := by
  rw [lt_width_iff]
  simp [Tree.row_ofValue]

/-! ## Means of all values -/

/-- The mean of a value ends, whatever the value is: its calls inside calls go no deeper than the
value is nested.  The mean of a table, a list that starts with a list and whose rows may be of
any lengths and scalars among them, is the list of the means of its columns, as many as the
longest row has items; it fails just if a column does, with the fault of the first that does.
And the fault of an empty sequence is that of the value itself, never that of a row or a column
in it. -/
theorem mean_columns (c : Coercion) :
    (∀ (v : Value) (items : List Tree) (calls : List (List Tree)),
      (Tree.ofValue v).items = .ok items → calls.head? = some items → calls.IsChain Asks →
      calls.length ≤ v.depth + 1) ∧
    (∀ inner rest, let rows := .list inner :: rest
      (∀ r, mean c (.ofValue (.list rows)) = .ok r ↔ ∃ means, r = .list means ∧
        ((∀ row ∈ rows, (Value.row row).length ≤ means.length) ∧
          ∃ row ∈ rows, (Value.row row).length = means.length) ∧
        ∀ j (inside : j < means.length),
          mean c (.ofValue (.list (Value.column rows j))) = .ok means[j]) ∧
      (∀ fault, mean c (.ofValue (.list rows)) = .error fault ↔
        ∃ j, (∃ row ∈ rows, j < (Value.row row).length) ∧
          mean c (.ofValue (.list (Value.column rows j))) = .error fault ∧
          ∀ i < j, ∃ m, mean c (.ofValue (.list (Value.column rows i))) = .ok m)) ∧
    ∀ v : Value, mean c (.ofValue v) = .error .meanOfNothing ↔ v = .list [] ∨ v = .text "" := by
  refine ⟨fun v items calls found start chain => ?_, ?_, fun v => ?_⟩
  · exact (length_le_of_asks chain start).trans (Nat.succ_le_succ (Tree.depthOf_items_le found))
  · intro inner rest rows
    have nonempty : rows ≠ [] := List.cons_ne_nil _ _
    have table : rows.map Tree.ofValue = .seq (inner.map .ofValue) :: rest.map .ofValue := by
      rw [List.map_cons, Tree.ofValue_list]
    simp only [mean_ofValue_list, ← column_map_ofValue, ← eq_width_ofValue_iff nonempty,
      ← lt_width_ofValue_iff, table]
    exact ⟨fun r => meanOf_table_eq_ok_iff, fun fault => meanOf_table_eq_error_iff⟩
  · rw [← Tree.ofValue_seq_nil_or_text_iff, ← Tree.items_eq_nil_iff, mean, bind_eq_error_iff]
    constructor
    · intro fails
      rcases fails with listing | ⟨items, found, fails⟩
      · cases Tree.fault_of_items listing
      · rw [found, meanOf_eq_meanOfNothing_iff.1 fails]
    · intro none
      exact .inr ⟨[], none, meanOf_eq_meanOfNothing_iff.2 rfl⟩

/-- An empty row before one with an item that is no number. -/
theorem mean_columns_empty_row :
    let v : Value := .list [.list [], .list [.null]]
    mean .standard (.ofValue v) = .error (.notNumeric .null) ∧
      mean .standard (.ofValue v) ≠ .error .meanOfNothing ∧
      ∀ calls : List (List Tree), calls.head? = some [.seq [], .seq [.leaf .null]] →
        calls.IsChain Asks → calls.length ≤ 3 := by
  intro v
  obtain ⟨ends, table, empty⟩ := mean_columns .standard
  have fails : mean .standard (.ofValue (.list [.null])) = .error (.notNumeric .null) := by
    rw [mean_ofValue_list, List.map_singleton, Tree.ofValue_of_scalar rfl, meanOf]
    rfl
  refine ⟨((table [] [.list [.null]]).2 _).2 ⟨0, ⟨.list [.null], by simp, by simp [Value.row]⟩,
    fails, fun i before => absurd before (Nat.not_lt_zero i)⟩, fun nothing => ?_,
    fun calls start chain => ends v _ calls rfl start chain⟩
  rcases (empty v).1 nothing with same | same <;> simp [v] at same

end Aggregate

end NumericKernel
