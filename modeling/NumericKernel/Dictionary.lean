/-!
# Dictionaries

Values under keys.  No key occurs twice, and the keys keep the order in which they
came.
-/

namespace NumericKernel

/-- Pairs of a key and its value, with no key twice. -/
structure Dictionary (κ ν : Type) where
  pairs : List (κ × ν)
  distinct : (pairs.map Prod.fst).Nodup

namespace Dictionary

variable {κ ν : Type}

/-- The keys, in the order in which they came. -/
def keys (d : Dictionary κ ν) : List κ := d.pairs.map Prod.fst

/-- How many keys there are. -/
def size (d : Dictionary κ ν) : Nat := d.pairs.length

/-- The dictionary without keys. -/
def empty : Dictionary κ ν := ⟨[], List.nodup_nil⟩

/-- The values of a list under their positions. -/
def ofList (values : List ν) : Dictionary Nat ν where
  pairs := (List.range values.length).zip values
  distinct := by
    rw [List.map_fst_zip (by simp)]
    exact List.nodup_range

@[simp] theorem length_keys (d : Dictionary κ ν) : d.keys.length = d.size := List.length_map _

/-- The keys of a list of values are its places, in order. -/
@[simp] theorem keys_ofList (values : List ν) : (ofList values).keys = List.range values.length :=
  List.map_fst_zip (by simp)

@[simp] theorem size_ofList (values : List ν) : (ofList values).size = values.length := by
  rw [← length_keys, keys_ofList, List.length_range]

variable [DecidableEq κ]

/-! ## Reading -/

/-- The value under a key, if the key is there. -/
def get? (d : Dictionary κ ν) (key : κ) : Option ν := d.pairs.lookup key

/-- A key has a value exactly if it is among the keys. -/
theorem isSome_get?_iff (d : Dictionary κ ν) (key : κ) : (d.get? key).isSome ↔ key ∈ d.keys := by
  unfold get? keys
  rw [List.lookup_isSome_iff, List.mem_map]
  simp only [beq_iff_eq, @eq_comm κ key]

/-- A dictionary without keys has no values. -/
theorem get?_of_size_eq_zero {d : Dictionary κ ν} (used : d.size = 0) (key : κ) :
    d.get? key = none := by
  rw [← Option.not_isSome_iff_eq_none, isSome_get?_iff]
  rw [← length_keys, List.length_eq_zero_iff] at used
  simp [used]

/-- The value under a key in use. -/
def get (d : Dictionary κ ν) (key : κ) (present : key ∈ d.keys) : ν :=
  (d.get? key).get ((d.isSome_get?_iff key).2 present)

/-- Looking up a key that is there gives its value. -/
theorem get?_eq_some_get (d : Dictionary κ ν) {key : κ} (present : key ∈ d.keys) :
    d.get? key = some (d.get key present) :=
  (Option.some_get _).symm

/-- The value under a place is the one that the list has there. -/
theorem get?_ofList (values : List ν) (i : Nat) : (ofList values).get? i = values[i]? := by
  have shifted : ∀ start, ((List.range' start values.length).zip values).lookup (start + i) =
      values[i]? := by
    induction values generalizing i with
    | nil => intro start; rfl
    | cons v rest ih =>
      intro start
      rw [List.length_cons, List.range'_succ, List.zip_cons_cons, List.lookup_cons]
      cases i with
      | zero => simp
      | succ i =>
        have other : (start + (i + 1) == start) = false := by simp
        rw [other, List.getElem?_cons_succ, ← ih i (start + 1), Nat.add_right_comm]
        rfl
  have first := shifted 0
  rw [Nat.zero_add, ← List.range_eq_range'] at first
  exact first

/-! ## Writing -/

/-- The dictionary with a value under a key, unless the key is in use. -/
def insertIfNew (d : Dictionary κ ν) (key : κ) (value : ν) : Dictionary κ ν :=
  if present : (d.get? key).isSome then d
  else {
    pairs := d.pairs ++ [(key, value)]
    distinct := by
      rw [isSome_get?_iff] at present
      rw [List.map_append, List.nodup_append]
      refine ⟨d.distinct, by simp, fun other used new last => ?_⟩
      obtain rfl : new = key := by simpa using last
      exact fun same => present (same ▸ used) }

/-- The dictionary with a value under a key, in the place of the one that is there. -/
def insert (d : Dictionary κ ν) (key : κ) (value : ν) : Dictionary κ ν :=
  if (d.get? key).isSome then {
    pairs := d.pairs.map fun pair => (pair.1, if pair.1 = key then value else pair.2)
    distinct := by
      rw [List.map_map]
      exact d.distinct }
  else d.insertIfNew key value

/-- The dictionary without a key. -/
def erase (d : Dictionary κ ν) (key : κ) : Dictionary κ ν where
  pairs := d.pairs.filter fun pair => pair.1 ≠ key
  distinct := d.distinct.sublist (List.filter_sublist.map _)

/-- A new key comes behind those that are there. -/
theorem keys_insertIfNew (d : Dictionary κ ν) {key : κ} (absent : key ∉ d.keys) (value : ν) :
    (d.insertIfNew key value).keys = d.keys ++ [key] := by
  unfold insertIfNew
  rw [dif_neg (by rwa [isSome_get?_iff])]
  exact List.map_append

/-- A new key adds its own value and leaves the other values as they are. -/
theorem get?_insertIfNew (d : Dictionary κ ν) {key : κ} (absent : key ∉ d.keys) (value : ν)
    (other : κ) :
    (d.insertIfNew key value).get? other = if other = key then some value else d.get? other := by
  rw [← isSome_get?_iff] at absent
  unfold insertIfNew
  rw [dif_neg absent]
  unfold get? at absent ⊢
  rw [List.lookup_append]
  by_cases same : other = key
  · rw [if_pos same, same, Option.not_isSome_iff_eq_none.1 absent]
    simp
  · have apart : (other == key) = false := beq_false_of_ne same
    rw [if_neg same, List.lookup_cons, apart]
    simp

/-- Replacing the values under one key leaves every other key with its value. -/
theorem lookup_replaced (pairs : List (κ × ν)) (key : κ) (value : ν) (other : κ) :
    (pairs.map fun pair => (pair.1, if pair.1 = key then value else pair.2)).lookup other =
      (pairs.lookup other).map fun old => if other = key then value else old := by
  induction pairs with
  | nil => rfl
  | cons pair rest ih =>
    rw [List.map_cons, List.lookup_cons, List.lookup_cons]
    by_cases same : other = pair.1
    · simp [same]
    · rw [beq_false_of_ne same]
      exact ih

/-- A key that is written has the value written, and the others keep theirs. -/
theorem get?_insert (d : Dictionary κ ν) (key : κ) (value : ν) (other : κ) :
    (d.insert key value).get? other = if other = key then some value else d.get? other := by
  unfold insert
  by_cases present : (d.get? key).isSome
  · rw [if_pos present]
    refine (lookup_replaced d.pairs key value other).trans ?_
    by_cases same : other = key
    · obtain ⟨old, used⟩ := Option.isSome_iff_exists.1 present
      unfold get? at used
      simp [same, used]
    · simp [same, get?]
  · rw [if_neg present, d.get?_insertIfNew (by rwa [← isSome_get?_iff])]

/-- Erasing a key keeps the other keys in their order. -/
theorem keys_erase (d : Dictionary κ ν) (key : κ) :
    (d.erase key).keys = d.keys.filter fun other => other ≠ key := by
  unfold keys erase
  rw [List.filter_map]
  rfl

/-- A key that is erased has no value, and the others keep theirs. -/
theorem get?_erase (d : Dictionary κ ν) (key other : κ) :
    (d.erase key).get? other = if other = key then none else d.get? other := by
  unfold get? erase
  dsimp only
  induction d.pairs with
  | nil => simp
  | cons pair rest ih =>
    rw [List.filter_cons, List.lookup_cons]
    by_cases erased : pair.1 = key
    · rw [if_neg (by simp [erased]), ih]
      by_cases same : other = key
      · rw [if_pos same, if_pos same]
      · rw [if_neg same, if_neg same, beq_false_of_ne (by rwa [erased])]
    · rw [if_pos (by simp [erased]), List.lookup_cons, ih]
      by_cases here : other = pair.1
      · simp [here, erased]
      · rw [beq_false_of_ne here]

/-! ## Counting -/

/-- The dictionary with one occurrence of a key more. -/
def increment (d : Dictionary κ Nat) (key : κ) : Dictionary κ Nat :=
  d.insert key ((d.get? key).getD 0 + 1)

/-- How often each item of a list occurs in it. -/
def tally (items : List κ) : Dictionary κ Nat := items.foldl increment empty

/-- Every occurrence of a key in a list of items adds one to its count. -/
theorem get?_foldl_increment (items : List κ) (d : Dictionary κ Nat) (key : κ) :
    (items.foldl increment d).get? key =
      if key ∈ items then some ((d.get? key).getD 0 + items.count key) else d.get? key := by
  induction items generalizing d with
  | nil => rfl
  | cons item rest ih =>
    rw [List.foldl_cons, ih, increment, get?_insert, List.count_cons]
    by_cases here : key = item
    · subst here
      by_cases again : key ∈ rest
      · simp [again, Nat.add_right_comm, Nat.add_assoc]
      · simp [again, List.count_eq_zero_of_not_mem]
    · have other : (item == key) = false := beq_false_of_ne (Ne.symm here)
      simp [here, other]

/-- A tally gives every item the number of times it occurs. -/
theorem get?_tally (items : List κ) (key : κ) :
    (tally items).get? key = if key ∈ items then some (items.count key) else none := by
  have counted := get?_foldl_increment items empty key
  rw [show (empty : Dictionary κ Nat).get? key = none from rfl, Option.getD_none,
    Nat.zero_add] at counted
  exact counted

/-- The keys of a tally are the items it was made from. -/
theorem mem_keys_tally (items : List κ) (key : κ) : key ∈ (tally items).keys ↔ key ∈ items := by
  rw [← isSome_get?_iff, get?_tally]
  by_cases member : key ∈ items <;> simp [member]

end Dictionary

end NumericKernel
