import NumericKernel.Coercion
import NumericKernel.Tree

/-!
# Extrema

The greatest or least number among the leaves of a tree.  Leaves that stand for no
number are passed over and reported in the order in which they are met, also if a later
leaf makes the search fail.
-/

namespace NumericKernel.Aggregate

/-- The better one of a number and a candidate; the number keeps its place when
neither is better. -/
def choose (better : Number → Number → Bool) (best : Option Number) (candidate : Number) :
    Option Number :=
  match best with
  | none => some candidate
  | some n => if better candidate n then some candidate else some n

mutual

/-- The best number of a tree, if it has one, and the leaves passed over.  A leaf that stands
for no number is passed over; one that cannot be read ends the search. -/
def extremum (c : Coercion) (better : Number → Number → Bool) :
    Tree → Except Fault (Option Number) × List Value
  | .leaf raw =>
    match c.toNumber raw with
    | .ok n => (.ok (some n), [])
    | .error fault =>
      if fault.kind = .undefinedDomain then (.ok none, [raw]) else (.error fault, [])
  | .seq items => extremumFrom c better none items

/-- The best number of a sequence of trees, carried on from a first one, and the
leaves passed over. -/
def extremumFrom (c : Coercion) (better : Number → Number → Bool) (best : Option Number) :
    List Tree → Except Fault (Option Number) × List Value
  | [] => (.ok best, [])
  | item :: rest =>
    match extremum c better item with
    | (.error fault, skipped) => (.error fault, skipped)
    | (.ok candidate, skipped) =>
      let next := match candidate with
        | none => best
        | some n => choose better best n
      let (result, later) := extremumFrom c better next rest
      (result, skipped ++ later)

end

/-- The best number among the items of a tree, and the leaves passed over. -/
def bestOf (c : Coercion) (better : Number → Number → Bool) (t : Tree) :
    Except Fault (Option Number) × List Value :=
  match t.items with
  | .ok items => extremumFrom c better none items
  | .error fault => (.error fault, [])

/-- The greatest number in a tree, and the leaves passed over. -/
def maximum (c : Coercion) (t : Tree) : Except Fault (Option Number) × List Value :=
  bestOf c (fun a b => b.less a) t

/-- The least number in a tree, and the leaves passed over. -/
def minimum (c : Coercion) (t : Tree) : Except Fault (Option Number) × List Value :=
  bestOf c Number.less t

/-- What is reported of a leaf that is passed over. -/
def skipMessage (raw : Value) : String := "skipping non-numeric leaf " ++ raw.literal

end NumericKernel.Aggregate
