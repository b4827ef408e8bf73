import NumericKernel.Fault

/-!
# Computations that ask for terms

The terms of a continued fraction are asked for one at a time, when they are needed.  A
computation says which term it asks for and how it goes on with it, so one and the same
computation yields its result and the list of its requests.
-/

namespace NumericKernel.ContinuedFraction

/-- A term that can be asked for, of the partial denominators or of the partial
numerators. -/
inductive Request where
  | a (k : Nat)
  | b (k : Nat)

/-- The index of the term. -/
def Request.index : Request → Nat
  | .a k => k
  | .b k => k

/-- A computation that asks for terms on its way. -/
inductive Query (α : Type) where
  | done (result : Except Fault α)
  | ask (t : Request) (go : Int → Query α)

/-- What a computation gives, with the requests that it has made, in their order. -/
structure Asking (α : Type) where
  requests : List Request
  answer : Except Fault α

variable {α β : Type}

/-- What a computation gives that goes on with the result of another one. -/
def Asking.bind (first : Asking α) (go : α → Asking β) : Asking β :=
  match first.answer with
  | .error fault => ⟨first.requests, .error fault⟩
  | .ok x => ⟨first.requests ++ (go x).requests, (go x).answer⟩

namespace Query

/-- A computation that goes on with the result of another one. -/
def bind : Query α → (α → Query β) → Query β
  | .done (.ok x), go => go x
  | .done (.error fault), _ => .done (.error fault)
  | .ask t next, go => .ask t fun x => (next x).bind go

instance : Monad Query where
  pure x := .done (.ok x)
  bind := Query.bind

instance : MonadLift (Except Fault) Query := ⟨.done⟩

/-- The computation that asks for one term and gives it. -/
def term (t : Request) : Query Int := .ask t fun x => .done (.ok x)

/-- A computation with the answers to its requests; one that is refused ends it. -/
def run (answers : Request → Except Fault Int) : Query α → Asking α
  | .done result => ⟨[], result⟩
  | .ask t go => Asking.bind ⟨[t], answers t⟩ fun x => (go x).run answers

end Query

end NumericKernel.ContinuedFraction
