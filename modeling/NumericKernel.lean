import NumericKernel.ContinuedFraction.Stream
import NumericKernel.ContinuedFraction.Terms
import NumericKernel.Log.Record
import NumericKernel.Operation
import NumericKernel.Proofs.Aggregate.Leaves
import NumericKernel.Proofs.Aggregate.Extremum
import NumericKernel.Proofs.Aggregate.Mean
import NumericKernel.Proofs.Aggregate.Median
import NumericKernel.Proofs.Arithmetic.CommonDivisor
import NumericKernel.Proofs.Arithmetic.CommonDivisorFold
import NumericKernel.Proofs.Arithmetic.Faults
import NumericKernel.Proofs.Arithmetic.Integer
import NumericKernel.Proofs.Arithmetic.Remainder
import NumericKernel.Proofs.Arithmetic.SubtractiveGcd
import NumericKernel.Proofs.Coercion.Equality
import NumericKernel.Proofs.Coercion.Equivalence
import NumericKernel.Proofs.Coercion.Reading
import NumericKernel.Proofs.Combination
import NumericKernel.Proofs.Computation
import NumericKernel.Proofs.ContinuedFraction.Convergent
import NumericKernel.Proofs.ContinuedFraction.Tracked
import NumericKernel.Proofs.ContinuedFraction.Digits
import NumericKernel.Proofs.ContinuedFraction.Held
import NumericKernel.Proofs.ContinuedFraction.Rounds
import NumericKernel.Proofs.ContinuedFraction.Progress
import NumericKernel.Proofs.ContinuedFraction.Requests
import NumericKernel.Proofs.ContinuedFraction.Dependence
import NumericKernel.Proofs.ContinuedFraction.Sequence
import NumericKernel.Proofs.ContinuedFraction.Session
import NumericKernel.Proofs.ContinuedFraction.Degenerate
import NumericKernel.Proofs.Divisor.Listing
import NumericKernel.Proofs.Divisor.Multiplicative
import NumericKernel.Proofs.Double.Pattern
import NumericKernel.Proofs.Double.Rounding
import NumericKernel.Proofs.Double.Quotient
import NumericKernel.Proofs.Double.Unpacked
import NumericKernel.Proofs.Double.Operations
import NumericKernel.Proofs.Double.Whole
import NumericKernel.Proofs.Double.Tolerance
import NumericKernel.Proofs.Numeral.Digits
import NumericKernel.Proofs.Numeral.Written
import NumericKernel.Proofs.Numeral.Canonical
import NumericKernel.Proofs.Numeral.Custom
import NumericKernel.Proofs.Numeral.Decimal
import NumericKernel.Proofs.Numeral.Weights
import NumericKernel.Proofs.Prime.Test
import NumericKernel.Proofs.Prime.Neighbour
import NumericKernel.Proofs.Prime.Nearest
import NumericKernel.Proofs.Prime.Growth
import NumericKernel.Proofs.Prime.Cache
import NumericKernel.Proofs.Prime.Index
import NumericKernel.Proofs.Prime.Factorisation
import NumericKernel.Proofs.Prime.Exponents
import NumericKernel.Proofs.Prime.Steps
import NumericKernel.Proofs.Recurrence
import NumericKernel.Proofs.Roman.Canonical
import NumericKernel.Proofs.Roman.Reading
import NumericKernel.Proofs.Square
import NumericKernel.Proofs.Text.Grammar
import NumericKernel.Proofs.Text.NumberText
import NumericKernel.Roman.Entry
import NumericKernel.Settings.Session
import NumericKernel.Proofs.ContinuedFraction.Radix
import NumericKernel.Proofs.Prime.TrialDivision
import NumericKernel.Proofs.Prime.CachedExponents
