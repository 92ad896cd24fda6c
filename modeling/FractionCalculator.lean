import FractionCalculator.Accumulator
import FractionCalculator.Main
import FractionCalculator.Metrics.Exposition
import FractionCalculator.Service
import FractionCalculator.Service.Setting
import FractionCalculator.Proofs.Numeral
import FractionCalculator.Proofs.Notation
import FractionCalculator.Proofs.Acceptance
import FractionCalculator.Proofs.Signs
import FractionCalculator.Proofs.Arithmetic
import FractionCalculator.Proofs.Canonical
import FractionCalculator.Proofs.Spelling
import FractionCalculator.Proofs.Reference
import FractionCalculator.Proofs.Symmetry
import FractionCalculator.Proofs.Negatives
import FractionCalculator.Proofs.Conversion
import FractionCalculator.Proofs.CanonicalForms
import FractionCalculator.Proofs.Reasons
import FractionCalculator.Proofs.Integers
import FractionCalculator.Proofs.Reduction
import FractionCalculator.Proofs.Divisors
import FractionCalculator.Proofs.Exactness
import FractionCalculator.Proofs.Run
import FractionCalculator.Proofs.Staging
import FractionCalculator.Proofs.Layout
import FractionCalculator.Proofs.Spacing
import FractionCalculator.Proofs.Lines
import FractionCalculator.Proofs.Feedback
import FractionCalculator.Proofs.Transcript
import FractionCalculator.Proofs.Concatenation
import FractionCalculator.Proofs.Unbroken
import FractionCalculator.Proofs.Levels
import FractionCalculator.Proofs.Literals
import FractionCalculator.Proofs.Values
import FractionCalculator.Proofs.Objects
import FractionCalculator.Proofs.Messages
import FractionCalculator.Proofs.Computing
import FractionCalculator.Proofs.Keys
import FractionCalculator.Proofs.Serving
import FractionCalculator.Proofs.Tallies
