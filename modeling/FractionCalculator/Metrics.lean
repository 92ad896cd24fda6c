import FractionCalculator.Text

/-!
# Metrics

Calls are counted under labels. Each label has three counts: all calls timed, the
failures among them, and the successes, which are all others. An error is a
failure unless its type says otherwise; a rejection of what the caller sent is
none.

The counters are those of a library, prometheus, which is not part of the program.
How it files them is the field `file` of a registry: labels that it files alike
use the same counts, which are shown under the label that was the first to use
them. The library documents counters of their own for each list of label values,
that is, labels filed apart. Where this matters it is a hypothesis.
-/

namespace FractionCalculator.Metrics

structure Label where
  layer : Text
  function : Text
deriving DecidableEq, Repr

structure Counts where
  timed : Nat
  failure : Nat
  success : Nat
deriving DecidableEq, Repr

def Counts.add (n : Counts) (failed : Bool) : Counts :=
  if failed then ⟨n.timed + 1, n.failure + 1, n.success⟩
  else ⟨n.timed + 1, n.failure, n.success + 1⟩

/-- The counts in use, the oldest first, each with the label they are shown under. -/
structure Registry (κ : Type) where
  file : Label → κ
  entries : List (Label × Counts)

namespace Registry

variable {κ : Type}

def empty (file : Label → κ) : Registry κ :=
  ⟨file, []⟩

def labels (r : Registry κ) : List Label :=
  r.entries.map (·.1)

variable [DecidableEq κ]

def find? (r : Registry κ) (label : Label) : Option (Label × Counts) :=
  r.entries.find? fun entry => r.file entry.1 = r.file label

def counts (r : Registry κ) (label : Label) : Counts :=
  ((r.find? label).map (·.2)).getD ⟨0, 0, 0⟩

def create (r : Registry κ) (label : Label) : Registry κ :=
  if (r.find? label).isSome then r else ⟨r.file, r.entries ++ [(label, ⟨0, 0, 0⟩)]⟩

def observe (r : Registry κ) (label : Label) (failed : Bool) : Registry κ :=
  ⟨r.file, (r.create label).entries.map fun entry =>
    if r.file entry.1 = r.file label then (entry.1, entry.2.add failed) else entry⟩

end Registry

/-- Which errors of a type are failures: all of them, unless an instance says otherwise. -/
class IsErr (ε : Type) where
  isErr : ε → Bool := fun _ => true

instance : IsErr Empty where
  isErr _ := false

def failed {α ε : Type} [IsErr ε] : Except ε α → Bool
  | .ok _ => false
  | .error e => IsErr.isErr e

def measure {κ α ε : Type} [DecidableEq κ] [IsErr ε] (r : Registry κ) (label : Label)
    (result : Except ε α) : Except ε α × Registry κ :=
  (result, r.observe label (failed result))

inductive Ending where
  | answered
  | rejected
  | failed
deriving DecidableEq, Repr

structure Step where
  label : Label
  call : Option Ending
deriving DecidableEq, Repr

namespace Registry

variable {κ : Type} [DecidableEq κ]

def step (r : Registry κ) (s : Step) : Registry κ :=
  match s.call with
  | none => r.create s.label
  | some ending => r.observe s.label (ending = .failed)

def run (r : Registry κ) : List Step → List (Registry κ)
  | [] => []
  | s :: rest => r.step s :: (r.step s).run rest

@[simp] theorem file_create (r : Registry κ) (label : Label) : (r.create label).file = r.file := by
  unfold create
  split <;> rfl

theorem isSome_find?_create (r : Registry κ) (label : Label) :
    ((r.create label).find? label).isSome = true := by
  unfold create
  split
  · assumption
  · simp [find?, List.find?_append]

@[simp] theorem labels_observe (r : Registry κ) (label : Label) (failed : Bool) :
    (r.observe label failed).labels = (r.create label).labels := by
  simp only [observe, labels, List.map_map]
  refine List.map_congr_left fun entry _ => ?_
  simp only [Function.comp]
  split <;> rfl

end Registry
end FractionCalculator.Metrics
