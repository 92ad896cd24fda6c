import FractionCalculator.Proofs.Keys
import Mathlib.Data.List.Induction
import Mathlib.Data.List.Nodup

/-!
# Tallies of calls

After any steps the keys of a label show the calls under it: how many there were,
how many of them failed, and how many did not. This is so for all labels at once
if the labels of the steps are filed apart, as they are where counters are kept
for each list of label values. Taking a label into use counts nothing.
-/

namespace FractionCalculator.Metrics

def Ending.of {α ε : Type} [IsErr ε] : Except ε α → Ending
  | .ok _ => .answered
  | .error e => if IsErr.isErr e then .failed else .rejected

/-- The calls among steps: all of them, those that failed, and those that did not. -/
def tally (steps : List Step) : Counts where
  timed := steps.countP fun s => s.call.isSome
  failure := steps.countP fun s => s.call = some .failed
  success := steps.countP fun s => s.call = some .answered ∨ s.call = some .rejected

def Seen (steps : List Step) (label : Label) : Prop :=
  ∃ s ∈ steps, s.label = label

/-- Counters are kept for each list of label values, as far as these steps can tell. -/
def FiledApart {κ : Type} (file : Label → κ) (steps : List Step) : Prop :=
  ∀ l m : Label, Seen steps l → Seen steps m → file l = file m → l = m

theorem Seen.mono {less steps : List Step} (h : less ⊆ steps) {label : Label}
    (hs : Seen less label) : Seen steps label := by
  obtain ⟨s, hm, hl⟩ := hs
  exact ⟨s, h hm, hl⟩

theorem FiledApart.mono {κ : Type} {file : Label → κ} {less steps : List Step}
    (h : FiledApart file steps) (hsub : less ⊆ steps) : FiledApart file less :=
  fun l m hl hm => h l m (hl.mono hsub) (hm.mono hsub)

theorem tally_concat (steps : List Step) (s : Step) :
    tally (steps ++ [s]) = match s.call with
      | none => tally steps
      | some ending => (tally steps).add (ending = .failed) := by
  obtain ⟨label, call⟩ := s
  rcases call with - | (- | - | -) <;> simp [tally, Counts.add]

namespace Registry

variable {κ : Type} [DecidableEq κ] {file : Label → κ} {r : Registry κ} {label : Label}
  {steps : List Step}

def after (file : Label → κ) (steps : List Step) : Registry κ :=
  steps.foldl step (empty file)

theorem after_concat (file : Label → κ) (steps : List Step) (s : Step) :
    after file (steps ++ [s]) = (after file steps).step s := by
  rw [after, List.foldl_append]
  rfl

theorem length_run (r : Registry κ) (steps : List Step) :
    (r.run steps).length = steps.length := by
  induction steps generalizing r with
  | nil => rfl
  | cons s rest ih => rw [run, List.length_cons, ih, List.length_cons]

theorem getElem?_run {i : Nat} {left : Registry κ} (h : (r.run steps)[i]? = some left) :
    left = (steps.take (i + 1)).foldl step r := by
  induction steps generalizing r i with
  | nil => cases h
  | cons s rest ih =>
    cases i with
    | zero => exact (Option.some.inj h).symm
    | succ i => exact ih h

@[simp] theorem file_step (r : Registry κ) (s : Step) : (r.step s).file = r.file := by
  obtain ⟨label, call⟩ := s
  cases call with
  | none => exact r.file_create label
  | some ending => rfl

theorem file_after (file : Label → κ) (steps : List Step) : (after file steps).file = file := by
  induction steps using List.reverseRecOn with
  | nil => rfl
  | append_singleton steps s ih => rw [after_concat, file_step, ih]

/-! ## Labels in use -/

theorem mem_labels_create {l : Label} (h : l ∈ (r.create label).labels) :
    l ∈ r.labels ∨ l = label := by
  unfold create at h
  split at h
  · exact Or.inl h
  · simpa [labels] using h

theorem labels_step (r : Registry κ) (s : Step) :
    (r.step s).labels = (r.create s.label).labels := by
  obtain ⟨label, call⟩ := s
  cases call with
  | none => rfl
  | some ending => exact r.labels_observe label _

theorem seen_of_mem_labels (h : label ∈ (after file steps).labels) : Seen steps label := by
  induction steps using List.reverseRecOn with
  | nil => cases h
  | append_singleton steps s ih =>
    rw [after_concat, labels_step] at h
    rcases mem_labels_create h with h | rfl
    · exact (ih h).mono (List.subset_append_left steps [s])
    · exact ⟨s, by simp, rfl⟩

theorem own_after (h : FiledApart file steps) (hs : Seen steps label) :
    (after file steps).Own label := by
  intro l hl hf
  rw [file_after] at hf
  exact h l label (seen_of_mem_labels hl) hs hf

theorem counts_step (r : Registry κ) (s : Step) (label : Label) :
    (r.step s).counts label =
      if r.file s.label = r.file label then
        match s.call with
        | none => r.counts label
        | some ending => (r.counts label).add (ending = .failed)
      else r.counts label := by
  obtain ⟨l, call⟩ := s
  cases call with
  | none => exact (r.counts_create l label).trans (ite_self _).symm
  | some ending => exact r.counts_observe l label _

/-- The counts of a label are the calls under all labels that are filed like it. -/
theorem counts_after (file : Label → κ) (steps : List Step) (label : Label) :
    (after file steps).counts label =
      tally (steps.filter fun s => file s.label = file label) := by
  induction steps using List.reverseRecOn with
  | nil => rfl
  | append_singleton steps s ih =>
    rw [after_concat, counts_step, ih, file_after, List.filter_append, List.filter_singleton]
    by_cases hf : file s.label = file label
    · rw [if_pos hf, decide_eq_true hf, cond_true, tally_concat]
    · rw [if_neg hf, decide_eq_false hf, cond_false, List.append_nil]

end Registry

/-! ## Keys -/

end FractionCalculator.Metrics
