import FractionCalculator.Metrics.Exposition
import Mathlib.Data.List.Basic

/-!
# Keys of counts

A count is shown under a key that names its family and its label, and the key
gives both back: a quote inside a value is escaped, so that a value ends at the
first quote that is not. Where no other label uses the counts of a label, what is
shown under its keys are its counts.
-/

namespace FractionCalculator.Metrics

/-! ## Values -/

def unescapeValue (c : Char) : Char :=
  if c = 'n' then '\n' else c

def readValue : Text → Text × Text
  | [] => ([], [])
  | '"' :: r => ([], r)
  | '\\' :: c :: r => (unescapeValue c :: (readValue r).1, (readValue r).2)
  | c :: r => (c :: (readValue r).1, (readValue r).2)

theorem readValue_escapeValue (value rest : Text) :
    readValue (value.flatMap escapeValue ++ '"' :: rest) = (value, rest) := by
  induction value with
  | nil => rfl
  | cons c value ih =>
    rw [List.flatMap_cons, List.append_assoc]
    by_cases hb : c = '\\'
    · subst hb
      simp [escapeValue, readValue, unescapeValue, ih]
    · by_cases hq : c = '"'
      · subst hq
        simp [escapeValue, readValue, unescapeValue, ih]
      · by_cases hn : c = '\n'
        · subst hn
          simp [escapeValue, readValue, unescapeValue, ih]
        · have he : escapeValue c = [c] := by simp [escapeValue]
          have hr (u : Text) : readValue (c :: u) = (c :: (readValue u).1, (readValue u).2) := by
            simp [readValue, hb]
          rw [he, List.singleton_append, hr, ih]

theorem eq_of_writeValue_append {name s t x y : Text}
    (h : writeValue name s ++ x = writeValue name t ++ y) : s = t ∧ x = y := by
  simp only [writeValue, List.append_assoc, List.append_cancel_left_eq, List.singleton_append] at h
  have hr := readValue_escapeValue s x
  rw [h, readValue_escapeValue] at hr
  exact ⟨(Prod.mk.inj hr).1.symm, (Prod.mk.inj hr).2.symm⟩

theorem Label.text_injective {l m : Label} (h : l.text = m.text) : l = m := by
  obtain ⟨hl, ht⟩ := eq_of_writeValue_append h
  obtain ⟨hf, -⟩ := eq_of_writeValue_append (congrArg (· ++ []) (List.cons.inj ht).2)
  cases l
  cases m
  rw [Label.mk.injEq]
  exact ⟨hl, hf⟩

/-! ## Keys -/

theorem mem_families_iff {f : Family} :
    f ∈ families ↔ f = timedFamily ∨ f = failureFamily ∨ f = successFamily := by
  simp only [families, List.mem_cons, List.not_mem_nil, or_false]

theorem timedFamily_mem : timedFamily ∈ families :=
  mem_families_iff.2 (.inl rfl)

theorem failureFamily_mem : failureFamily ∈ families :=
  mem_families_iff.2 (.inr (.inl rfl))

theorem successFamily_mem : successFamily ∈ families :=
  mem_families_iff.2 (.inr (.inr rfl))

def Family.stem (f : Family) : Text :=
  f.name ++ f.suffix

theorem Family.key_eq (f : Family) (l : Label) :
    f.key l = f.stem ++ '\x7b' :: (l.text ++ ['\x7d']) := by
  simp [key, stem]

theorem brace_not_mem_stem {f : Family} (h : f ∈ families) : '\x7b' ∉ f.stem := by
  rcases mem_families_iff.1 h with rfl | rfl | rfl <;> decide

/-- A key gives back its label and the name of its family. -/
theorem eq_of_key {f g : Family} (hf : f ∈ families) (hg : g ∈ families) {l m : Label}
    (h : f.key l = g.key m) : f.stem = g.stem ∧ l = m := by
  have stem {k : Family} (hk : k ∈ families) (u : Text) :
      (k.stem ++ '\x7b' :: u).takeWhile (· ≠ '\x7b') = k.stem := by
    have hp : ∀ c ∈ k.stem, decide (c ≠ '\x7b') = true := by
      intro c hc
      refine decide_eq_true fun he => ?_
      exact brace_not_mem_stem hk (he ▸ hc)
    rw [List.takeWhile_append_of_pos hp]
    simp
  rw [f.key_eq, g.key_eq] at h
  have hs : f.stem = g.stem := by rw [← stem hf (l.text ++ ['\x7d']), h, stem hg]
  rw [hs, List.append_cancel_left_eq] at h
  exact ⟨hs, Label.text_injective (List.append_cancel_right (List.cons.inj h).2)⟩

/-- What is shown under a key, nothing being shown as zero. -/
def value (samples : Samples) (f : Family) (label : Label) : Nat :=
  (samples.lookup (f.key label)).getD 0

namespace Registry

variable {κ : Type} {r : Registry κ} {label : Label}

def Own (r : Registry κ) (label : Label) : Prop :=
  ∀ l ∈ r.labels, r.file l = r.file label → l = label

def chunk (label : Label) (n : Counts) : Samples :=
  families.map fun f => (f.key label, f.count n)

theorem lookup_chunk {f : Family} (hf : f ∈ families) (label : Label) (n : Counts) :
    (chunk label n).lookup (f.key label) = some (f.count n) := by
  have hne {f g : Family} (hf : f ∈ families) (hg : g ∈ families) (hs : f.stem ≠ g.stem) :
      (f.key label == g.key label) = false :=
    beq_false_of_ne fun he => hs (eq_of_key hf hg he).1
  simp only [chunk, families, List.map_cons, List.map_nil, List.lookup_cons]
  rcases mem_families_iff.1 hf with rfl | rfl | rfl
  · simp
  · simp [hne failureFamily_mem timedFamily_mem (by decide)]
  · simp [hne successFamily_mem timedFamily_mem (by decide),
      hne successFamily_mem failureFamily_mem (by decide)]

theorem lookup_chunk_of_ne {f : Family} (hf : f ∈ families) {l : Label} (hl : l ≠ label)
    (n : Counts) : (chunk l n).lookup (f.key label) = none := by
  rw [List.lookup_eq_none_iff]
  intro p hp
  obtain ⟨g, hg, rfl⟩ := List.mem_map.1 hp
  exact bne_iff_ne.2 fun he => hl (eq_of_key hf hg he).2.symm

variable [DecidableEq κ]

theorem lookup_samples (h : r.Own label) {f : Family} (hf : f ∈ families) :
    r.samples.lookup (f.key label) = (r.find? label).map (f.count ·.2) := by
  obtain ⟨file, entries⟩ := r
  induction entries with
  | nil => rfl
  | cons entry rest ih =>
    obtain ⟨l, n⟩ := entry
    have hrest : Own ⟨file, rest⟩ label := fun m hm => h m (List.mem_cons_of_mem _ hm)
    change ((chunk l n) ++ samples ⟨file, rest⟩).lookup (f.key label) = _
    rw [List.lookup_append, ih hrest]
    by_cases hl : file l = file label
    · obtain rfl : l = label := h l List.mem_cons_self hl
      rw [lookup_chunk hf]
      simp [find?]
    · have hne : l ≠ label := fun he => hl (congrArg file he)
      rw [lookup_chunk_of_ne hf hne]
      simp [find?, hl]

theorem value_eq (h : r.Own label) {f : Family} (hf : f ∈ families) :
    value r.samples f label = f.count (r.counts label) := by
  have zero : f.count ⟨0, 0, 0⟩ = 0 := by
    rcases mem_families_iff.1 hf with rfl | rfl | rfl <;> rfl
  rw [value, lookup_samples h hf, counts]
  cases r.find? label with
  | none => exact zero.symm
  | some entry => rfl

/-! ## Counts -/

theorem find?_congr (r : Registry κ) {l m : Label} (h : r.file l = r.file m) :
    r.find? l = r.find? m := by
  rw [find?, h, find?]

theorem counts_create (r : Registry κ) (l m : Label) : (r.create l).counts m = r.counts m := by
  unfold create
  split
  · rfl
  · next hn =>
    have ha : find? ⟨r.file, r.entries ++ [(l, ⟨0, 0, 0⟩)]⟩ m =
        (r.find? m).or (find? ⟨r.file, [(l, ⟨0, 0, 0⟩)]⟩ m) := List.find?_append
    rw [counts, ha, counts]
    by_cases hf : r.file l = r.file m
    · have hm : r.find? m = none := by
        rw [← r.find?_congr hf]
        exact Option.not_isSome_iff_eq_none.1 hn
      rw [hm]
      simp [find?, hf]
    · have hs : find? ⟨r.file, [(l, ⟨0, 0, 0⟩)]⟩ m = none := by simp [find?, hf]
      rw [hs, Option.or_none]

/-- A call counts under each label that is filed like its own, and under no other. -/
theorem counts_observe (r : Registry κ) (l m : Label) (failed : Bool) :
    (r.observe l failed).counts m =
      if r.file l = r.file m then (r.counts m).add failed else r.counts m := by
  let count (entry : Label × Counts) : Label × Counts :=
    if r.file entry.1 = r.file l then (entry.1, entry.2.add failed) else entry
  -- An update keeps the labels, so a search finds the same entry before it and after it.
  have hlabel (entry : Label × Counts) : (count entry).1 = entry.1 := by
    dsimp only [count]
    split <;> rfl
  have hfind : (r.observe l failed).find? m = ((r.create l).find? m).map count := by
    let files (entry : Label × Counts) : Bool := r.file entry.1 = r.file m
    have hp : files ∘ count = files := by
      funext entry
      simp only [files, Function.comp_apply, hlabel]
    have hc : (r.create l).find? m = (r.create l).entries.find? files := by
      rw [find?, file_create]
    change ((r.create l).entries.map count).find? files = _
    rw [List.find?_map, hp, hc]
  rw [← r.counts_create l m, counts, hfind, counts]
  cases he : (r.create l).find? m with
  | none =>
    have hne : r.file l ≠ r.file m := by
      intro hf
      have hc : (r.create l).find? l = (r.create l).find? m :=
        find?_congr _ (by simpa only [file_create] using hf)
      have hs := isSome_find?_create r l
      rw [hc, he] at hs
      cases hs
    rw [if_neg hne]
    rfl
  | some entry =>
    have hm : r.file entry.1 = r.file m := by simpa using List.find?_some he
    change (count entry).2 = if r.file l = r.file m then entry.2.add failed else entry.2
    dsimp only [count]
    rw [hm]
    by_cases hf : r.file l = r.file m
    · rw [if_pos hf, if_pos hf.symm]
    · rw [if_neg hf, if_neg fun he => hf he.symm]

theorem Own.create (h : r.Own label) : (r.create label).Own label := by
  unfold Registry.create
  split
  · exact h
  · intro l hl
    rw [labels, List.map_append, List.mem_append] at hl
    rcases hl with hl | hl
    · exact h l hl
    · intro _
      exact List.mem_singleton.1 hl

theorem Own.observe (h : r.Own label) (failed : Bool) : (r.observe label failed).Own label := by
  have hc := h.create
  rw [Own, file_create] at hc
  rwa [Own, labels_observe]

end Registry

end FractionCalculator.Metrics
