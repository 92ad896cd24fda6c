import FractionCalculator.Proofs.Transcript

/-!
# Sessions on streams put together

A session on a stream goes on as another session would that started where the
stream stops between two lines, its banner and first prompt apart. So a line that
is rejected or unreadable leaves nothing behind that a later line could meet. What
follows a line that quits is not looked at.
-/

namespace FractionCalculator.Console

namespace Transcript

theorem append_assoc (s t u : Transcript) : s ++ t ++ u = s ++ (t ++ u) := by
  change Transcript.mk (s.output ++ t.output ++ u.output) (s.records ++ t.records ++ u.records) =
    Transcript.mk (s.output ++ (t.output ++ u.output)) (s.records ++ (t.records ++ u.records))
  rw [List.append_assoc, List.append_assoc]

end Transcript

namespace Session

variable {lines others : List Line}

theorem replies_append (c : Calculator) (lines others : List Line) :
    replies c (lines ++ others) = replies c lines ++ replies c others := by
  induction lines with
  | nil => rfl
  | cons line rest ih =>
    change exchange c line ++ replies c (rest ++ others) = _
    rw [ih, ← Transcript.append_assoc]
    rfl

theorem taken_append (h : ∀ line ∈ lines, quits line = false) :
    taken (lines ++ others) = taken lines ++ taken others := by
  have hp : ∀ line ∈ lines, (!quits line) = true := by
    intro line hm
    rw [h line hm]
    rfl
  rw [taken, List.takeWhile_append_of_pos hp, taken, List.takeWhile_eq_self_iff.2 hp, taken]

theorem taken_append_of_quits (h : ∃ line ∈ lines, quits line = true) :
    taken (lines ++ others) = taken lines := by
  induction lines with
  | nil =>
    obtain ⟨line, hm, -⟩ := h
    exact absurd hm List.not_mem_nil
  | cons first rest ih =>
    -- Either the session ends at the first line, or the line that quits is among the others.
    by_cases hq : quits first = true
    · simp [taken, hq]
    · have hr : ∃ line ∈ rest, quits line = true := by
        obtain ⟨line, hm, hl⟩ := h
        rcases List.mem_cons.1 hm with rfl | hm
        · exact absurd hl hq
        · exact ⟨line, hm, hl⟩
      have hs : taken (rest ++ others) = taken rest := ih hr
      simp only [taken] at hs
      simp only [taken, List.cons_append, List.takeWhile_cons, hs]

/-- Two streams, the first one of whole lines, make one session: the first one's alone if a line of
it quits, else the session on the second one goes on where that on the first one stops. -/
theorem run_append (c : Calculator) {stream : List UInt8} (h : Line.Ended stream)
    (more : List UInt8) :
    ∃ pieces : List (List UInt8), Line.Cut stream pieces ∧
      let lines := pieces.map Line.ofBytes
      let whole := run c (stream ++ more)
      ((∀ line ∈ lines, quits line = false) → ∃ rest : Text,
        (run c more).output = banner ++ '\n' :: prompt ++ rest ∧
        whole.output = (run c stream).output ++ rest ∧
        whole.records = (run c stream).records ++ (run c more).records ∧
        errorRecords whole = errorRecords (run c stream) ++ errorRecords (run c more)) ∧
      ((∃ line ∈ lines, quits line = true) → whole = run c stream) := by
  refine ⟨Line.cut stream, Line.cut_spec stream, ?_⟩
  intro lines whole
  have hr : Line.read (stream ++ more) = lines ++ Line.read more := Line.read_append h
  constructor
  · intro hq
    have hw : whole = run c stream ++ replies c (taken (Line.read more)) := by
      change opening ++ replies c (taken (Line.read (stream ++ more))) = _
      rw [hr, taken_append hq, replies_append, ← Transcript.append_assoc]
      rfl
    refine ⟨(replies c (taken (Line.read more))).output, rfl, ?_, ?_, ?_⟩
    · rw [hw]
      rfl
    · rw [hw]
      rfl
    · rw [hw]
      exact errorRecords_append _ _
  · intro hq
    change opening ++ replies c (taken (Line.read (stream ++ more))) = _
    rw [hr, taken_append_of_quits hq]
    rfl

theorem run_append_both :
    let rejected := Text.utf8 "1 + x\r\n".toList
    let last := Text.utf8 "Q \n".toList
    let more := Text.utf8 "1 + 2".toList
    Line.Ended rejected ∧ Line.Ended last ∧
      (∃ rest : Text, (run {} more).output = banner ++ '\n' :: prompt ++ rest ∧
        (run {} (rejected ++ more)).output = (run {} rejected).output ++ rest) ∧
      run {} (last ++ more) = run {} last := by
  intro rejected last more
  have hr : Line.Ended rejected := by decide
  have hl : Line.Ended last := by decide
  obtain ⟨pieces, hc, hgo, -⟩ := run_append {} hr more
  obtain ⟨pieces', hc', -, hstop⟩ := run_append {} hl more
  rw [← Line.cut_eq_iff] at hc hc'
  subst hc hc'
  obtain ⟨rest, hm, hw, -⟩ := hgo (by decide +kernel)
  exact ⟨hr, hl, ⟨rest, hm, hw⟩, hstop (by decide +kernel)⟩

end Session
end FractionCalculator.Console
