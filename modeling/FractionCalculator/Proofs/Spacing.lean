import FractionCalculator.Proofs.Exactness
import FractionCalculator.Proofs.Layout

/-!
# Spacing of a query

Splitting a query is exact: it depends on the length of the trimmed line and on its
maximal runs without a space, and gives three tokens where there are three runs.
Blanks around the line, and how many spaces stand between its tokens, are of no
account, and the limit is of none once the line is within it: the three tokens
decide how the query is answered.
-/

namespace FractionCalculator

def Tokens.line (tokens : Tokens) : Text :=
  tokens.left ++ ' ' :: (tokens.operator ++ ' ' :: tokens.right)

theorem Text.trim_surrounded {before t behind : Text} (hne : t ≠ [])
    (hh : ∀ c, t.head? = some c → isBlank c = false)
    (hl : ∀ c, t.getLast? = some c → isBlank c = false)
    (hb : ∀ c ∈ before, isBlank c = true) (hb' : ∀ c ∈ behind, isBlank c = true) :
    (before ++ (t ++ behind)).trim = t := by
  have hstart : (before ++ (t ++ behind)).trimStart = t ++ behind := by
    obtain ⟨c, t, rfl⟩ := List.exists_cons_of_ne_nil hne
    rw [trimStart, List.dropWhile_append_of_pos hb, List.cons_append]
    exact trimStart_eq_self (hh c rfl)
  have hend : (t ++ behind).trimEnd = t.trimEnd := by
    rw [trimEnd, List.reverse_append, List.dropWhile_append_of_pos, trimEnd]
    exact fun c hc => hb' c (List.mem_reverse.1 hc)
  rw [trim, hstart, hend]
  have ht := trim_eq_self hh hl
  obtain ⟨c, t, rfl⟩ := List.exists_cons_of_ne_nil hne
  rwa [trim, trimStart_eq_self (hh c rfl)] at ht

namespace Query

/-- The maximal runs without a space in a text, in order: each ends at a space or at the end, and
between two of them there are spaces alone. -/
inductive Runs : Text → List Text → Prop where
  | none : Runs [] []
  | space {t : Text} {ws : List Text} (h : Runs t ws) : Runs (' ' :: t) ws
  | last {w : Text} (hw : IsToken w) : Runs w [w]
  | run {w t : Text} {ws : List Text} (hw : IsToken w) (h : Runs (' ' :: t) ws) :
    Runs (w ++ ' ' :: t) (w :: ws)

variable {input line : Text} {limit : Nat} {tokens : Tokens} {ws : List Text}

theorem Runs.words_eq (h : Runs line ws) : words line = ws := by
  induction h with
  | none => rfl
  | space _ ih => rw [words_cons_space, ih]
  | last hw => exact words_of_isToken hw
  | run hw _ ih =>
    rw [words_cons_space] at ih
    rw [words_append_space, words_of_isToken hw, ih]
    rfl

theorem runs_words (line : Text) : Runs line (words line) := by
  -- Each run is cut off with what stands before it, so the rest is shorter.
  induction hn : line.length using Nat.strong_induction_on generalizing line with
  | _ n ih =>
    cases line with
    | nil => exact .none
    | cons c t =>
      by_cases hc : c = ' '
      · subst hc
        rw [words_cons_space]
        exact .space (ih _ (by simp [← hn]) t rfl)
      · obtain ⟨w, r, ht, hw, hwords, hr⟩ := exists_words_cons hc t
        rw [hwords]
        rcases hr with rfl | ⟨r, rfl⟩
        · rw [ht, List.append_nil]
          exact .last hw
        · have hlen : (c :: t).length = w.length + (' ' :: r).length := by
            rw [ht, List.length_append]
          have hpos := List.length_pos_iff.2 hw.1
          rw [ht]
          exact .run hw (ih _ (by omega) _ rfl)

theorem runs_iff : Runs line ws ↔ ws = words line :=
  ⟨fun h => h.words_eq.symm, fun h => h ▸ runs_words line⟩

theorem Spaced.unique {tokens' : Tokens} (h : Spaced line tokens) (h' : Spaced line tokens') :
    tokens = tokens' := by
  have hw := (words_of_spaced h).symm.trans (words_of_spaced h')
  cases tokens
  cases tokens'
  simpa using hw

theorem exists_spaced_iff (input : Text) :
    (∃ tokens, Spaced input.trim tokens) ↔ (words input.trim).length = 3 := by
  constructor
  · rintro ⟨tokens, h⟩
    rw [words_of_spaced h]
    rfl
  · intro h
    obtain ⟨a, o, b, hw⟩ := List.length_eq_three.1 h
    exact ⟨⟨a, o, b⟩, spaced_trim_iff.2 hw⟩

theorem tokenize_eq_error_of_length (hlen : input.trim.length ≤ limit)
    (h : (words input.trim).length ≠ 3) :
    tokenize input limit = .error (.wrongTokenCount (words input.trim).length) := by
  rw [tokenize, if_neg (Nat.not_lt.2 hlen)]
  split
  · next hw =>
    rw [hw] at h
    exact absurd rfl h
  · rfl

theorem spaced_line (hl : IsToken tokens.left) (ho : IsToken tokens.operator)
    (hr : IsToken tokens.right) : Spaced tokens.line tokens :=
  ⟨hl, ho, hr, 0, 0, rfl⟩

theorem head?_of_spaced (h : Spaced line tokens) : line.head? = tokens.left.head? := by
  obtain ⟨hl, -, -, i, j, rfl⟩ := h
  exact List.head?_append_of_ne_nil _ hl.1

theorem getLast?_of_spaced (h : Spaced line tokens) :
    line.getLast? = tokens.right.getLast? := by
  obtain ⟨-, -, hr, i, j, rfl⟩ := h
  simp only [← List.append_assoc]
  exact List.getLast?_append_of_ne_nil _ hr.1

theorem tokenize_surrounded (h : Spaced input.trim tokens) {before behind : Text}
    (hb : ∀ c ∈ before, Text.isBlank c = true) (hb' : ∀ c ∈ behind, Text.isBlank c = true)
    (hlen : tokens.line.length ≤ limit) :
    tokenize (before ++ (tokens.line ++ behind)) limit = .ok tokens := by
  have hs : Spaced tokens.line tokens := spaced_line h.1 h.2.1 h.2.2.1
  have ht : (before ++ (tokens.line ++ behind)).trim = tokens.line := by
    refine Text.trim_surrounded ?_ ?_ ?_ hb hb'
    · simp [Tokens.line]
    · intro c hc
      rw [head?_of_spaced hs, ← head?_of_spaced h] at hc
      exact Text.not_isBlank_of_head?_trim hc
    · intro c hc
      rw [getLast?_of_spaced hs, ← getLast?_of_spaced h] at hc
      exact Text.not_isBlank_of_getLast?_trim hc
  rw [tokenize_eq_ok_iff, ht]
  exact ⟨hlen, hs⟩

theorem answer_congr {c c' : Calculator} {input' : Text}
    (h : tokenize input c.maxInputLength = .ok tokens)
    (h' : tokenize input' c'.maxInputLength = .ok tokens) : c'.answer input' = c.answer input := by
  rw [Calculator.answer_eq, Calculator.answer_eq, h, h', ok_bind]

theorem tokenize_eq_too_long_iff :
    tokenize input limit = .error (.inputTooLong input.trim.length limit) ↔
      limit < input.trim.length := by
  refine ⟨fun h => ?_, tokenize_too_long⟩
  rw [tokenize] at h
  split_ifs at h with hlen
  · exact hlen
  · split at h <;> cases h

theorem tokenize_eq_wrong_count_iff {k : Nat} :
    tokenize input limit = .error (.wrongTokenCount k) ↔
      input.trim.length ≤ limit ∧ (words input.trim).length ≠ 3 ∧ k = (words input.trim).length := by
  constructor
  · intro h
    by_cases hlen : limit < input.trim.length
    · rw [tokenize_too_long hlen] at h
      cases h
    · rw [Nat.not_lt] at hlen
      by_cases h3 : (words input.trim).length = 3
      · obtain ⟨tokens, hs⟩ := (exists_spaced_iff input).2 h3
        rw [tokenize_eq_ok_iff.2 ⟨hlen, hs⟩] at h
        cases h
      · rw [tokenize_eq_error_of_length hlen h3] at h
        cases h
        exact ⟨hlen, h3, rfl⟩
  · rintro ⟨hlen, h3, rfl⟩
    exact tokenize_eq_error_of_length hlen h3

/-- A query is too long, or a line of three tokens, or has another number of runs; its tokens are
the only ones, and neither the spacing nor the limit has a part in what becomes of them. -/
theorem tokenize_exact (input : Text) (limit : Nat) :
    let line := input.trim
    (tokenize input limit = .error (.inputTooLong line.length limit) ↔ limit < line.length) ∧
    (∀ tokens, tokenize input limit = .ok tokens ↔ line.length ≤ limit ∧ Spaced line tokens) ∧
    (∀ tokens tokens', Spaced line tokens → Spaced line tokens' → tokens = tokens') ∧
    (∃ ws, (∀ ws', Runs line ws' ↔ ws' = ws) ∧
      ((∃ tokens, Spaced line tokens) ↔ ws.length = 3) ∧
      ∀ k, tokenize input limit = .error (.wrongTokenCount k) ↔
        line.length ≤ limit ∧ ws.length ≠ 3 ∧ k = ws.length) ∧
    ∀ tokens, tokenize input limit = .ok tokens →
      (∀ before behind limit', (∀ c ∈ before, Text.isBlank c = true) →
        (∀ c ∈ behind, Text.isBlank c = true) → tokens.line.length ≤ limit' →
        tokenize (before ++ (tokens.line ++ behind)) limit' = .ok tokens) ∧
      ∀ (c c' : Calculator) (input' : Text), c.maxInputLength = limit →
        tokenize input' c'.maxInputLength = .ok tokens → c'.answer input' = c.answer input := by
  intro line
  refine ⟨tokenize_eq_too_long_iff, fun tokens => tokenize_eq_ok_iff,
    fun tokens tokens' => Spaced.unique, ⟨words line, fun ws' => runs_iff,
      exists_spaced_iff input, fun k => tokenize_eq_wrong_count_iff⟩, ?_⟩
  intro tokens h
  refine ⟨fun before behind limit' => tokenize_surrounded (tokenize_eq_ok_iff.1 h).2, ?_⟩
  rintro c c' input' rfl h'
  exact answer_congr h h'

theorem tokenize_exact_tab :
    let input := ['\u00a0', '1', '\t', '2', ' ', ' ', ' ', '+', ' ', '3', '\u3000']
    let tokens : Tokens := ⟨['1', '\t', '2'], ['+'], ['3']⟩
    tokenize input 9 = .ok tokens ∧ tokenize (['\n'] ++ (tokens.line ++ ['\u2028'])) 7 = .ok tokens ∧
      Calculator.answer ⟨7, []⟩ (['\n'] ++ (tokens.line ++ ['\u2028'])) =
        Calculator.answer ⟨9, []⟩ input := by
  intro input tokens
  have h : tokenize input 9 = .ok tokens := by decide +kernel
  obtain ⟨again, same⟩ := (tokenize_exact input 9).2.2.2.2 tokens h
  have h' := again ['\n'] ['\u2028'] 7 (List.forall_mem_singleton.2 (by decide))
    (List.forall_mem_singleton.2 (by decide)) (by decide)
  exact ⟨h, h', same ⟨9, []⟩ ⟨7, []⟩ _ rfl h'⟩

end Query
end FractionCalculator
