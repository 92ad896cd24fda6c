import FractionCalculator.Query
import Mathlib.Data.List.DropRight

/-!
# Tokens of a line

The words of a line are its maximal runs without a space. A trimmed line neither
starts nor ends with a blank, so a query is split into three tokens exactly where
the line is a token, a run of spaces, a token, a run of spaces and a token.
-/

namespace FractionCalculator

namespace Text

theorem not_isBlank_of_head?_dropWhile {t : Text} {c : Char}
    (h : (t.dropWhile isBlank).head? = some c) : isBlank c = false := by
  have hn := List.head?_dropWhile_not isBlank t
  rw [h] at hn
  exact hn

theorem not_isBlank_of_head?_trim {t : Text} {c : Char} (h : t.trim.head? = some c) :
    isBlank c = false := by
  obtain ⟨s, hs⟩ : t.trim <+: t.trimStart := List.rdropWhile_prefix isBlank t.trimStart
  apply not_isBlank_of_head?_dropWhile (t := t)
  change t.trimStart.head? = some c
  rw [← hs, List.head?_append, h, Option.some_or]

theorem not_isBlank_of_getLast?_trim {t : Text} {c : Char} (h : t.trim.getLast? = some c) :
    isBlank c = false := by
  apply not_isBlank_of_head?_dropWhile (t := t.trimStart.reverse)
  rw [← h, trim, trimEnd, List.getLast?_reverse]

end Text

namespace Query

def IsToken (w : Text) : Prop :=
  w ≠ [] ∧ ' ' ∉ w

/-- A line of three tokens, with one or more spaces between them. -/
def Spaced (line : Text) (tokens : Tokens) : Prop :=
  IsToken tokens.left ∧ IsToken tokens.operator ∧ IsToken tokens.right ∧
    ∃ i j, line = tokens.left ++ (List.replicate (i + 1) ' ' ++ (tokens.operator ++
      (List.replicate (j + 1) ' ' ++ tokens.right)))

theorem words_append_space (s t : Text) : words (s ++ ' ' :: t) = words s ++ words t := by
  simp [words, List.splitOn, List.splitOnP_append_cons]

theorem words_cons_space (t : Text) : words (' ' :: t) = words t :=
  words_append_space [] t

theorem words_replicate_append (n : Nat) (t : Text) :
    words (List.replicate n ' ' ++ t) = words t := by
  induction n with
  | zero => rfl
  | succ n ih => rw [List.replicate_succ, List.cons_append, words_cons_space, ih]

theorem words_of_isToken {w : Text} (h : IsToken w) : words w = [w] := by
  have hs : ∀ c ∈ w, (c == ' ') = false := by
    intro c hc
    rw [beq_eq_false_iff_ne]
    intro he
    subst he
    exact h.2 hc
  rw [words, List.splitOn, List.splitOnP_eq_singleton hs]
  simp [h.1]

theorem exists_words_cons {c : Char} (hc : c ≠ ' ') (t : Text) :
    ∃ w r, c :: t = w ++ r ∧ IsToken w ∧ words (c :: t) = w :: words r ∧
      (r = [] ∨ ∃ r', r = ' ' :: r') := by
  by_cases hs : ' ' ∈ c :: t
  · obtain ⟨w, r, hw, hn⟩ := List.eq_append_cons_of_mem hs
    have ht : IsToken w := by
      refine ⟨?_, hn⟩
      intro he
      subst he
      exact hc (List.cons.inj hw).1
    refine ⟨w, ' ' :: r, hw, ht, ?_, Or.inr ⟨r, rfl⟩⟩
    rw [hw, words_append_space, words_of_isToken ht, words_cons_space]
    rfl
  · have ht : IsToken (c :: t) := ⟨List.cons_ne_nil c t, hs⟩
    exact ⟨c :: t, [], (List.append_nil _).symm, ht, words_of_isToken ht, Or.inl rfl⟩

theorem eq_space_of_words_eq_nil {t : Text} (h : words t = []) : ∀ c ∈ t, c = ' ' := by
  induction t with
  | nil => simp
  | cons c t ih =>
    by_cases hc : c = ' '
    · subst hc
      rw [words_cons_space] at h
      simpa using ih h
    · obtain ⟨w, r, -, -, hw, -⟩ := exists_words_cons hc t
      rw [hw] at h
      simp at h

theorem exists_of_words_eq_cons {t w : Text} {ws : List Text} (h : words t = w :: ws) :
    ∃ n r, t = List.replicate n ' ' ++ (w ++ r) ∧ IsToken w ∧ words r = ws ∧
      (r = [] ∨ ∃ r', r = ' ' :: r') := by
  induction t with
  | nil => simp [words] at h
  | cons c t ih =>
    by_cases hc : c = ' '
    · subst hc
      rw [words_cons_space] at h
      obtain ⟨n, r, ht, hr⟩ := ih h
      refine ⟨n + 1, r, ?_, hr⟩
      rw [ht, List.replicate_succ, List.cons_append]
    · obtain ⟨w', r, ht, hw, hwords, hr⟩ := exists_words_cons hc t
      rw [hwords] at h
      obtain ⟨rfl, rfl⟩ := List.cons.inj h
      exact ⟨0, r, ht, hw, rfl, hr⟩

theorem exists_of_words_cons_space {r w : Text} {ws : List Text} (h : words (' ' :: r) = w :: ws) :
    ∃ n r', ' ' :: r = List.replicate (n + 1) ' ' ++ (w ++ r') ∧ IsToken w ∧ words r' = ws ∧
      (r' = [] ∨ ∃ u, r' = ' ' :: u) := by
  rw [words_cons_space] at h
  obtain ⟨n, r', hr, hs⟩ := exists_of_words_eq_cons h
  exact ⟨n, r', by rw [hr, List.replicate_succ, List.cons_append], hs⟩

theorem words_of_spaced {line : Text} {tokens : Tokens} (h : Spaced line tokens) :
    words line = [tokens.left, tokens.operator, tokens.right] := by
  have first {w t : Text} (hw : IsToken w) (n : Nat) :
      words (w ++ (List.replicate (n + 1) ' ' ++ t)) = w :: words t := by
    rw [List.replicate_succ, List.cons_append, words_append_space, words_of_isToken hw,
      words_replicate_append]
    rfl
  obtain ⟨hl, ho, hr, i, j, rfl⟩ := h
  rw [first hl, first ho, words_of_isToken hr]

theorem spaced_of_words {line : Text} {tokens : Tokens}
    (hh : ∀ c, line.head? = some c → c ≠ ' ') (hl : ∀ c, line.getLast? = some c → c ≠ ' ')
    (h : words line = [tokens.left, tokens.operator, tokens.right]) : Spaced line tokens := by
  obtain ⟨n, r, hr, ht, hw, hs⟩ := exists_of_words_eq_cons h
  have hn : n = 0 := by
    cases n with
    | zero => rfl
    | succ n =>
      rw [hr, List.replicate_succ] at hh
      exact absurd rfl (hh ' ' rfl)
  subst hn
  rcases hs with rfl | ⟨r, rfl⟩
  · simp [words] at hw
  obtain ⟨i, r', hr', ho, hw', hs'⟩ := exists_of_words_cons_space hw
  rcases hs' with rfl | ⟨r', rfl⟩
  · simp [words] at hw'
  obtain ⟨j, u, hu, hright, hend, hs''⟩ := exists_of_words_cons_space hw'
  have hnil : u = [] := by
    by_contra hne
    refine hl _ ?_ (eq_space_of_words_eq_nil hend (u.getLast hne) (u.getLast_mem hne))
    rw [hr, hr', hu]
    simp [List.getLast?_append, List.getLast?_eq_some_getLast hne]
  subst hnil
  refine ⟨ht, ho, hright, i, j, ?_⟩
  rw [hr, hr', hu]
  simp

theorem spaced_trim_iff {input : Text} {tokens : Tokens} : Spaced input.trim tokens ↔
    words input.trim = [tokens.left, tokens.operator, tokens.right] := by
  have hspace {c : Char} (hc : Text.isBlank c = false) : c ≠ ' ' := by
    intro he
    subst he
    exact absurd hc (by decide)
  constructor
  · exact words_of_spaced
  · exact spaced_of_words (fun c hc => hspace (Text.not_isBlank_of_head?_trim hc))
      (fun c hc => hspace (Text.not_isBlank_of_getLast?_trim hc))

theorem tokenize_eq_ok_iff {input : Text} {limit : Nat} {tokens : Tokens} :
    tokenize input limit = .ok tokens ↔
      input.trim.length ≤ limit ∧ Spaced input.trim tokens := by
  rw [spaced_trim_iff]
  constructor
  · intro h
    dsimp only [tokenize] at h
    split_ifs at h with hlen
    split at h
    · next hw =>
      obtain rfl := Except.ok.inj h
      exact ⟨Nat.not_lt.1 hlen, hw⟩
    · simp at h
  · intro h
    obtain ⟨hlen, hw⟩ := h
    simp only [tokenize, if_neg (Nat.not_lt.2 hlen), hw]

end Query
end FractionCalculator
