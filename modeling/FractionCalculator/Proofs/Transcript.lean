import FractionCalculator.Console.Session
import FractionCalculator.Proofs.Feedback
import FractionCalculator.Proofs.Lines
import FractionCalculator.Proofs.Staging
import Mathlib.Data.List.Infix

/-!
# Transcripts of a session

Each line that a session takes is either answered on the output or reported by one
error record. The output shows banner and prompts besides, and what follows a
prompt stands on the prompt's last line; an answer has neither a line feed nor
anything that looks like a prompt in it, so that the answers and the number of the
lines taken can be read off the output.
-/

namespace FractionCalculator.Console

@[simp] theorem Transcript.output_append (s t : Transcript) :
    (s ++ t).output = s.output ++ t.output :=
  rfl

namespace Session

inductive Outcome where
  | answered (answer : Text)
  | reported (message : Text)

namespace Outcome

def output : Outcome → Text
  | .answered answer => "= ".toList ++ answer ++ ['\n']
  | .reported _ => []

def answer? : Outcome → Option Text
  | .answered answer => some answer
  | .reported _ => none

def message? : Outcome → Option Text
  | .answered _ => none
  | .reported message => some message

end Outcome

def outcome (c : Calculator) : Line → Outcome
  | .text t =>
    match c.answer t with
    | .ok answer => .answered answer
    | .error cause => .reported cause.message
  | .unreadable => .reported "Unreadable query: stream did not contain valid UTF-8".toList

/-- The lines of an output that start with an answer's mark, without the mark. -/
def answersIn (output : Text) : List Text :=
  ((output.splitOn '\n').filter ("? = ".toList.isPrefixOf ·)).map (·.drop 4)

def promptsIn (output : Text) : Nat :=
  output.tails.countP (prompt.isPrefixOf ·)

def errorRecords (t : Transcript) : List Log.Record :=
  t.records.filter (·.level = .error)

theorem errorRecords_append (s t : Transcript) :
    errorRecords (s ++ t) = errorRecords s ++ errorRecords t :=
  List.filter_append _ _

theorem filter_error_execute (c : Calculator) (t : Text) :
    (c.execute t).records.filter (·.level = .error) = [] := by
  rw [List.filter_eq_nil_iff]
  intro r hr
  rcases Calculator.level_of_mem_records hr with h | h
  · simp [h]
  · simp [h]

theorem reply_spec (c : Calculator) (line : Line) :
    (reply c line).output = (outcome c line).output ∧
      errorRecords (reply c line) = (outcome c line).message?.toList.map (note .error) := by
  cases line with
  | unreadable => exact ⟨rfl, rfl⟩
  | text t =>
    have hx := filter_error_execute c t
    simp only [reply, outcome, Calculator.answer, errorRecords]
    cases (c.execute t).outcome with
    | ok answer => exact ⟨rfl, hx⟩
    | error cause =>
      refine ⟨rfl, ?_⟩
      rw [List.filter_append, hx]
      rfl

theorem replies_spec (c : Calculator) (lines : List Line) :
    (replies c lines).output = (lines.map (outcome c)).flatMap (fun o => o.output ++ prompt) ∧
      errorRecords (replies c lines) =
        ((lines.map (outcome c)).filterMap Outcome.message?).map (note .error) := by
  induction lines with
  | nil => exact ⟨rfl, rfl⟩
  | cons line rest ih =>
    obtain ⟨ho, he⟩ := reply_spec c line
    constructor
    · simp only [replies, exchange, Transcript.output_append, List.map_cons, List.flatMap_cons, ho,
        ih.1]
    · rw [replies, exchange, errorRecords_append, errorRecords_append, he, ih.2]
      cases hm : (outcome c line).message? with
      | none => simp [hm, errorRecords]
      | some message => simp [hm, errorRecords]

def Outcome.Plain : Outcome → Prop
  | .answered answer => ∀ c ∈ answer, Operand.IsMark c
  | .reported _ => True

theorem plain_outcome (c : Calculator) (line : Line) : (outcome c line).Plain := by
  cases line with
  | unreadable => trivial
  | text t =>
    rw [outcome]
    cases h : c.answer t with
    | ok answer =>
      obtain ⟨f, -, hp, -⟩ := Calculator.parse_answer h
      exact Operand.isMark_of_parse hp
    | error cause => trivial

def promptLine : Text :=
  "Enter Arithmetic Query or \"".toList ++ quitWord ++ "\" to Quit: ".toList

theorem prompt_eq : prompt = promptLine ++ '\n' :: "? ".toList :=
  rfl

theorem answersIn_append_line (s t : Text) :
    answersIn (s ++ '\n' :: t) = answersIn s ++ answersIn t := by
  simp [answersIn, List.splitOn_append_cons_self]

theorem answersIn_append_prompt (s t : Text) :
    answersIn (s ++ (prompt ++ t)) = answersIn (s ++ promptLine) ++ answersIn ("? ".toList ++ t) := by
  have hs : s ++ (prompt ++ t) = (s ++ promptLine) ++ '\n' :: ("? ".toList ++ t) := by
    simp [prompt_eq]
  rw [hs, answersIn_append_line]

theorem answersIn_answer {answer : Text} (h : '\n' ∉ answer) :
    answersIn ("? = ".toList ++ answer) = [answer] := by
  have hn : '\n' ∉ "? = ".toList ++ answer := by
    rw [List.mem_append, not_or]
    exact ⟨by decide, h⟩
  rw [answersIn, List.splitOn_eq_singleton hn]
  simp

/-- After a prompt's mark an answer starts a line, and a line that is reported leaves nothing there
that looks like one. -/
theorem answersIn_outcome {o : Outcome} (h : o.Plain) :
    answersIn ("? ".toList ++ o.output ++ promptLine) = o.answer?.toList := by
  cases o with
  | answered answer =>
    have hn : '\n' ∉ answer := fun hm => absurd (h _ hm).not_isBlank (by decide)
    have hl : answersIn promptLine = [] := by decide +kernel
    have hs : "? ".toList ++ (Outcome.answered answer).output ++ promptLine =
        ("? = ".toList ++ answer) ++ '\n' :: promptLine := by
      simp [Outcome.output]
    rw [hs, answersIn_append_line, answersIn_answer hn, hl]
    rfl
  | reported message =>
    have hl : answersIn ("? ".toList ++ promptLine) = [] := by decide +kernel
    rw [Outcome.output, List.append_nil, hl]
    rfl

theorem answersIn_outcomes {outcomes : List Outcome} (h : ∀ o ∈ outcomes, o.Plain) :
    answersIn ("? ".toList ++ outcomes.flatMap (fun o => o.output ++ prompt)) =
      outcomes.filterMap Outcome.answer? := by
  induction outcomes with
  | nil => decide +kernel
  | cons o rest ih =>
    obtain ⟨ho, hr⟩ := List.forall_mem_cons.1 h
    rw [List.flatMap_cons, List.append_assoc, ← List.append_assoc, answersIn_append_prompt,
      answersIn_outcome ho, ih hr]
    cases o with
    | answered answer => rfl
    | reported message => rfl

def Apart (s : Text) : Prop :=
  ∀ u ∈ s.tails, u ≠ [] → ¬u <+: prompt ∧ ¬prompt <+: u

instance (s : Text) : Decidable (Apart s) :=
  inferInstanceAs (Decidable (∀ u ∈ s.tails, _ → _))

theorem apart_of_not_mem {s : Text} (h : 'E' ∉ s) : Apart s := by
  intro u hu hne
  have hsub : u ⊆ s := ((List.mem_tails u s).1 hu).subset
  cases u with
  | nil => exact absurd rfl hne
  | cons c u =>
    have hc : c ≠ 'E' := by
      rintro rfl
      exact h (hsub List.mem_cons_self)
    have hp : prompt = 'E' :: prompt.tail := rfl
    constructor
    · intro hpre
      rw [hp] at hpre
      exact hc (List.cons_prefix_cons.1 hpre).1
    · intro hpre
      rw [hp] at hpre
      exact hc (List.cons_prefix_cons.1 hpre).1.symm

theorem promptsIn_cons (c : Char) (s : Text) :
    promptsIn (c :: s) = promptsIn s + if prompt.isPrefixOf (c :: s) then 1 else 0 := by
  rw [promptsIn, List.tails_cons, List.countP_cons]
  rfl

theorem promptsIn_append {s : Text} (h : Apart s) (t : Text) :
    promptsIn (s ++ t) = promptsIn t := by
  induction s with
  | nil => rfl
  | cons c s ih =>
    rw [Apart, List.tails_cons, List.forall_mem_cons] at h
    obtain ⟨hc, hs⟩ := h
    obtain ⟨hl, hr⟩ := hc (List.cons_ne_nil c s)
    -- Of two texts that start the same text one starts the other.
    have hn : ¬prompt <+: c :: s ++ t := by
      intro hp
      rcases List.prefix_or_prefix_of_prefix hp (List.prefix_append (c :: s) t) with hp | hp
      · exact hr hp
      · exact hl hp
    rw [List.cons_append, promptsIn_cons, ih hs, if_neg (by simpa using hn), Nat.add_zero]

theorem promptsIn_prompt_append (t : Text) : promptsIn (prompt ++ t) = promptsIn t + 1 := by
  have hp : prompt = 'E' :: prompt.tail := rfl
  have ha : Apart prompt.tail := by decide +kernel
  have hpre : prompt.isPrefixOf (prompt ++ t) = true := by simp
  calc
    promptsIn (prompt ++ t) = promptsIn ('E' :: (prompt.tail ++ t)) := rfl
    _ = promptsIn (prompt.tail ++ t) + 1 := by
      rw [promptsIn_cons]
      exact congrArg _ (if_pos hpre)
    _ = promptsIn t + 1 := by rw [promptsIn_append ha]

theorem apart_output {o : Outcome} (h : o.Plain) : Apart o.output := by
  cases o with
  | answered answer =>
    apply apart_of_not_mem
    have ha : 'E' ∉ answer := by
      intro hm
      rcases h _ hm with hd | hd | hd | hd <;> simp at hd
    simp [Outcome.output, ha]
  | reported message => exact apart_of_not_mem List.not_mem_nil

theorem promptsIn_outcomes {outcomes : List Outcome} (h : ∀ o ∈ outcomes, o.Plain) :
    promptsIn (outcomes.flatMap (fun o => o.output ++ prompt)) = outcomes.length := by
  induction outcomes with
  | nil => decide +kernel
  | cons o rest ih =>
    obtain ⟨ho, hr⟩ := List.forall_mem_cons.1 h
    rw [List.flatMap_cons, List.append_assoc, promptsIn_append (apart_output ho),
      promptsIn_prompt_append, ih hr, List.length_cons]

theorem banner_clear :
    answersIn (banner ++ ['\n'] ++ promptLine) = [] ∧ Apart (banner ++ ['\n']) := by
  -- Decided on the characters of the lines: a string is slow to take apart.
  obtain ⟨lines, hl, hc⟩ : ∃ lines : List Text, bannerLines = lines.map String.ofList ∧
      answersIn (lines.flatMap (· ++ ['\n']) ++ ['\n'] ++ promptLine) = [] ∧
        Apart (lines.flatMap (· ++ ['\n']) ++ ['\n']) :=
    ⟨[_, _, _, _, _, _, _], rfl, by decide +kernel⟩
  have hb : banner = lines.flatMap (· ++ ['\n']) := by
    rw [banner, hl, List.flatMap_map]
    simp only [String.toList_ofList]
  rw [hb]
  exact hc

/-! ## Lines as bytes -/

/-- A line that stops the session: UTF-8 of the letter, blanks after it or not. -/
def Quits (line : List UInt8) : Prop :=
  ∃ t : Text, t.utf8 = line ∧ t.trimEnd = ['Q']

/-- What has to become of the bytes of a line. -/
inductive Becomes (c : Calculator) : List UInt8 → Outcome → Prop where
  | answered {t answer : Text} (h : c.answer t = .ok answer) : Becomes c t.utf8 (.answered answer)
  | rejected {t : Text} {cause : Rejection} (h : c.answer t = .error cause) :
    Becomes c t.utf8 (.reported cause.message)
  | unreadable {line : List UInt8} (h : ∀ t : Text, t.utf8 ≠ line) :
    Becomes c line (.reported "Unreadable query: stream did not contain valid UTF-8".toList)

/-- The lines of a stream up to the one that stops the session, and what becomes of each. -/
structure Accounted (c : Calculator) (stream : List UInt8) (lines : List (List UInt8))
    (outcomes : List Outcome) : Prop where
  cut : ∃ rest, Line.Cut stream (lines ++ rest) ∧ ∀ line ∈ rest.head?, Quits line
  goes : ∀ line ∈ lines, ¬Quits line
  becomes : List.Forall₂ (Becomes c) lines outcomes

theorem quits_ofBytes_iff {line : List UInt8} : quits (Line.ofBytes line) = true ↔ Quits line := by
  unfold Line.ofBytes
  constructor
  · intro h
    split at h
    · next t ht => exact ⟨t, Text.utf8_of_ofUtf8? ht, of_decide_eq_true h⟩
    · cases h
  · rintro ⟨t, rfl, hq⟩
    rw [Text.ofUtf8?_utf8]
    exact decide_eq_true hq

instance (line : List UInt8) : Decidable (Quits line) :=
  decidable_of_iff _ quits_ofBytes_iff

theorem becomes_iff {c : Calculator} {line : List UInt8} {o : Outcome} :
    Becomes c line o ↔ outcome c (Line.ofBytes line) = o := by
  constructor
  · rintro (h | h | h)
    · simp only [Line.ofBytes, Text.ofUtf8?_utf8, outcome, h]
    · simp only [Line.ofBytes, Text.ofUtf8?_utf8, outcome, h]
    · have hn : Text.ofUtf8? line = none :=
        Option.eq_none_iff_forall_ne_some.2 fun t ht => h t (Text.utf8_of_ofUtf8? ht)
      simp only [Line.ofBytes, hn, outcome]
  · rintro rfl
    unfold Line.ofBytes
    split
    · next t ht =>
      obtain rfl := Text.utf8_of_ofUtf8? ht
      rw [outcome]
      split
      · next answer h => exact .answered h
      · next cause h => exact .rejected h
    · next hn =>
      refine .unreadable ?_
      rintro t rfl
      rw [Text.ofUtf8?_utf8] at hn
      cases hn

theorem takeWhile_append_of_stop {lines rest : List (List UInt8)} (goes : ∀ line ∈ lines, ¬Quits line)
    (stop : ∀ line ∈ rest.head?, Quits line) :
    (lines ++ rest).takeWhile (fun line => !quits (Line.ofBytes line)) = lines := by
  have hgo : ∀ line ∈ lines, (!quits (Line.ofBytes line)) = true := by
    intro line hm
    rw [Bool.not_eq_true', Bool.eq_false_iff, ne_eq, quits_ofBytes_iff]
    exact goes line hm
  rw [List.takeWhile_append_of_pos hgo]
  cases rest with
  | nil => exact List.append_nil lines
  | cons line rest =>
    rw [List.takeWhile_cons, quits_ofBytes_iff.2 (stop line rfl)]
    exact List.append_nil lines

theorem accounted_iff {c : Calculator} {stream : List UInt8} {lines : List (List UInt8)}
    {outcomes : List Outcome} :
    Accounted c stream lines outcomes ↔
      lines = (Line.cut stream).takeWhile (fun line => !quits (Line.ofBytes line)) ∧
        outcomes = lines.map fun line => outcome c (Line.ofBytes line) := by
  have hbecomes : List.Forall₂ (Becomes c) lines outcomes ↔
      (lines.map fun line => outcome c (Line.ofBytes line)) = outcomes := by
    have hr : Becomes c = fun line o => outcome c (Line.ofBytes line) = o :=
      funext₂ fun _ _ => propext becomes_iff
    rw [hr, ← List.forall₂_eq_eq_eq, List.forall₂_map_left_iff]
  constructor
  · rintro ⟨⟨rest, hc, hs⟩, hg, hb⟩
    rw [Line.cut_eq_iff.2 hc, takeWhile_append_of_stop hg hs]
    exact ⟨rfl, (hbecomes.1 hb).symm⟩
  · rintro ⟨hl, ho⟩
    refine ⟨⟨(Line.cut stream).dropWhile fun line => !quits (Line.ofBytes line), ?_, ?_⟩, ?_,
      hbecomes.2 ho.symm⟩
    · rw [hl, List.takeWhile_append_dropWhile]
      exact Line.cut_spec stream
    · intro line hm
      have hq := List.head?_dropWhile_not (fun line => !quits (Line.ofBytes line)) (Line.cut stream)
      rw [Option.mem_def.1 hm] at hq
      exact quits_ofBytes_iff.1 (by simpa using hq)
    · intro line hm
      have hq := List.mem_takeWhile_imp (hl ▸ hm)
      rw [← quits_ofBytes_iff]
      simpa using hq

theorem Accounted.plain {c : Calculator} {stream : List UInt8} {lines : List (List UInt8)}
    {outcomes : List Outcome} (h : Accounted c stream lines outcomes) : ∀ o ∈ outcomes, o.Plain := by
  obtain ⟨-, rfl⟩ := accounted_iff.1 h
  intro o hm
  obtain ⟨line, -, rfl⟩ := List.mem_map.1 hm
  exact plain_outcome c _

theorem Accounted.run_spec {c : Calculator} {stream : List UInt8} {lines : List (List UInt8)}
    {outcomes : List Outcome} (h : Accounted c stream lines outcomes) :
    (run c stream).output =
        banner ++ '\n' :: prompt ++ outcomes.flatMap (fun o => o.output ++ prompt) ∧
      errorRecords (run c stream) = (outcomes.filterMap Outcome.message?).map (note .error) := by
  obtain ⟨hl, ho⟩ := accounted_iff.1 h
  have htaken : taken (Line.read stream) = lines.map Line.ofBytes := by
    rw [taken, Line.read, List.takeWhile_map, hl]
    rfl
  have houtcomes : (taken (Line.read stream)).map (outcome c) = outcomes := by
    rw [htaken, List.map_map, ho]
    rfl
  obtain ⟨hout, herr⟩ := replies_spec c (taken (Line.read stream))
  rw [houtcomes] at hout herr
  constructor
  · rw [← hout]
    rfl
  · rw [← herr]
    rfl

theorem told_by_output {outcomes : List Outcome} (h : ∀ o ∈ outcomes, o.Plain) :
    let output := banner ++ '\n' :: prompt ++ outcomes.flatMap (fun o => o.output ++ prompt)
    answersIn output = outcomes.filterMap Outcome.answer? ∧
      promptsIn output = outcomes.length + 1 := by
  intro output
  have split : output =
      (banner ++ ['\n']) ++ (prompt ++ outcomes.flatMap (fun o => o.output ++ prompt)) := by
    simp [output]
  obtain ⟨hanswers, hprompts⟩ := banner_clear
  constructor
  · rw [split, answersIn_append_prompt, hanswers, List.nil_append, answersIn_outcomes h]
  · rw [split, promptsIn_append hprompts, promptsIn_prompt_append, promptsIn_outcomes h]

/-- Every line before the one that quits is answered or reported, in order, and the output alone
tells the answers and how many lines there were. -/
theorem run_accounts (c : Calculator) (stream : List UInt8) :
    ∃ (lines : List (List UInt8)) (outcomes : List Outcome),
      Accounted c stream lines outcomes ∧
      (∀ lines' outcomes', Accounted c stream lines' outcomes' →
        lines' = lines ∧ outcomes' = outcomes) ∧
      let transcript := run c stream
      transcript.output =
        banner ++ '\n' :: prompt ++ outcomes.flatMap (fun o => o.output ++ prompt) ∧
      transcript.records.filter (·.level = .error) =
        (outcomes.filterMap Outcome.message?).map (note .error) ∧
      answersIn transcript.output = outcomes.filterMap Outcome.answer? ∧
      promptsIn transcript.output = lines.length + 1 := by
  let lines := (Line.cut stream).takeWhile fun line => !quits (Line.ofBytes line)
  let outcomes := lines.map fun line => outcome c (Line.ofBytes line)
  have accounted : Accounted c stream lines outcomes := accounted_iff.2 ⟨rfl, rfl⟩
  refine ⟨lines, outcomes, accounted, ?_, ?_⟩
  · intro lines' outcomes' h
    obtain ⟨rfl, rfl⟩ := accounted_iff.1 h
    exact ⟨rfl, rfl⟩
  · intro transcript
    obtain ⟨output, errors⟩ := accounted.run_spec
    obtain ⟨answers, prompts⟩ := told_by_output accounted.plain
    refine ⟨output, errors, ?_, ?_⟩
    · rw [output, answers]
    · rw [output, prompts, accounted.becomes.length_eq]

theorem run_accounts_mixed :
    let lines := [Text.utf8 "1 + 2".toList, [0xff], Text.utf8 "1 + x".toList]
    let stream := Text.utf8 "1 + 2\r\n".toList ++ [0xff, 0x0a] ++
      Text.utf8 "1 + x\nQ \n3 + 4".toList
    let outcomes := [Outcome.answered "3".toList,
      .reported "Unreadable query: stream did not contain valid UTF-8".toList,
      .reported (Rejection.malformedOperand .whole "x".toList).message]
    let transcript := run {} stream
    Accounted {} stream lines outcomes ∧
      transcript.output = banner ++ '\n' :: prompt ++ "= 3\n".toList ++ prompt ++ prompt ++ prompt ∧
      transcript.records.filter (·.level = .error) =
        (outcomes.filterMap Outcome.message?).map (note .error) ∧
      answersIn transcript.output = ["3".toList] ∧ promptsIn transcript.output = 4 := by
  intro lines stream outcomes transcript
  have accounted : Accounted {} stream lines outcomes := by
    have hcut : Line.Cut stream (lines ++ [Text.utf8 "Q ".toList, Text.utf8 "3 + 4".toList]) :=
      Line.cut_eq_iff.1 (by decide +kernel)
    have hunreadable (t : Text) : t.utf8 ≠ [0xff] := by
      intro ht
      have hn : Text.ofUtf8? [0xff] = none := by decide +kernel
      rw [← ht, Text.ofUtf8?_utf8] at hn
      cases hn
    refine ⟨⟨_, hcut, ?_⟩, by decide +kernel, ?_⟩
    · intro line hq
      cases hq
      exact ⟨"Q ".toList, rfl, by decide⟩
    · exact .cons (.answered (by decide +kernel)) <| .cons (.unreadable hunreadable) <|
        .cons (.rejected (by decide +kernel)) .nil
  obtain ⟨lines', outcomes', -, unique, output, errors, answers, prompts⟩ := run_accounts {} stream
  obtain ⟨rfl, rfl⟩ := unique lines outcomes accounted
  refine ⟨accounted, ?_, errors, answers, prompts⟩
  rw [output]
  simp [outcomes, Outcome.output]

end Session
end FractionCalculator.Console
