import FractionCalculator.Proofs.Unbroken

/-!
# Levels of the log

The argument of the console program names a level, and the level decides which
records are shown and nothing else. A log has one line for each record shown, and
each line shows the level of its record, so the log at one level can be read off
the log at the most verbose one. An argument that names no level ends the program
before its session starts.
-/

namespace FractionCalculator

namespace Log

def Record.shown (r : Record) : Text :=
  '[' :: r.level.name.rightpad 5 ' ' ++ ' ' :: r.origin.name ++ "] ".toList ++ r.message

theorem Record.line_eq (r : Record) : r.line = r.shown ++ ['\n'] :=
  rfl

theorem Record.lineFeed_not_mem_shown {r : Record} (h : '\n' ∉ r.message) : '\n' ∉ r.shown := by
  have hl : '\n' ∉ '[' :: r.level.name.rightpad 5 ' ' := by cases r.level <;> decide
  have ho : '\n' ∉ ' ' :: r.origin.name := by cases r.origin <;> decide
  have hb : '\n' ∉ "] ".toList := by decide
  unfold Record.shown
  simp only [List.mem_append, not_or]
  exact ⟨⟨⟨hl, ho⟩, hb⟩, h⟩

def linesIn (log : Text) : List Text :=
  (log.splitOn '\n').dropLast

theorem linesIn_flatMap_line {records : List Record} (h : ∀ r ∈ records, '\n' ∉ r.message) :
    linesIn (records.flatMap (·.line)) = records.map Record.shown := by
  induction records with
  | nil => simp [linesIn]
  | cons r rest ih =>
    obtain ⟨hr, hrest⟩ := List.forall_mem_cons.1 h
    have hl : (r :: rest).flatMap (·.line) = r.shown ++ '\n' :: rest.flatMap (·.line) := by
      rw [List.flatMap_cons, Record.line_eq, List.append_assoc]
      rfl
    rw [hl, linesIn, List.splitOn_append_cons_self_of_not_mem (Record.lineFeed_not_mem_shown hr),
      List.dropLast_cons_of_ne_nil (List.splitOn_ne_nil _ _), List.map_cons]
    exact congrArg _ (ih hrest)

def levels : List Level :=
  [.error, .warn, .info, .debug, .trace]

def levelIn? (line : Text) : Option Level :=
  levels.find? fun level => ('[' :: level.name.rightpad 5 ' ').isPrefixOf line

theorem levelIn?_shown (r : Record) : levelIn? r.shown = some r.level := by
  obtain ⟨level, target, origin, message⟩ := r
  cases level <;> rfl

theorem filter_map_shown (v : Verbosity) (records : List Record) :
    (records.map Record.shown).filter (fun line => (levelIn? line).any v.admits) =
      (admitted v records).map Record.shown := by
  rw [List.filter_map, admitted]
  congr 1
  refine List.filter_congr fun r _ => ?_
  change (levelIn? r.shown).any v.admits = v.admits r.level
  rw [levelIn?_shown, Option.any_some]

theorem admitted_trace (records : List Record) : admitted (.upTo .trace) records = records := by
  refine List.filter_eq_self.2 fun r _ => ?_
  cases r.level <;> rfl

/-! ## Names of levels -/

def SameLetters (s t : Text) : Prop :=
  s.map Char.toLower = t.map Char.toLower

def levelNames : List Text :=
  ["off", "error", "warn", "info", "debug", "trace", "fatal"].map String.toList

/-- An argument is a name, or a name and one underscore at its end. -/
def Names (argument name : Text) : Prop :=
  ∃ body, (argument = body ++ ['_'] ∨ argument.getLast? ≠ some '_' ∧ argument = body) ∧
    SameLetters body name

theorem names_iff {argument name : Text} :
    Names argument name ↔ SameLetters (Verbosity.dropUnderscore argument) name := by
  unfold Verbosity.dropUnderscore
  constructor
  · rintro ⟨body, rfl | ⟨hl, rfl⟩, hs⟩
    · simpa using hs
    · rwa [if_neg hl]
  · intro h
    split at h
    · next hl =>
      obtain ⟨body, rfl⟩ := List.getLast?_eq_some_iff.1 hl
      exact ⟨body, Or.inl rfl, by simpa using h⟩
    · next hl => exact ⟨argument, Or.inr ⟨hl, rfl⟩, h⟩

theorem Verbosity.parse?_eq_none_iff {argument : Text} :
    parse? argument = none ↔ ∀ name ∈ levelNames, ¬Names argument name := by
  -- The names are in lower case, so it is enough to bring the argument to lower case.
  have hn : levelNames = names.map (·.1) := by decide
  have hlower : ∀ name ∈ levelNames, name.map Char.toLower = name := by decide
  rw [parse?, List.lookup_eq_none_iff]
  constructor
  · intro h name hm hs
    rw [names_iff, SameLetters, hlower name hm] at hs
    rw [hn] at hm
    obtain ⟨p, hp, rfl⟩ := List.mem_map.1 hm
    simpa [hs] using h p hp
  · intro h p hp
    have hm : p.1 ∈ levelNames := by
      rw [hn]
      exact List.mem_map_of_mem hp
    have hs := h p.1 hm
    rw [names_iff, SameLetters, hlower p.1 hm] at hs
    simpa using hs

end Log

namespace Console

open Log

/-- The program takes one argument at most, the name of a level. -/
def Refused (arguments : List Text) : Prop :=
  1 < arguments.length ∨
    ∃ argument, arguments = [argument] ∧ ∀ name ∈ levelNames, ¬Names argument name

theorem refused_iff {arguments : List Text} :
    Refused arguments ↔ ∃ e, verbosity arguments = .error e := by
  rcases arguments with _ | ⟨argument, _ | ⟨second, rest⟩⟩
  · simp [Refused, verbosity]
  · simp only [Refused, verbosity, List.length_singleton, lt_irrefl, false_or, List.cons.injEq,
      and_true, exists_eq_left', ← Verbosity.parse?_eq_none_iff]
    cases Verbosity.parse? argument with
    | none => simp
    | some v => simp
  · simp [Refused, verbosity]

namespace Program

theorem run_of_ok {arguments : List Text} {v : Verbosity} (h : verbosity arguments = .ok v)
    (stream : List UInt8) :
    run arguments stream = ⟨0, (Session.run calculator stream).output,
      write v (records v (Session.run calculator stream))⟩ := by
  rw [run, h]

theorem run_of_error {arguments : List Text} {e : ArgumentError} (h : verbosity arguments = .error e)
    (stream : List UInt8) : run arguments stream = ⟨1, [], e.report⟩ := by
  rw [run, h]

/-- Only the first record depends on the level, and it is shown at one level alone. -/
theorem admitted_records (v : Verbosity) (session : Transcript) :
    admitted v (records v session) = admitted v (records (.upTo .trace) session) := by
  rcases v with _ | level
  · rfl
  · cases level <;> rfl

theorem linesIn_write (v : Verbosity) (stream : List UInt8) :
    linesIn (write v (records v (Session.run calculator stream))) =
      (admitted v (records (.upTo .trace) (Session.run calculator stream))).map Record.shown := by
  rw [write, linesIn_flatMap_line, admitted_records]
  intro r hr
  exact lineFeed_not_mem_records v stream r (List.mem_of_mem_filter hr)

/-- Arguments that name levels lead to the same output, and to logs that are parts of one log, a
line for each record. All other arguments end the program at once. -/
theorem run_filters (stream : List UInt8) :
    (∀ (arguments others : List Text) (v w : Verbosity),
      verbosity arguments = .ok v → verbosity others = .ok w →
      let exit := run arguments stream
      let other := run others stream
      exit.code = 0 ∧ exit.output = other.output ∧
      (w = .upTo .trace → linesIn exit.errors =
        (linesIn other.errors).filter fun line => (levelIn? line).any v.admits) ∧
      exit.errors =
        (admitted v (records v (Session.run calculator stream))).flatMap (·.line) ∧
      ∀ r ∈ records v (Session.run calculator stream),
        r.line = r.shown ++ ['\n'] ∧ '\n' ∉ r.shown) ∧
    ∀ arguments : List Text, (Refused arguments ↔ ∃ e, verbosity arguments = .error e) ∧
      (Refused arguments →
        (run arguments stream).code = 1 ∧ (run arguments stream).output = []) := by
  constructor
  · intro arguments others v w hv hw exit other
    have he := run_of_ok hv stream
    have ho := run_of_ok hw stream
    refine ⟨congrArg Exit.code he, ?_, ?_, congrArg Exit.errors he, ?_⟩
    · exact (congrArg Exit.output he).trans (congrArg Exit.output ho).symm
    · intro htrace
      subst htrace
      change linesIn (run arguments stream).errors = (linesIn (run others stream).errors).filter _
      rw [he, ho, linesIn_write, linesIn_write, filter_map_shown, admitted_trace]
    · intro r hr
      exact ⟨r.line_eq, Record.lineFeed_not_mem_shown (lineFeed_not_mem_records v stream r hr)⟩
  · intro arguments
    refine ⟨refused_iff, fun h => ?_⟩
    obtain ⟨e, he⟩ := refused_iff.1 h
    rw [run_of_error he]
    exact ⟨rfl, rfl⟩

theorem run_filters_info :
    let stream := Text.utf8 "1/0 + \"a\\n\r\n1 + 2\nQ".toList
    let exit := run ["info_".toList] stream
    let full := run ["Trace".toList] stream
    verbosity ["info_".toList] = .ok (.upTo .info) ∧
      verbosity ["Trace".toList] = .ok (.upTo .trace) ∧
      exit.code = 0 ∧ exit.output = full.output ∧
      linesIn exit.errors =
        (linesIn full.errors).filter (fun line => (levelIn? line).any (Verbosity.upTo .info).admits) ∧
      Refused ["loud".toList] ∧ (run ["loud".toList] stream).code = 1 := by
  intro stream exit full
  have hv : verbosity ["info_".toList] = .ok (.upTo .info) := by decide
  have hw : verbosity ["Trace".toList] = .ok (.upTo .trace) := by decide
  obtain ⟨hrun, hstop⟩ := run_filters stream
  obtain ⟨hcode, hout, hlog, -⟩ := hrun _ _ _ _ hv hw
  have hr : Refused ["loud".toList] := (hstop _).1.2 ⟨_, rfl⟩
  exact ⟨hv, hw, hcode, hout, hlog rfl, hr, ((hstop _).2 hr).1⟩

end Program
end Console
end FractionCalculator
