import FractionCalculator.Console.Line
import Mathlib.Data.List.Basic

/-!
# Lines of a stream

A line ends at a line feed, which takes one carriage return before it away, or at
the end of the stream, if any bytes are left there. Cutting a stream gives its
lines in order, and each stream has one way to be cut. A stream that goes on where
another stopped between two lines adds its own lines to those of the other.
-/

namespace FractionCalculator.Console.Line

/-- A stream and its lines. -/
inductive Cut : List UInt8 → List (List UInt8) → Prop where
  | done : Cut [] []
  | rest {bytes : List UInt8} (hne : bytes ≠ []) (h : lineFeed ∉ bytes) : Cut bytes [bytes]
  | fed {bytes stream : List UInt8} {lines : List (List UInt8)} (h : lineFeed ∉ bytes)
    (hr : bytes.getLast? ≠ some carriageReturn) (hs : Cut stream lines) :
    Cut (bytes ++ lineFeed :: stream) (bytes :: lines)
  | returned {bytes stream : List UInt8} {lines : List (List UInt8)} (h : lineFeed ∉ bytes)
    (hs : Cut stream lines) :
    Cut (bytes ++ carriageReturn :: lineFeed :: stream) (bytes :: lines)

variable {bytes stream : List UInt8} {lines : List (List UInt8)}

theorem cut_of_not_mem (h : lineFeed ∉ bytes) (hne : bytes ≠ []) : cut bytes = [bytes] := by
  simp [cut, List.splitOn_eq_singleton h, hne]

theorem cut_append_lineFeed (h : lineFeed ∉ bytes) (stream : List UInt8) :
    cut (bytes ++ lineFeed :: stream) = dropReturn bytes :: cut stream := by
  have hne := List.splitOn_ne_nil lineFeed stream
  rw [cut, List.splitOn_append_cons_self_of_not_mem h]
  rw [List.dropLast_cons_of_ne_nil hne, List.getLast?_cons_of_ne_nil hne]
  rfl

theorem dropReturn_of_ne (h : bytes.getLast? ≠ some carriageReturn) : dropReturn bytes = bytes :=
  if_neg h

theorem dropReturn_append_carriageReturn (bytes : List UInt8) :
    dropReturn (bytes ++ [carriageReturn]) = bytes := by
  simp [dropReturn]

theorem Cut.of_lineFeed (h : lineFeed ∉ bytes) (hs : Cut stream lines) :
    Cut (bytes ++ lineFeed :: stream) (dropReturn bytes :: lines) := by
  by_cases hr : bytes.getLast? = some carriageReturn
  · obtain ⟨front, rfl⟩ := List.getLast?_eq_some_iff.1 hr
    rw [dropReturn_append_carriageReturn, List.append_assoc]
    exact .returned (fun hm => h (List.mem_append_left _ hm)) hs
  · rw [dropReturn_of_ne hr]
    exact .fed h hr hs

theorem cut_spec (stream : List UInt8) : Cut stream (cut stream) := by
  by_cases h : lineFeed ∈ stream
  · obtain ⟨bytes, rest, hs, hn⟩ := List.eq_append_cons_of_mem h
    rw [hs, cut_append_lineFeed hn]
    exact .of_lineFeed hn (cut_spec rest)
  · by_cases hne : stream = []
    · rw [hne]
      exact .done
    · rw [cut_of_not_mem h hne]
      exact .rest hne h
termination_by stream.length
decreasing_by
  rw [hs, List.length_append, List.length_cons]
  omega

/-- Cutting is the function of the relation between streams and lines. -/
theorem cut_eq_iff : cut stream = lines ↔ Cut stream lines := by
  constructor
  · rintro rfl
    exact cut_spec stream
  · intro h
    induction h with
    | done => rfl
    | rest hne h => exact cut_of_not_mem h hne
    | fed h hr _ ih => rw [cut_append_lineFeed h, dropReturn_of_ne hr, ih]
    | @returned bytes stream lines h _ ih =>
      have hn : lineFeed ∉ bytes ++ [carriageReturn] := by
        rw [List.mem_append, not_or]
        exact ⟨h, by decide⟩
      have hb : bytes ++ carriageReturn :: lineFeed :: stream =
          bytes ++ [carriageReturn] ++ lineFeed :: stream := by simp
      rw [hb, cut_append_lineFeed hn, dropReturn_append_carriageReturn, ih]

def Ended (stream : List UInt8) : Prop :=
  stream = [] ∨ stream.getLast? = some lineFeed

instance (stream : List UInt8) : Decidable (Ended stream) :=
  inferInstanceAs (Decidable (_ ∨ _))

theorem Ended.of_append (bytes : List UInt8) (h : Ended (bytes ++ stream)) : Ended stream := by
  by_cases hs : stream = []
  · exact Or.inl hs
  · rcases h with h | h
    · exact absurd (List.append_eq_nil_iff.1 h).2 hs
    · right
      rwa [List.getLast?_append_of_ne_nil bytes hs] at h

theorem Cut.append {more : List UInt8} {others : List (List UInt8)} (h : Cut stream lines)
    (he : Ended stream) (hm : Cut more others) : Cut (stream ++ more) (lines ++ others) := by
  -- Only a last line without a line feed could run on into the second stream.
  induction h with
  | done => exact hm
  | rest hne h =>
    rcases he with he | he
    · exact absurd he hne
    · exact absurd (List.mem_of_getLast? he) h
  | @fed bytes stream lines h hr _ ih =>
    have hs : Ended stream := Ended.of_append (bytes ++ [lineFeed]) (by simpa using he)
    simpa only [List.append_assoc, List.cons_append] using Cut.fed h hr (ih hs)
  | @returned bytes stream lines h _ ih =>
    have hs : Ended stream :=
      Ended.of_append (bytes ++ [carriageReturn, lineFeed]) (by simpa using he)
    simpa only [List.append_assoc, List.cons_append] using Cut.returned h (ih hs)

theorem cut_append {more : List UInt8} (he : Ended stream) :
    cut (stream ++ more) = cut stream ++ cut more :=
  cut_eq_iff.2 ((cut_spec stream).append he (cut_spec more))

theorem read_append {more : List UInt8} (he : Ended stream) :
    read (stream ++ more) = read stream ++ read more := by
  rw [read, cut_append he, List.map_append, read, read]

end FractionCalculator.Console.Line
