/-!
# Text

Text is a list of code points. Lengths count code points, scanners recurse on
the list and hand back what they did not read, and strings appear only where
text enters or leaves the program.
-/

namespace FractionCalculator

abbrev Text := List Char

abbrev CodePoints := List (Nat × Nat)

def CodePoints.contains (set : CodePoints) (c : Char) : Bool :=
  set.any fun range => range.1 ≤ c.toNat && c.toNat ≤ range.2

def Text.utf8 (t : Text) : List UInt8 :=
  t.flatMap String.utf8EncodeChar

def Text.ofUtf8? (bytes : List UInt8) : Option Text :=
  (String.fromUTF8? ⟨bytes.toArray⟩).map String.toList

@[simp] theorem Text.ofUtf8?_utf8 (t : Text) : Text.ofUtf8? t.utf8 = some t := by
  have bytes : (⟨t.utf8.toArray⟩ : ByteArray) = (String.ofList t).toByteArray := by
    simp [Text.utf8, ByteArray.ext_iff, String.toByteArray_ofList, List.utf8Encode]
  have read : String.fromUTF8? (String.ofList t).toByteArray = some (String.ofList t) :=
    dif_pos (String.ofList t).isValidUTF8
  rw [Text.ofUtf8?, bytes, read, Option.map_some, String.toList_ofList]

theorem Text.utf8_of_ofUtf8? {bytes : List UInt8} {t : Text} (h : Text.ofUtf8? bytes = some t) :
    t.utf8 = bytes := by
  obtain ⟨s, hs, rfl⟩ := Option.map_eq_some_iff.1 h
  rw [String.fromUTF8?] at hs
  split at hs
  · have hb : s.toByteArray = ⟨bytes.toArray⟩ := by
      rw [← Option.some.inj hs]
      rfl
    have hl : s.toByteArray = s.toList.utf8Encode := by
      rw [← String.toByteArray_ofList, String.ofList_toList]
    have he := congrArg (fun b : ByteArray => b.data.toList) (hl.symm.trans hb)
    simpa [Text.utf8, List.utf8Encode] using he
  · cases hs

end FractionCalculator
