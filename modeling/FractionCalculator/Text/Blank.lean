import FractionCalculator.Text

/-!
# Blanks

Trimming takes the Unicode property White_Space: the ASCII blanks, the next
line, the no-break space, the Ogham space, the typographic spaces, the two
separators and the ideographic space. The zero-width characters are no blanks.
-/

namespace FractionCalculator.Text

def whiteSpace : CodePoints :=
  [(0x09, 0x0d), (0x20, 0x20), (0x85, 0x85), (0xa0, 0xa0), (0x1680, 0x1680), (0x2000, 0x200a),
   (0x2028, 0x2029), (0x202f, 0x202f), (0x205f, 0x205f), (0x3000, 0x3000)]

def isBlank (c : Char) : Bool :=
  whiteSpace.contains c

def trimStart (t : Text) : Text :=
  t.dropWhile isBlank

def trimEnd (t : Text) : Text :=
  (t.reverse.dropWhile isBlank).reverse

def trim (t : Text) : Text :=
  trimEnd (trimStart t)

theorem trimStart_eq_self {c : Char} {t : Text} (h : isBlank c = false) :
    trimStart (c :: t) = c :: t := by
  simp [trimStart, h]

theorem trimEnd_append_singleton {c : Char} (t : Text) (h : isBlank c = false) :
    trimEnd (t ++ [c]) = t ++ [c] := by
  simp [trimEnd, h]

end FractionCalculator.Text
