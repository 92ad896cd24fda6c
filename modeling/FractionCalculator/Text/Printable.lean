import FractionCalculator.Text.Blank
import FractionCalculator.Text.Unassigned
import FractionCalculator.Text.GraphemeExtend

/-!
# Printable characters

A character is printable if it shows as itself wherever it stands: it is no
control (category Cc), format character (Cf) or separator, it is assigned for
interchange (neither Co nor Cn), it is no invisible filler of Hangul, and it does
not join the character before it. The space is the one printable separator. The
halfwidth sound marks of kana, though grapheme extenders, have a place of their
own and are printable.
-/

namespace FractionCalculator.Text

def control : CodePoints :=
  [(0x0000, 0x001f), (0x007f, 0x009f)]

def format : CodePoints :=
  [(0x00ad, 0x00ad), (0x0600, 0x0605), (0x061c, 0x061c), (0x06dd, 0x06dd), (0x070f, 0x070f),
    (0x0890, 0x0891), (0x08e2, 0x08e2), (0x180e, 0x180e), (0x200b, 0x200f), (0x202a, 0x202e),
    (0x2060, 0x2064), (0x2066, 0x206f), (0xfeff, 0xfeff), (0xfff9, 0xfffb), (0x110bd, 0x110bd),
    (0x110cd, 0x110cd), (0x13430, 0x1343f), (0x1bca0, 0x1bca3), (0x1d173, 0x1d17a),
    (0xe0001, 0xe0001), (0xe0020, 0xe007f)]

def privateUse : CodePoints :=
  [(0xe000, 0xf8ff), (0xf0000, 0xffffd), (0x100000, 0x10fffd)]

def separator : CodePoints :=
  [(0x00a0, 0x00a0), (0x1680, 0x1680), (0x2000, 0x200a), (0x2028, 0x2029), (0x202f, 0x202f),
    (0x205f, 0x205f), (0x3000, 0x3000)]

def filler : CodePoints :=
  [(0x115f, 0x1160), (0x3164, 0x3164), (0xffa0, 0xffa0)]

def unprintable : CodePoints :=
  control ++ separator ++ format ++ privateUse ++ filler ++ graphemeExtend ++ unassigned

def halfwidthSoundMark : CodePoints :=
  [(0xff9e, 0xff9f)]

def isPrintable (c : Char) : Bool :=
  !unprintable.contains c || halfwidthSoundMark.contains c

end FractionCalculator.Text
