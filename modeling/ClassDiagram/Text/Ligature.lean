import ClassDiagram.Text.CharWidth
import ClassDiagram.Text.Emoji

/-!
# Ligatures

Letters that are drawn as one sign take less room than the sum of their widths. A text is
measured from its end, so a ligature is recognized by its last letter and completed by the
letters found in front of it.
-/

namespace ClassDiagram.Text

/-- A ligature of which the last part is known. -/
inductive Ligature
  /-- An Arabic alef, which a lam joins. -/
  | alef
  /-- A Hebrew lamed, which an alef joins. -/
  | lamed
  /-- A Buginese ya, which the vowel i joins. -/
  | ya
  /-- The Buginese vowel i and ya, which the letter a joins. -/
  | vowelYa
  /-- An Old Turkic i, which a letter orkhon ash joins. -/
  | orkhonI
  /-- One of the two Lisu tones that a first tone letter joins. -/
  | tone
  /-- A Tifinagh consonant, which another one joins. -/
  | consonant
  /-- A Tifinagh joiner and consonant, which another consonant joins. -/
  | joinedConsonant
  /-- A Khmer letter that has a form below the line, which the coeng sign joins. -/
  | coengLetter
  /-- A Kirat Rai vowel e, which is the last part of the vowels ai, o and au. -/
  | vowelE
  /-- A Kirat Rai vowel ai, which is the last part of the vowel au. -/
  | vowelAi
  deriving DecidableEq, Repr

namespace Ligature

def alefIntervals : List (Nat × Nat) :=
  [
    (0x0622, 0x0623), (0x0625, 0x0625), (0x0627, 0x0627), (0x0671, 0x0673), (0x0675, 0x0675),
    (0x0773, 0x0774), (0x0870, 0x0882)]

def lamIntervals : List (Nat × Nat) :=
  [(0x0644, 0x0644), (0x06B5, 0x06B8), (0x076A, 0x076A), (0x08A6, 0x08A6), (0x08C7, 0x08C7)]

def consonantIntervals : List (Nat × Nat) :=
  [(0x2D31, 0x2D65), (0x2D6F, 0x2D6F)]

def coengLetterIntervals : List (Nat × Nat) :=
  [
    (0x1780, 0x1782), (0x1784, 0x1787), (0x1789, 0x178C), (0x178E, 0x1793), (0x1795, 0x1798),
    (0x179B, 0x179D), (0x17A0, 0x17A0), (0x17A2, 0x17A2), (0x17A7, 0x17A7), (0x17AB, 0x17AC),
    (0x17AF, 0x17AF)]

/-- The ligature that the letter can end. -/
def ofLast? (c : Char) : Option Ligature :=
  if inIntervals alefIntervals c.toNat then some alef
  else if c.toNat = 0x05DC then some lamed
  else if c.toNat = 0x1A10 then some ya
  else if c.toNat = 0x10C03 then some orkhonI
  else if inIntervals [(0xA4FC, 0xA4FD)] c.toNat then some tone
  else if inIntervals consonantIntervals c.toNat then some consonant
  else if inIntervals coengLetterIntervals c.toNat then some coengLetter
  else if c.toNat = 0x16D67 then some vowelE
  else if c.toNat = 0x16D68 then some vowelAi
  else none

/-- The characters without width that keep the Arabic letters around them apart. -/
def separatingIntervals : List (Nat × Nat) :=
  [
    (0x0605, 0x0605), (0x0890, 0x0891), (0x08E2, 0x08E2), (0x09BE, 0x09BE), (0x09D7, 0x09D7),
    (0x0B3E, 0x0B3E), (0x0B57, 0x0B57), (0x0BBE, 0x0BBE), (0x0BD7, 0x0BD7), (0x0CC0, 0x0CC0),
    (0x0CC2, 0x0CC2), (0x0CC7, 0x0CC8), (0x0CCA, 0x0CCB), (0x0CD5, 0x0CD6), (0x0D3E, 0x0D3E),
    (0x0D4E, 0x0D4E), (0x0D57, 0x0D57), (0x0DCF, 0x0DCF), (0x0DDF, 0x0DDF), (0x1160, 0x11FF),
    (0x1715, 0x1715), (0x1734, 0x1734), (0x180E, 0x180E), (0x1B35, 0x1B35), (0x1B3B, 0x1B3B),
    (0x1B3D, 0x1B3D), (0x1B43, 0x1B44), (0x1BAA, 0x1BAA), (0x1BF2, 0x1BF3), (0x200C, 0x200D),
    (0x2065, 0x2069), (0x302E, 0x302F), (0x3164, 0x3164), (0xA8FA, 0xA8FA), (0xA953, 0xA953),
    (0xA9C0, 0xA9C0), (0xD7B0, 0xD7C6), (0xD7CB, 0xD7FB), (0xFFA0, 0xFFA0), (0xFFF0, 0xFFF8),
    (0x111C0, 0x111C0), (0x111C2, 0x111C3), (0x11235, 0x11235), (0x1133E, 0x1133E),
    (0x1134D, 0x1134D), (0x11357, 0x11357), (0x113B8, 0x113B8), (0x113C2, 0x113C2),
    (0x113C5, 0x113C5), (0x113C7, 0x113C9), (0x113CF, 0x113CF), (0x113D1, 0x113D1),
    (0x114B0, 0x114B0), (0x114BD, 0x114BD), (0x115AF, 0x115AF), (0x116B6, 0x116B6),
    (0x11930, 0x11930), (0x1193D, 0x1193D), (0x1193F, 0x1193F), (0x11941, 0x11941),
    (0x11A84, 0x11A89), (0x11D46, 0x11D46), (0x11F02, 0x11F02), (0x11F41, 0x11F41),
    (0x16FF0, 0x16FF1), (0x1D165, 0x1D166), (0x1D16D, 0x1D172), (0xE0000, 0xE0000),
    (0xE0002, 0xE001F), (0xE0080, 0xE00FF), (0xE01F0, 0xE0FFF)]

/-- A mark that Arabic letters join across. -/
def isTransparent (c : Char) : Bool :=
  charWidth c == 0 && !inIntervals separatingIntervals c.toNat

/-- A mark that is ignored by default and so stands in no ligature's way. -/
def isIgnoredMark (c : Char) : Bool :=
  inIntervals
    [
      (0x034F, 0x034F), (0x17B4, 0x17B5), (0x180B, 0x180D), (0x180F, 0x180F), (0xFE00, 0xFE0F),
      (0xE0100, 0xE01EF)]
    c.toNat

/-- The columns that a character adds in front of the ligature, and what is then left for others
to join; nothing where it does not join. Some letters join only `linked` to the rest, by a
zero-width joiner. -/
def join? (linked : Bool) (c : Char) : Ligature → Option (Int × Option Ligature)
  | alef =>
    if inIntervals lamIntervals c.toNat then some (0, none)
    else if isTransparent c then some (0, some alef)
    else none
  | lamed => if linked && c.toNat = 0x05D0 then some (0, none) else none
  | ya => if linked && c.toNat = 0x1A17 then some (0, some vowelYa) else none
  | vowelYa => if c.toNat = 0x1A15 then some (0, none) else none
  | orkhonI => if linked && c.toNat = 0x10C32 then some (0, none) else none
  | tone => if inIntervals [(0xA4F8, 0xA4FB)] c.toNat then some (0, none) else none
  | consonant =>
    if c = tifinaghJoiner then some (1, some joinedConsonant)
    else if linked && inIntervals consonantIntervals c.toNat then some (0, none)
    else none
  | joinedConsonant =>
    if inIntervals consonantIntervals c.toNat then some (-1, none) else none
  | coengLetter => if c.toNat = 0x17D2 then some (-1, none) else none
  | vowelE =>
    if c.toNat = 0x16D63 || c.toNat = 0x16D69 then some (0, none)
    else if c.toNat = 0x16D67 then some (0, some vowelAi)
    else if c.toNat = 0x16D68 then some (1, some vowelE)
    else none
  | vowelAi => if c.toNat = 0x16D63 then some (0, none) else none

/-- Only Arabic letters are kept apart by a zero-width joiner. -/
def bearsJoiner : Ligature → Bool
  | alef => false
  | _ => true

end Ligature

end ClassDiagram.Text
