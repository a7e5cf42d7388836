import ClassDiagram.Text.Ligature

/-!
# Display width

The number of columns that a text takes when it is shown in a fixed-width font. It is the sum of
the widths of the characters, except where some of them are shown as one: a carriage return and a
line feed, a ligature, a character and its selector, or a sequence of emoji.

A text is measured from its end. What is measured keeps, beside its width, how it starts: this is
all that decides how many columns the character in front of it adds.
-/

namespace ClassDiagram.Text

/-- A character that chooses the look of the character before it. -/
inductive Selector
  | text
  | emoji
  | fullwidth
  deriving DecidableEq, Repr

def Selector.ofChar? (c : Char) : Option Selector :=
  if c = '\ufe0e' then some .text
  else if c = '\ufe0f' then some .emoji
  else if c = '\ufe01' then some .fullwidth
  else none

/-- The fullwidth selector widens the curved quotation marks only. -/
def isCurvedQuote (c : Char) : Bool :=
  c = '\u2018' || c = '\u2019' || c = '\u201c' || c = '\u201d'

/-- The columns that a character takes together with the selector behind it, if it heeds that
selector. -/
def Selector.width? (c : Char) : Selector → Option Nat
  | .text => if acceptsTextStyle c then some 1 else none
  | .emoji => if acceptsEmojiStyle c then some 2 else none
  | .fullwidth => if isCurvedQuote c then some 2 else none

/-- The part of an emoji that stands in front of a joiner and another emoji. -/
inductive PartialEmoji
  /-- Nothing but the joiner. -/
  | joiner
  /-- The frame of a key. -/
  | keycap
  /-- The given number of regional indicators. -/
  | regional (count : Nat)
  /-- The end of a sequence of tags, with the given number of letters. -/
  | tagLetters (count : Nat)
  /-- The end of a sequence of tags, which starts with the given number of digits. -/
  | tagDigits (count : Nat)
  deriving DecidableEq, Repr

/-- How a text starts, as far as the character in front of it can join it. -/
inductive Opening
  | plain
  | lineFeed
  | emoji
  | skinTone
  /-- One regional indicator or `several`. -/
  | regional (several : Bool)
  | partialEmoji (part : PartialEmoji)
  /-- The last part of a ligature, with a zero-width joiner in front of it if it is `linked`. -/
  | ligature (ligature : Ligature) (linked : Bool)
  deriving DecidableEq, Repr

def Opening.ofChar (c : Char) : Opening :=
  if c = '\n' then .lineFeed
  else if isSkinTone c then .skinTone
  else if isRegionalIndicator c then .regional false
  else if isEmoji c then .emoji
  else (Ligature.ofLast? c).elim .plain (.ligature · false)

def PartialEmoji.keepsSelector : PartialEmoji → Bool
  | .joiner | .keycap => true
  | _ => false

/-- What is left of an opening behind a selector: a ligature is formed across it, and an emoji
that a joiner follows can have the emoji selector. -/
def Opening.behind (selector : Selector) : Opening → Opening
  | .ligature l linked => .ligature l linked
  | .partialEmoji part =>
    if selector = .emoji && part.keepsSelector then .partialEmoji part else .plain
  | _ => .plain

/-- What is left of an opening behind a selector that nothing heeds. -/
def Opening.unselected : Opening → Opening
  | .ligature l linked => .ligature l linked
  | _ => .plain

/-- The columns that a character adds in front of a part of an emoji, and the opening that results,
if the character continues or completes the emoji. Regional indicators are paired from the first
one on, so the pairs change with each indicator that is found in front of them. -/
def PartialEmoji.join? (c : Char) : PartialEmoji → Option (Int × Opening)
  | .joiner =>
    if c = enclosingKeycap then some (0, .partialEmoji .keycap)
    else if isRegionalIndicator c then some (1, .partialEmoji (.regional 1))
    else if isSkinTone c then some (0, .skinTone)
    else if isCancelTag c then some (0, .partialEmoji (.tagLetters 0))
    else if isEmoji c then some (0, .emoji)
    else none
  | .keycap => none
  | .regional count =>
    if isRegionalIndicator c then
      some (if count % 2 = 1 then -1 else 3, .partialEmoji (.regional (count + 1)))
    else if c = zeroWidthJoiner && 2 ≤ count then some (0, .partialEmoji .joiner)
    else none
  | .tagLetters count =>
    if isTagLetter c && count < 6 then some (0, .partialEmoji (.tagLetters (count + 1)))
    else if isTagDigit c && count < 5 then some (0, .partialEmoji (.tagDigits 1))
    else if c = blackFlag && 3 ≤ count then some (0, .emoji)
    else none
  | .tagDigits count =>
    if isTagDigit c && count < 3 then some (0, .partialEmoji (.tagDigits (count + 1)))
    else if c = blackFlag && count = 3 then some (0, .emoji)
    else none

def Ligature.open? (linked : Bool) (c : Char) (l : Ligature) : Option (Int × Opening) :=
  if l.bearsJoiner && c = zeroWidthJoiner then some (0, .ligature l true)
  else if l.bearsJoiner && isIgnoredMark c then some (0, .ligature l linked)
  else (l.join? linked c).map fun joined =>
    (joined.1, joined.2.elim .plain (.ligature · false))

/-- The columns that a character adds in front of an opening, and the opening that results, if the
two are shown as one. -/
def Opening.join? (c : Char) : Opening → Option (Int × Opening)
  | .plain => none
  | .lineFeed => if c = '\r' then some (0, .plain) else none
  | .emoji => if c = zeroWidthJoiner then some (0, .partialEmoji .joiner) else none
  | .skinTone =>
    if hasSkin c then some (0, .emoji)
    else if c = zeroWidthJoiner then some (0, .partialEmoji .joiner)
    else none
  | .regional several =>
    if isRegionalIndicator c then some (1, .regional true)
    else if several && c = zeroWidthJoiner then some (0, .partialEmoji .joiner)
    else none
  | .partialEmoji part => part.join? c
  | .ligature l linked => l.open? linked c

/-- The measured end of a text. -/
structure Measured where
  width : Nat
  /-- The selector that the text starts with. -/
  selector : Option Selector
  opening : Opening
  deriving DecidableEq, Repr

namespace Measured

def empty : Measured :=
  ⟨0, none, .plain⟩

/-- The opening, for a character that does not heed the selector. -/
def start (rest : Measured) : Opening :=
  if rest.selector.isSome then rest.opening.unselected else rest.opening

/-- The character and the selector behind it as one. Where they are part of an emoji with more
behind it, that emoji has been counted. -/
def styled? (c : Char) (rest : Measured) : Option Measured :=
  rest.selector.bind fun selector =>
    (selector.width? c).map fun width =>
      match selector, rest.opening with
      | .emoji, .partialEmoji _ => ⟨rest.width, none, .emoji⟩
      | .emoji, _ => ⟨rest.width + width, none, .emoji⟩
      | _, _ => ⟨rest.width + width, none, .plain⟩

/-- The measure of a text from the measure of what stands behind its first character. -/
def precede (c : Char) (rest : Measured) : Measured :=
  match Selector.ofChar? c with
  | some selector => ⟨rest.width, some selector, rest.start.behind selector⟩
  | none =>
    match rest.styled? c, rest.start.join? c with
    | some whole, _ => whole
    | none, some (added, opening) => ⟨(rest.width + added).toNat, none, opening⟩
    | none, none => ⟨rest.width + charWidth c, none, .ofChar c⟩

def ofChars (chars : List Char) : Measured :=
  chars.foldr precede empty

@[simp]
theorem ofChars_nil : ofChars [] = empty :=
  rfl

/-- All that is measured follows from what a single character adds in front. -/
@[simp]
theorem ofChars_cons (c : Char) (rest : List Char) :
    ofChars (c :: rest) = precede c (ofChars rest) :=
  rfl

end Measured

def width (text : String) : Nat :=
  (Measured.ofChars text.toList).width

end ClassDiagram.Text
