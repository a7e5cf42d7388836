import ClassDiagram.Text.LetterCase
import ClassDiagram.Text.Numeric

/-!
# Words of a name

A name such as `HTTPServer_id` is cut into words (`HTTP`, `Server`, `id`), which are then joined
again in one of four styles. Whatever is neither a letter nor a numeral separates words. Inside a
run of letters and numerals a word ends where a lower-case letter is followed by an upper-case
one, and before the last of several upper-case letters when a lower-case one follows.
-/

namespace ClassDiagram.Text

/-- The case of the last cased letter of the word so far. -/
inductive WordMode where
  | uncased
  | lower
  | upper
  deriving DecidableEq, Repr

def WordMode.after (mode : WordMode) (c : Char) : WordMode :=
  if isLowercase c then .lower else if isUppercase c then .upper else mode

/-- Where a word ends near a character, seen with the mode before it and the one that follows. -/
inductive WordBreak where
  | afterIt
  | beforeIt
  | nowhere
  deriving DecidableEq, Repr

def wordBreak (mode : WordMode) (c : Char) : Option Char → WordBreak
  | none => .nowhere
  | some next =>
    if mode.after c = .lower ∧ isUppercase next then .afterIt
    else if mode = .upper ∧ isUppercase c ∧ isLowercase next then .beforeIt
    else .nowhere

/-- The word gathered so far, unless it is empty. -/
def finishedWord (word : List Char) : List (List Char) :=
  if word.isEmpty then [] else [word]

def wordsFrom (mode : WordMode) (word : List Char) : List Char → List (List Char)
  | [] => finishedWord word
  | c :: rest =>
    if isAlphanumeric c then
      match wordBreak mode c rest.head? with
      | .afterIt => (word ++ [c]) :: wordsFrom .uncased [] rest
      | .beforeIt => word :: wordsFrom .uncased [c] rest
      | .nowhere => wordsFrom (mode.after c) (word ++ [c]) rest
    else finishedWord word ++ wordsFrom .uncased [] rest

def words (text : List Char) : List (List Char) :=
  wordsFrom .uncased [] text

/-- A word in lower case; a sigma at its end takes the final form. -/
def lowerWord : List Char → List Char
  | [] => []
  | [c] => if c = 'Σ' then ['ς'] else lowercase c
  | c :: rest => lowercase c ++ lowerWord rest

/-- A word with its first letter in upper case and the others in lower case. -/
def titleWord : List Char → List Char
  | [] => []
  | c :: rest => uppercase c ++ lowerWord rest

/-- Lower-case words joined by `_`. -/
def snakeCase (text : String) : String :=
  String.ofList (List.intercalate ['_'] ((words text.toList).map lowerWord))

/-- Lower-case words joined by `-`. -/
def kebabCase (text : String) : String :=
  String.ofList (List.intercalate ['-'] ((words text.toList).map lowerWord))

/-- Words put together, each with a capital. -/
def upperCamelCase (text : String) : String :=
  String.ofList ((words text.toList).flatMap titleWord)

/-- Words put together, all but the first with a capital. -/
def lowerCamelCase (text : String) : String :=
  match words text.toList with
  | [] => ""
  | first :: others => String.ofList (lowerWord first ++ others.flatMap titleWord)

/-- The text with its first character in upper case and the others left alone. -/
def capitalized (text : String) : String :=
  match text.toList with
  | [] => ""
  | c :: rest => String.ofList (uppercase c ++ rest)

end ClassDiagram.Text
