import ClassDiagram.Notation.Lexeme

/-!
# Readings

A reader takes tokens from the front of a list. It answers with a result or a fault, and in both
cases with the tokens that it left, so that reading can be taken up again behind a fault. No reader
of this notation leaves more than it was given (`Shortens`); those of whole items take at least one
token (`Advances`), which is why blocks of items come to an end.
-/

namespace ClassDiagram.Notation

inductive NotationFault where
  | lexical (fault : LexicalFault)
  /-- Something else was expected than the token that stands here, or the end of the text. -/
  | unexpected (found : Option Token) (expected : String)
  | unknownKind (word : String)
  deriving DecidableEq, Repr

def NotationFault.message : NotationFault → String
  | .lexical fault => "Lex error: " ++ fault.message
  | .unexpected found expected => "Unexpected token: " ++ shown found ++ ", expected " ++ expected
  | .unknownKind word => "Unknown relationship kind: " ++ word

structure Reading (α : Type) where
  outcome : Except NotationFault α
  rest : List Token

abbrev Reader (α : Type) := List Token → Reading α

def Reading.andThen {α β : Type} (reading : Reading α) (next : α → Reader β) : Reading β :=
  match reading.outcome with
  | .ok value => next value reading.rest
  | .error fault => { outcome := .error fault, rest := reading.rest }

def Reading.map {α β : Type} (f : α → β) (reading : Reading α) : Reading β :=
  { outcome := f <$> reading.outcome, rest := reading.rest }

def done {α : Type} (value : α) : Reader α := fun tokens =>
  { outcome := .ok value, rest := tokens }

/-- Fails at the next token and leaves it where it is. -/
def failBefore {α : Type} (expected : String) : Reader α := fun tokens =>
  { outcome := .error (.unexpected tokens.head? expected), rest := tokens }

/-- Fails at the next token and takes it away. -/
def failAfter {α : Type} (expected : String) : Reader α := fun tokens =>
  { outcome := .error (.unexpected tokens.head? expected), rest := tokens.tail }

def readIdentifier : Reader String
  | .identifier name :: rest => done name rest
  | tokens => failAfter "identifier" tokens

def expectToken (token : Token) (expected : String) : Reader Unit
  | [] => failAfter expected []
  | first :: rest =>
    if first = token then done () rest else failAfter expected (first :: rest)

/-- The reader leaves no more than it was given. -/
def Shortens {α : Type} (reader : Reader α) : Prop :=
  ∀ tokens, (reader tokens).rest.length ≤ tokens.length

/-- The reader takes at least one token, if there is one. -/
def Advances {α : Type} (reader : Reader α) : Prop :=
  ∀ token rest, (reader (token :: rest)).rest.length ≤ rest.length

theorem shortens_failAfter {α : Type} (expected : String) :
    Shortens (failAfter expected : Reader α) := fun tokens => by
  simp [failAfter]

theorem advances_readIdentifier : Advances readIdentifier := by
  intro token rest
  cases token <;> exact Nat.le_refl _

theorem shortens_readIdentifier : Shortens readIdentifier := by
  intro tokens
  cases tokens with
  | nil => exact Nat.le_refl _
  | cons token rest => exact Nat.le_succ_of_le (advances_readIdentifier token rest)

theorem shortens_expectToken (token : Token) (expected : String) :
    Shortens (expectToken token expected) := by
  intro tokens
  cases tokens with
  | nil => exact Nat.le_refl _
  | cons first rest =>
    simp only [expectToken]
    split <;> simp [done, failAfter]

theorem Reading.length_rest_map {α β : Type} (f : α → β) (reading : Reading α) :
    (reading.map f).rest.length = reading.rest.length := rfl

theorem Reading.length_rest_andThen_le {α β : Type} {reading : Reading α}
    {next : α → Reader β} {bound : Nat} (hreading : reading.rest.length ≤ bound)
    (hnext : ∀ value, Shortens (next value)) :
    (reading.andThen next).rest.length ≤ bound := by
  unfold Reading.andThen
  split
  · exact Nat.le_trans (hnext _ _) hreading
  · exact hreading

def isSeparator (token : Token) : Bool :=
  token == .comma || token == .semicolon

def dropSeparators (tokens : List Token) : List Token :=
  tokens.dropWhile isSeparator

theorem length_dropSeparators_le (tokens : List Token) :
    (dropSeparators tokens).length ≤ tokens.length :=
  (List.dropWhile_sublist isSeparator).length_le

/-- Reads items up to the closing brace. Commas and semicolons may stand before, between and
behind them. Items are counted from `count` on. -/
def readBlock {α : Type} (item : Nat → Reader α) (hitem : ∀ count, Advances (item count))
    (count : Nat) (tokens : List Token) : Reading (List α) :=
  match hdropped : dropSeparators tokens with
  | [] => failAfter "identifier" []
  | .rightBrace :: rest => done [] rest
  | token :: rest =>
    let reading := item count (token :: rest)
    match reading.outcome with
    | .error fault => { outcome := .error fault, rest := reading.rest }
    | .ok value =>
      have hshorter : reading.rest.length < tokens.length := by
        have hlength := length_dropSeparators_le tokens
        have hadvance : reading.rest.length ≤ rest.length := hitem count token rest
        rw [hdropped, List.length_cons] at hlength
        omega
      (readBlock item hitem (count + 1) reading.rest).map fun values => value :: values
termination_by tokens.length

theorem shortens_readBlock {α : Type} (item : Nat → Reader α)
    (hitem : ∀ count, Advances (item count)) (count : Nat) :
    Shortens (readBlock item hitem count) := by
  intro tokens
  fun_induction readBlock item hitem count tokens with
  | case1 => simp [failAfter]
  | case2 count tokens rest hdropped =>
    have hlength := length_dropSeparators_le tokens
    rw [hdropped, List.length_cons] at hlength
    simp only [done]
    omega
  | case3 count tokens token rest _ hdropped reading fault _ =>
    have hlength := length_dropSeparators_le tokens
    have hadvance : reading.rest.length ≤ rest.length := hitem count token rest
    rw [hdropped, List.length_cons] at hlength
    simp only
    omega
  | case4 count tokens token rest _ hdropped reading value _ hshorter ih =>
    simp only [Reading.length_rest_map]
    omega

def readOpeningBrace : Reader Unit := expectToken .leftBrace "'\x7b'"

end ClassDiagram.Notation
