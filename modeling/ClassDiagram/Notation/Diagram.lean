import ClassDiagram.Notation.Member
import ClassDiagram.Notation.Relationship

/-!
# Diagrams in the notation

A text holds classes, interfaces, enumerations and blocks of relationships, in any order. The ids
of elements are their names.
-/

namespace ClassDiagram.Notation

def readClass (kind : ElementKind) : Reader Element := fun tokens =>
  (readIdentifier tokens).andThen fun name tokens =>
  (readOpeningBrace tokens).andThen fun _ tokens =>
  (readBlock (fun _ => readMember) (fun _ => advances_readMember) 0 tokens).map fun members =>
    { id := name
      className := name
      attributes := (members.filterMap Member.attribute?).map Attribute.text
      methods := (members.filterMap Member.method?).map Method.text
      kind }

def readEnum : Reader Element := fun tokens =>
  (readIdentifier tokens).andThen fun name tokens =>
  (readOpeningBrace tokens).andThen fun _ tokens =>
  (readBlock (fun _ => readIdentifier) (fun _ => advances_readIdentifier) 0 tokens).map
    fun constants =>
      { id := name, className := name, attributes := constants, methods := [], kind := .enumKind }

/-- The words that open an entry of a diagram. -/
inductive Keyword where
  | classWord
  | abstractWord
  | interfaceWord
  | enumWord
  | relWord
  deriving DecidableEq, Repr

def Keyword.ofToken? : Token → Option Keyword
  | .identifier "class" => some .classWord
  | .identifier "abstract" => some .abstractWord
  | .identifier "interface" => some .interfaceWord
  | .identifier "enum" => some .enumWord
  | .identifier "rel" => some .relWord
  | _ => none

/-- The word `class` may follow `abstract`. -/
def dropClassWord : List Token → List Token
  | [] => []
  | token :: rest =>
    if Keyword.ofToken? token = some .classWord then rest else token :: rest

/-- One element, or the relationships of one block. -/
inductive Entry where
  | element (element : Element)
  | relationships (relationships : List Relationship)

/-- Reads the entry behind a keyword, when `count` relationships have been read before. -/
def readEntry (count : Nat) : Keyword → Reader Entry
  | .classWord, tokens => (readClass .classKind tokens).map .element
  | .abstractWord, tokens => (readClass .abstractKind (dropClassWord tokens)).map .element
  | .interfaceWord, tokens => (readClass .interfaceKind tokens).map .element
  | .enumWord, tokens => (readEnum tokens).map .element
  | .relWord, tokens =>
    (readOpeningBrace tokens).andThen fun _ tokens =>
      (readBlock readRelationship advances_readRelationship count tokens).map .relationships

theorem shortens_readClass (kind : ElementKind) : Shortens (readClass kind) := by
  intro tokens
  refine Reading.length_rest_andThen_le (shortens_readIdentifier tokens) fun _ tokens => ?_
  refine Reading.length_rest_andThen_le (shortens_expectToken _ _ tokens) fun _ tokens => ?_
  exact shortens_readBlock _ _ _ tokens

theorem shortens_readEnum : Shortens readEnum := by
  intro tokens
  refine Reading.length_rest_andThen_le (shortens_readIdentifier tokens) fun _ tokens => ?_
  refine Reading.length_rest_andThen_le (shortens_expectToken _ _ tokens) fun _ tokens => ?_
  exact shortens_readBlock _ _ _ tokens

theorem length_dropClassWord_le (tokens : List Token) :
    (dropClassWord tokens).length ≤ tokens.length := by
  cases tokens with
  | nil => exact Nat.le_refl _
  | cons token rest =>
    simp only [dropClassWord]
    split <;> simp

theorem shortens_readEntry (count : Nat) (keyword : Keyword) :
    Shortens (readEntry count keyword) := by
  intro tokens
  cases keyword with
  | classWord => exact shortens_readClass _ tokens
  | abstractWord =>
    exact Nat.le_trans (shortens_readClass _ _) (length_dropClassWord_le tokens)
  | interfaceWord => exact shortens_readClass _ tokens
  | enumWord => exact shortens_readEnum tokens
  | relWord =>
    refine Reading.length_rest_andThen_le (shortens_expectToken _ _ tokens) fun _ tokens => ?_
    exact shortens_readBlock _ _ _ tokens

def addEntry (diagram : Diagram) : Entry → Diagram
  | .element element => { diagram with elements := diagram.elements ++ [element] }
  | .relationships relationships =>
    { diagram with relationships := diagram.relationships ++ relationships }

/-- Reads entries to the end of the tokens, behind what has been read so far. -/
def readEntries (soFar : Diagram) : Reader Diagram
  | [] => done soFar []
  | token :: rest =>
    match Keyword.ofToken? token with
    | none => failBefore "class, abstract, interface, enum, or rel" (token :: rest)
    | some keyword =>
      let count := soFar.relationships.length
      match (readEntry count keyword rest).outcome with
      | .error fault => { outcome := .error fault, rest := (readEntry count keyword rest).rest }
      | .ok entry => readEntries (addEntry soFar entry) (readEntry count keyword rest).rest
termination_by tokens => tokens.length
decreasing_by
  exact Nat.lt_succ_of_le (shortens_readEntry _ _ _)

def readDiagram : Reader Diagram :=
  readEntries { elements := [], relationships := [] }

/-- Reads a diagram, then again from where the reading stopped, and so on. -/
def readRepeatedly : Nat → List Token → List (Except NotationFault Diagram)
  | 0, _ => []
  | times + 1, tokens =>
    let reading := readDiagram tokens
    reading.outcome :: readRepeatedly times reading.rest

end ClassDiagram.Notation

namespace ClassDiagram

open Notation

/-- The diagram that a text in the notation describes. -/
def Diagram.ofNotation (text : String) : Except NotationFault Diagram :=
  match tokens text with
  | .error fault => .error (.lexical fault)
  | .ok tokens => (readDiagram tokens).outcome

end ClassDiagram
