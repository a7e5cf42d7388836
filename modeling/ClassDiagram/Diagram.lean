import ClassDiagram.Text.Blank
import ClassDiagram.Text.LetterCase

/-!
# Class diagrams

A diagram holds elements (classes, abstract classes, interfaces, enumerations), whose members are
kept as they were written, and relationships between elements, which are named by their ids.
-/

namespace ClassDiagram

open Text

inductive ElementKind where
  | classKind
  | interfaceKind
  | abstractKind
  | enumKind
  deriving DecidableEq, Repr

/-- The kinds of element whose instances are stored. -/
def ElementKind.isStored : ElementKind → Bool
  | .classKind | .abstractKind => true
  | .interfaceKind | .enumKind => false

def ElementKind.name : ElementKind → String
  | .classKind => "class"
  | .interfaceKind => "interface"
  | .abstractKind => "abstract"
  | .enumKind => "enum"

def ElementKind.all : List ElementKind :=
  [.classKind, .interfaceKind, .abstractKind, .enumKind]

structure Element where
  id : String
  className : String
  /-- Attribute declarations, or the constants of an enumeration. -/
  attributes : List String
  methods : List String
  kind : ElementKind
  deriving DecidableEq, Repr

inductive RelationshipKind where
  | association
  | aggregation
  | composition
  | inheritance
  | realization
  | dependency
  deriving DecidableEq, Repr

def RelationshipKind.name : RelationshipKind → String
  | .association => "association"
  | .aggregation => "aggregation"
  | .composition => "composition"
  | .inheritance => "inheritance"
  | .realization => "realization"
  | .dependency => "dependency"

def RelationshipKind.all : List RelationshipKind :=
  [.association, .aggregation, .composition, .inheritance, .realization, .dependency]

/-- The kind that a word stands for, in any casing. -/
def RelationshipKind.ofWord? (word : String) : Option RelationshipKind :=
  match lowercased word with
  | "association" => some .association
  | "aggregation" => some .aggregation
  | "composition" => some .composition
  | "inheritance" | "extends" => some .inheritance
  | "realization" | "implements" => some .realization
  | "dependency" => some .dependency
  | _ => none

/-- What a relationship of a kind does to the stored shape: link two tables, make one extend the
other, or nothing. -/
inductive RelationshipFamily where
  | structural
  | inheritance
  | nonStructural
  deriving DecidableEq, Repr

def RelationshipKind.family : RelationshipKind → RelationshipFamily
  | .association | .aggregation | .composition => .structural
  | .inheritance | .realization => .inheritance
  | .dependency => .nonStructural

structure Relationship where
  id : String
  sourceId : String
  targetId : String
  kind : RelationshipKind
  sourceCardinality : String
  targetCardinality : String
  deriving DecidableEq, Repr

structure Diagram where
  elements : List Element
  relationships : List Relationship
  deriving DecidableEq, Repr

/-- How many instances may stand at one end of a relationship. -/
inductive Cardinality where
  | one
  | zeroOrOne
  | many
  | oneOrMore
  deriving DecidableEq, Repr

def Cardinality.ofText? (text : String) : Option Cardinality :=
  match trimmed text with
  | "1" => some .one
  | "0..1" => some .zeroOrOne
  | "*" | "0..*" | "n" | "N" | "0..n" | "0..N" => some .many
  | "1..*" | "1..n" | "1..N" => some .oneOrMore
  | _ => none

/-- At most one instance stands at this end. -/
def Cardinality.isSingle : Cardinality → Bool
  | .one | .zeroOrOne => true
  | .many | .oneOrMore => false

def Cardinality.text : Cardinality → String
  | .one => "1"
  | .zeroOrOne => "0..1"
  | .many => "*"
  | .oneOrMore => "1..*"

end ClassDiagram
