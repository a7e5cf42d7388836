import ClassDiagram.Identifier
import ClassDiagram.Text.Blank
import ClassDiagram.Text.Split

/-!
# Member declarations

The lines written inside a box of a class diagram: attributes (`- total: Decimal?`), methods
(`+ add(item: Item): Boolean`) and the constants of an enumeration. A declaration may open with
one of the visibility marks `+`, `-`, `#`, `~`, which has no further meaning.
-/

namespace ClassDiagram

open Text

structure Attribute where
  name : String
  typeToken : String
  /-- Declared with a trailing `?`. -/
  optional : Bool
  deriving DecidableEq, Repr

structure Parameter where
  name : String
  typeToken : String
  deriving DecidableEq, Repr

structure Method where
  name : String
  parameters : List Parameter
  returnType : Option String
  deriving DecidableEq, Repr

/-- An attribute as it is declared, without a visibility mark. -/
def Attribute.text (declared : Attribute) : String :=
  declared.name ++ ": " ++ declared.typeToken ++ if declared.optional then "?" else ""

def Parameter.text (parameter : Parameter) : String :=
  parameter.name ++ ": " ++ parameter.typeToken

/-- A method as it is declared, without a visibility mark. -/
def Method.text (declared : Method) : String :=
  declared.name ++ "(" ++ String.intercalate ", " (declared.parameters.map Parameter.text) ++ ")"
    ++ match declared.returnType with
      | some typeToken => ": " ++ typeToken
      | none => ""

/-- Why a declaration cannot be read. -/
inductive DeclarationFault where
  | missingColon
  | emptyName
  | emptyType
  | invalidName (name : String)
  | invalidType (typeToken : String)
  | missingParens
  deriving DecidableEq, Repr

def DeclarationFault.message : DeclarationFault → String
  | .missingColon => "missing ':' between name and type"
  | .emptyName => "empty name"
  | .emptyType => "empty type"
  | .invalidName name => "invalid name `" ++ name ++ "`"
  | .invalidType typeToken => "invalid type `" ++ typeToken ++ "`"
  | .missingParens => "missing parameter list"

def isVisibilityMark (c : Char) : Bool :=
  c == '+' || c == '-' || c == '#' || c == '~'

/-- The declaration without the blanks around it and without its visibility mark. -/
def declarationBody (text : String) : List Char :=
  match trim text.toList with
  | [] => []
  | c :: rest => if isVisibilityMark c then trimStart rest else c :: rest

def isTypeChar (c : Char) : Bool :=
  c == '[' || c == ']' || c == '.' || c == ',' || c == ' ' || continuesIdentifier c

/-- Angle brackets are closed in order and all other characters may stand in a type. -/
def isBracketed (depth : Nat) : List Char → Bool
  | [] => depth == 0
  | c :: rest =>
    if c = '<' then isBracketed (depth + 1) rest
    else if c = '>' then
      match depth with
      | 0 => false
      | outer + 1 => isBracketed outer rest
    else isTypeChar c && isBracketed depth rest

/-- Type tokens may carry type arguments and array brackets (`List<Long>`, `byte[]`). -/
def isTypeExpression (token : List Char) : Bool :=
  isBracketed 0 token && token.head?.any fun c => isAlphabetic c || c == '_'

def readName (text : List Char) : Except DeclarationFault String :=
  let name := trim text
  if name.isEmpty then .error .emptyName
  else if isIdentifier name then .ok (String.ofList name)
  else .error (.invalidName (String.ofList name))

def readTypeToken (token : List Char) : Except DeclarationFault String :=
  if token.isEmpty then .error .emptyType
  else if isTypeExpression token then .ok (String.ofList token)
  else .error (.invalidType (String.ofList token))

/-- The name before the first colon and the untested type text after it, which is not empty. -/
def readTypedName (text : List Char) : Except DeclarationFault (String × List Char) :=
  match splitFirst ':' text with
  | none => .error .missingColon
  | some (before, after) => do
    let name ← readName before
    let token := trim after
    if token.isEmpty then .error .emptyType else .ok (name, token)

/-- A type text without its final question mark, and whether there was one. -/
def splitOptional (token : List Char) : List Char × Bool :=
  if token.getLast? = some '?' then (trimEnd token.dropLast, true) else (token, false)

/-- Reads `[visibility] name: Type[?]`. -/
def Attribute.read (text : String) : Except DeclarationFault Attribute := do
  let (name, written) ← readTypedName (declarationBody text)
  let (token, optional) := splitOptional written
  let typeToken ← readTypeToken token
  return { name, typeToken, optional }

/-- Reads an enumeration constant; anything from a first colon on is left out. -/
def readConstant (text : String) : Except DeclarationFault String :=
  readName ((declarationBody text).takeWhile fun c => c != ':')

/-- Cuts a parameter list at the commas that stand outside angle brackets. -/
def splitParameters (depth : Int) (current : List Char) : List Char → List (List Char)
  | [] => [current]
  | c :: rest =>
    if c = '<' then splitParameters (depth + 1) (current ++ [c]) rest
    else if c = '>' then splitParameters (depth - 1) (current ++ [c]) rest
    else if c = ',' ∧ depth = 0 then current :: splitParameters depth [] rest
    else splitParameters depth (current ++ [c]) rest

def Parameter.read (text : List Char) : Except DeclarationFault Parameter := do
  let (name, token) ← readTypedName text
  let typeToken ← readTypeToken token
  return { name, typeToken }

def readParameters (text : List Char) : Except DeclarationFault (List Parameter) :=
  let inner := trim text
  if inner.isEmpty then .ok [] else (splitParameters 0 [] inner).mapM Parameter.read

/-- What follows the parameter list: nothing, or a colon and the type of the result. -/
def readReturnType (text : List Char) : Except DeclarationFault (Option String) :=
  match trim text with
  | [] => .ok none
  | c :: rest => if c = ':' then some <$> readTypeToken (trim rest) else .error .missingColon

/-- Reads `[visibility] name(parameter: Type, …)[: Type]`. The parameter list extends from the
first opening parenthesis to the last closing one. -/
def Method.read (text : String) : Except DeclarationFault Method :=
  match splitFirst '(' (declarationBody text) with
  | none => .error .missingParens
  | some (before, afterOpen) =>
    match splitLast ')' afterOpen with
    | none => .error .missingParens
    | some (inner, after) => do
      let name ← readName before
      let parameters ← readParameters inner
      let returnType ← readReturnType after
      return { name, parameters, returnType }

end ClassDiagram
