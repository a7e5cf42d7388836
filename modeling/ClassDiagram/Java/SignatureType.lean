import ClassDiagram.Java.Backend
import ClassDiagram.Declaration

/-!
# Types in method signatures

A type token of a method declaration becomes a Java type: words of the vocabulary, enumerations
and entities get their Java names, type arguments are treated alike, and any other word is left as
it is.
-/

namespace ClassDiagram

open Text

/-- A Java type as it is written, and what must be imported to use it. -/
structure WrittenType where
  text : String
  imports : List String
  deriving DecidableEq, Repr

/-- The generic types that are imported when they are used. -/
def collectionTypes : List String :=
  ["List", "Set", "Map", "Optional", "Collection"]

/-- The type of a token without type arguments. -/
def Backend.wordType (backend : Backend) (word : String) : WrittenType :=
  if word = "void" then { text := word, imports := [] }
  else if backend.isEnum word then { text := word, imports := [backend.qualified "enums" word] }
  else
    match typing? word with
    | some typing => { text := typing.javaType, imports := backend.importsOf typing.javaType }
    | none =>
      match backend.entity? (tableName word) with
      | some entity =>
        if entity.table.isJoin then { text := word, imports := [] }
        else
          { text := entity.typeName, imports := [backend.qualified "entity" entity.typeName] }
      | none => { text := word, imports := [] }

/-- A text without the closing bracket at its end, if there is one. -/
def dropClosing (text : List Char) : List Char :=
  if text.getLast? = some '>' then text.dropLast else text

theorem length_dropClosing_le (text : List Char) : (dropClosing text).length ≤ text.length := by
  unfold dropClosing
  split <;> simp

theorem length_trim_le (text : List Char) : (trim text).length ≤ text.length := by
  unfold trim trimEnd trimStart
  rw [List.length_reverse]
  refine Nat.le_trans (List.dropWhile_sublist isBlank).length_le ?_
  rw [List.length_reverse]
  exact (List.dropWhile_sublist isBlank).length_le

theorem length_le_of_mem_splitParameters {depth : Int} {current text part : List Char}
    (hpart : part ∈ splitParameters depth current text) :
    part.length ≤ current.length + text.length := by
  induction text generalizing depth current with
  | nil =>
    simp only [splitParameters, List.mem_singleton] at hpart
    simp [hpart]
  | cons c rest ih =>
    unfold splitParameters at hpart
    split at hpart
    · have hlength := ih hpart
      simp only [List.length_append, List.length_cons, List.length_nil] at hlength ⊢
      omega
    · split at hpart
      · have hlength := ih hpart
        simp only [List.length_append, List.length_cons, List.length_nil] at hlength ⊢
        omega
      · split at hpart
        · rcases List.mem_cons.1 hpart with rfl | hpart
          · omega
          · have hlength := ih hpart
            simp only [List.length_cons, List.length_nil] at hlength ⊢
            omega
        · have hlength := ih hpart
          simp only [List.length_append, List.length_cons, List.length_nil] at hlength ⊢
          omega

/-- The Java type for a type token. Type arguments stand behind the first opening bracket, and the
bracket that closes them is the last character. -/
def Backend.signatureType (backend : Backend) (token : List Char) : WrittenType :=
  match hsplit : splitFirst '<' (trim token) with
  | none => backend.wordType (String.ofList (trim token))
  | some (before, after) =>
    let outer := String.ofList (trim before)
    let arguments := (splitParameters 0 [] (dropClosing after)).attach.map fun ⟨part, hmem⟩ =>
      have hshorter : part.length < token.length := by
        have htoken := length_trim_le token
        rw [splitFirst_eq_some hsplit, List.length_append, List.length_cons] at htoken
        have hafter := length_dropClosing_le after
        have hpart := length_le_of_mem_splitParameters hmem
        simp only [List.length_nil] at hpart
        omega
      backend.signatureType part
    { text := outer ++ "<" ++ String.intercalate ", " (arguments.map WrittenType.text) ++ ">"
      imports := arguments.flatMap WrittenType.imports
        ++ if collectionTypes.contains outer then ["java.util." ++ outer] else [] }
termination_by token.length
decreasing_by exact hshorter

end ClassDiagram
