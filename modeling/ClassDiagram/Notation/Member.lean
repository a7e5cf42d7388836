import ClassDiagram.Declaration
import ClassDiagram.Notation.Reading

/-!
# Members of classes in the notation

Attributes (`total: Decimal?`) and methods (`add(item: Item): Boolean`), and the types in them.
-/

namespace ClassDiagram.Notation

/-- What may come next while a type is read: a name is due, a name or a part of one has just been
read, or the type arguments have just been closed. -/
inductive TypeState where
  | nameDue
  | named
  | closed
  deriving DecidableEq, Repr

/-- Reads `Name`, `java.util.Name` or `Name<Argument, …>` and gives its text with the spacing set
right. `depth` counts the angle brackets that are open. -/
def readType (state : TypeState) (depth : Nat) (text : String) : Reader String
  | [] =>
    match state, depth with
    | .nameDue, _ => failAfter "identifier" []
    | _, 0 => done text []
    | _, _ + 1 => failAfter "'>'" []
  | token :: rest =>
    match state, depth, token with
    | .nameDue, _, .identifier name => readType .named depth (text ++ name) rest
    | .nameDue, _, _ => failAfter "identifier" (token :: rest)
    | .named, _, .dot => readType .nameDue depth (text ++ ".") rest
    | .named, _, .less => readType .nameDue (depth + 1) (text ++ "<") rest
    | _, 0, _ => done text (token :: rest)
    | _, _ + 1, .comma => readType .nameDue depth (text ++ ", ") rest
    | _, outer + 1, .greater => readType .closed outer (text ++ ">") rest
    | _, _ + 1, _ => failAfter "'>'" (token :: rest)

theorem length_readType_le (state : TypeState) (depth : Nat) (text : String)
    (tokens : List Token) :
    (readType state depth text tokens).rest.length ≤ tokens.length := by
  induction tokens generalizing state depth text with
  | nil =>
    unfold readType
    split <;> simp [failAfter, done]
  | cons token rest ih =>
    unfold readType
    split
    all_goals first
      | exact Nat.le_succ_of_le (ih _ _ _)
      | simp [failAfter, done]

/-- A declaration inside a class. -/
inductive Member where
  | attribute (declared : Attribute)
  | method (declared : Method)
  deriving DecidableEq, Repr

def Member.attribute? : Member → Option Attribute
  | .attribute declared => some declared
  | .method _ => none

def Member.method? : Member → Option Method
  | .attribute _ => none
  | .method declared => some declared

/-- Whether a question mark follows, which is taken. -/
def readOptionalMark : Reader Bool
  | .question :: rest => done true rest
  | tokens => done false tokens

/-- The parameters up to the closing parenthesis; a comma may stand before it. -/
def readParameters : Reader (List Parameter)
  | .rightParen :: rest => done [] rest
  | .identifier name :: .colon :: rest =>
    let reading := readType .nameDue 0 "" rest
    match reading.outcome with
    | .error fault => { outcome := .error fault, rest := reading.rest }
    | .ok typeToken =>
      let parameter : Parameter := { name, typeToken }
      match hrest : reading.rest with
      | .comma :: others =>
        have hshorter : others.length < rest.length + 2 := by
          have hlength := length_readType_le .nameDue 0 "" rest
          rw [show (readType .nameDue 0 "" rest).rest = _ from hrest, List.length_cons] at hlength
          omega
        (readParameters others).map fun parameters => parameter :: parameters
      | .rightParen :: others => done [parameter] others
      | others => failAfter "')'" others
  | .identifier _ :: rest => failAfter "':'" rest
  | tokens => failAfter "identifier" tokens
termination_by tokens => tokens.length

/-- The type of the result, if a colon introduces one. -/
def readResult : Reader (Option String)
  | .colon :: rest => (readType .nameDue 0 "" rest).map some
  | tokens => done none tokens

def readMember : Reader Member
  | .identifier name :: .colon :: rest =>
    (readType .nameDue 0 "" rest).andThen fun typeToken tokens =>
      (readOptionalMark tokens).map fun optional => .attribute { name, typeToken, optional }
  | .identifier name :: .leftParen :: rest =>
    (readParameters rest).andThen fun parameters tokens =>
      (readResult tokens).map fun returnType => .method { name, parameters, returnType }
  | .identifier _ :: rest => failBefore "':' or '('" rest
  | tokens => failAfter "identifier" tokens

theorem shortens_readOptionalMark : Shortens readOptionalMark := by
  intro tokens
  unfold readOptionalMark
  split <;> simp [done]

theorem shortens_readResult : Shortens readResult := by
  intro tokens
  unfold readResult
  split
  · exact Nat.le_succ_of_le (length_readType_le _ _ _ _)
  · exact Nat.le_refl _

theorem shortens_readParameters : Shortens readParameters := by
  intro tokens
  fun_induction readParameters tokens with
  | case1 rest => exact Nat.le_succ _
  | case2 name rest reading fault _ =>
    exact Nat.le_trans (length_readType_le .nameDue 0 "" rest) (by simp; omega)
  | case3 name rest reading typeToken _ parameter others hrest hshorter ih =>
    simp only [Reading.length_rest_map, List.length_cons]
    omega
  | case4 name rest reading typeToken _ parameter others hrest =>
    have hlength := length_readType_le .nameDue 0 "" rest
    rw [show (readType .nameDue 0 "" rest).rest = _ from hrest, List.length_cons] at hlength
    simp only [done, List.length_cons]
    omega
  | case5 name rest reading typeToken _ parameter others =>
    refine Nat.le_trans (shortens_failAfter _ _) ?_
    exact Nat.le_trans (length_readType_le .nameDue 0 "" rest) (by simp; omega)
  | case6 name rest => exact Nat.le_succ_of_le (shortens_failAfter _ _)
  | case7 tokens => exact shortens_failAfter _ _

theorem advances_readMember : Advances readMember := by
  intro token rest
  unfold readMember
  split
  next hmember =>
    injection hmember with htoken hrest
    subst hrest
    exact Nat.le_succ_of_le (Reading.length_rest_andThen_le (length_readType_le _ _ _ _)
      fun _ tokens => shortens_readOptionalMark tokens)
  next hmember =>
    injection hmember with htoken hrest
    subst hrest
    exact Nat.le_succ_of_le (Reading.length_rest_andThen_le (shortens_readParameters _)
      fun _ tokens => shortens_readResult tokens)
  next hmember =>
    injection hmember with htoken hrest
    subst hrest
    exact Nat.le_refl _
  next => exact Nat.le_refl _

end ClassDiagram.Notation
