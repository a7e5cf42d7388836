import ClassDiagram.Json.Token

/-!
# Values of JSON texts

The value at the beginning of a text is kept as far as it can be read. At most one place in it is
broken, and nothing follows that place: the containers around it end with its defect. So what is
wrong with the parts in front can still be told first.
-/

namespace ClassDiagram.Json

inductive Value where
  | null
  | boolean (value : Bool)
  | number (numeral : Numeral)
  | text (content : Except Defect String) (ending : Option Defect)
  | list (items : List Value) (ending : Option Defect)
  /-- Members with their keys; a key that is no text ends the object. -/
  | object (members : List (Value × Value)) (ending : Option Defect)
  | fragment (wanted skipped : Defect)
  /-- No value starts at the place where one is due. -/
  | missing (defect : Defect)

/-- The defect inside a value that is passed over. -/
def Value.ending? : Value → Option Defect
  | .null | .boolean _ | .number _ => none
  | .text _ ending | .list _ ending | .object _ ending => ending
  | .fragment _ skipped => some skipped
  | .missing defect => some defect

/-- A token that is a value by itself. -/
def Token.value? : Token → Option Value
  | .null => some .null
  | .boolean value => some (.boolean value)
  | .number numeral => some (.number numeral)
  | .text content ending => some (.text content ending)
  | .fragment wanted skipped => some (.fragment wanted skipped)
  | _ => none

/-- What a token shows of the value that starts with it. -/
def Token.start : Token → Value
  | .openList => .list [] (some .malformed)
  | .openObject => .object [] (some .malformed)
  | token => token.value?.getD (.missing .malformed)

/-- A container in which a value is due, with what comes before that value, the latest first. -/
inductive Frame where
  | list (items : List Value)
  | member (members : List (Value × Value)) (key : Value)

/-- The container with the value, where reading ends. -/
def Frame.stopped (defect : Option Defect) (value : Value) : Frame → Value
  | .list items => .list (value :: items).reverse defect
  | .member members key => .object ((key, value) :: members).reverse defect

/-- All containers around a broken value. -/
def brokenIn (defect : Defect) : Value → List Frame → Value :=
  List.foldl (Frame.stopped (some defect))

/-- What is due next, inside of some containers, the innermost first. -/
inductive Stage where
  | valueDue (frames : List Frame)
  /-- The first item of a list, or its end. -/
  | firstItemDue (frames : List Frame)
  /-- A key, or the end of the object if there is no member yet. -/
  | keyDue (members : List (Value × Value)) (afterComma : Bool) (frames : List Frame)
  | colonDue (members : List (Value × Value)) (key : Value) (frames : List Frame)
  /-- A comma, or the end of the container. -/
  | endDue (value : Value) (frame : Frame) (frames : List Frame)
  | finished (value : Value)

/-- The stage behind a whole value. -/
def Stage.behind (value : Value) : List Frame → Stage
  | [] => .finished value
  | frame :: frames => .endDue value frame frames

/-- The stage behind a value that may be broken. -/
def Stage.afterScalar (value : Value) (frames : List Frame) : Stage :=
  match value.ending? with
  | none => .behind value frames
  | some defect => .finished (brokenIn defect value frames)

def Stage.ofValueToken (token : Token) (frames : List Frame) : Stage :=
  match token with
  | .openList => .firstItemDue frames
  | .openObject => .keyDue [] false frames
  | token => .afterScalar token.start frames

/-- An object that ends at a key. -/
def Stage.ofBrokenKey (members : List (Value × Value)) (key : Value) (defect : Defect)
    (frames : List Frame) : Stage :=
  let frame := Frame.member members key
  .finished (brokenIn defect (.missing defect) (frame :: frames))

def Stage.ofKeyToken (members : List (Value × Value)) (token : Token) (frames : List Frame) :
    Stage :=
  match token with
  | .text content none => .colonDue members (.text content none) frames
  | .text content (some defect) => .ofBrokenKey members (.text content (some defect)) defect frames
  | token => .ofBrokenKey members token.start .malformed frames

def Stage.next (token : Token) : Stage → Stage
  | .valueDue frames => .ofValueToken token frames
  | .firstItemDue frames =>
    match token with
    | .closeList => .behind (.list [] none) frames
    | token => .ofValueToken token (.list [] :: frames)
  | .keyDue members afterComma frames =>
    match token, afterComma with
    | .closeObject, false => .behind (.object members none) frames
    | token, _ => .ofKeyToken members token frames
  | .colonDue members key frames =>
    match token with
    | .colon => .valueDue (.member members key :: frames)
    | _ => .ofBrokenKey members key .malformed frames
  | .endDue value frame frames =>
    match token, frame with
    | .comma, .list items => .valueDue (.list (value :: items) :: frames)
    | .comma, .member members key => .keyDue ((key, value) :: members) true frames
    | .closeList, .list _ | .closeObject, .member .. => .behind (frame.stopped none value) frames
    | _, _ => .finished (brokenIn .malformed value (frame :: frames))
  | .finished value => .finished value

/-- The value of a text that ends at a stage. -/
def Stage.atEnd : Stage → Value
  | .valueDue frames => brokenIn .endOfText (.missing .endOfText) frames
  | .firstItemDue frames => brokenIn .endOfText (.list [] (some .endOfText)) frames
  | .keyDue members _ frames =>
    brokenIn .endOfText (.missing .endOfText)
      (.member members (.missing .endOfText) :: frames)
  | .colonDue members key frames =>
    brokenIn .endOfText (.missing .endOfText) (.member members key :: frames)
  | .endDue value frame frames => brokenIn .endOfText value (frame :: frames)
  | .finished value => value

/-- The value that a reading gives from a stage on, and the tokens behind it. -/
def readFrom (stage : Stage) (text : List Token) : Value × List Token :=
  match stage, text with
  | .finished value, rest => (value, rest)
  | stage, [] => (stage.atEnd, [])
  | stage, token :: rest => readFrom (stage.next token) rest

def readValue (text : List Token) : Value × List Token :=
  readFrom (.valueDue []) text

end ClassDiagram.Json
