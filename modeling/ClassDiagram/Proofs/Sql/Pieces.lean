import ClassDiagram.Proofs.Derivation.ColumnTypes
import ClassDiagram.Proofs.Sql.Script
import ClassDiagram.Proofs.Text.Words

/-!
# Pieces of a PostgreSQL script

Every piece of a script can be told from what stands behind it: a name ends at the first mark, the
blanks that align the types at the first character of the type, and each of the marks of a column
begins with a letter of its own. If two texts begin with pieces of one kind, the pieces are
therefore the same, and so are the rests.
-/

namespace ClassDiagram

open Text Notation

/-! ## Names -/

section Marks

variable {mark : Char} {left right rest others : List Char}

theorem append_mark_inj (hleft : mark ∉ left) (hright : mark ∉ right)
    (heq : left ++ mark :: rest = right ++ mark :: others) : left = right ∧ rest = others := by
  have hsplit := congrArg (splitFirst mark) heq
  rwa [splitFirst_append_cons hleft, splitFirst_append_cons hright, Option.some.injEq,
    Prod.mk.injEq] at hsplit

theorem replicate_append_inj (hleft : left.head? ≠ some mark) (hright : right.head? ≠ some mark)
    {few many : Nat} (heq : List.replicate few mark ++ left = List.replicate many mark ++ right) :
    left = right := by
  induction few generalizing many with
  | zero =>
    cases many with
    | zero => exact heq
    | succ more =>
      rw [List.replicate_succ, List.replicate_zero, List.nil_append] at heq
      exact absurd (congrArg List.head? heq) hleft
  | succ fewer ih =>
    cases many with
    | zero =>
      rw [List.replicate_succ, List.replicate_zero, List.nil_append] at heq
      exact absurd (congrArg List.head? heq).symm hright
    | succ more =>
      rw [List.replicate_succ, List.replicate_succ, List.cons_append, List.cons_append,
        List.cons.injEq] at heq
      exact ih heq.2

end Marks

theorem Text.IsPlain.not_mem {name : String} (hplain : IsPlain name) {mark : Char}
    (hends : endsWord mark = true) : mark ∉ name.toList := by
  intro hmem
  cases hends.symm.trans (hplain mark hmem)

/-- A name as it stands in a script. -/
def quoted (name : String) : List Char :=
  (Dialect.postgresql.quote name).toList

theorem quoted_eq (name : String) : quoted name =
    if isReserved name then '"' :: name.toList ++ ['"'] else name.toList := by
  rw [quoted, Dialect.quote]
  split <;> simp

section Quoted

variable {left right : String} (hleft : IsPlain left) (hright : IsPlain right)

include hleft

theorem mark_not_mem_quoted {mark : Char} (hends : endsWord mark = true) (hquote : mark ≠ '"') :
    mark ∉ quoted left := by
  have hname := hleft.not_mem hends
  rw [quoted_eq]
  split <;> simp [hname, hquote]

include hright

theorem quoted_inj (heq : quoted left = quoted right) : left = right := by
  have hends : endsWord '"' = true := by decide
  rw [quoted_eq, quoted_eq] at heq
  split at heq <;> split at heq
  · rw [List.cons_append, List.cons_append, List.cons.injEq, List.append_left_inj] at heq
    exact String.toList_inj.1 heq.2
  · exact absurd (heq ▸ List.mem_cons_self) (hright.not_mem hends)
  · exact absurd (heq ▸ List.mem_cons_self) (hleft.not_mem hends)
  · exact String.toList_inj.1 heq

theorem quoted_append_inj {mark : Char} (hends : endsWord mark = true) (hquote : mark ≠ '"')
    {rest others : List Char} (heq : quoted left ++ mark :: rest = quoted right ++ mark :: others) :
    left = right ∧ rest = others := by
  obtain ⟨hsame, hrest⟩ := append_mark_inj (mark_not_mem_quoted hleft hends hquote)
    (mark_not_mem_quoted hright hends hquote) heq
  exact ⟨quoted_inj hleft hright hsame, hrest⟩

end Quoted

/-! ## Types and marks -/

/-- What is left of the longer piece, if the other one is its beginning, has an unfit character at
the given place. -/
def ToldApart (place : Nat) (unfit : Char → Bool) (left right : List Char) : Prop :=
  left <+: right → left = right ∨ ((right.drop left.length)[place]?).any unfit = true

instance (place : Nat) (unfit : Char → Bool) (left right : List Char) :
    Decidable (ToldApart place unfit left right) :=
  inferInstanceAs (Decidable (_ → _))

/-- Pieces that can be told apart end at the same place if fit characters stand behind them. -/
theorem append_inj_of_toldApart {place : Nat} {unfit : Char → Bool}
    {left right rest others : List Char} (hleft : ToldApart place unfit left right)
    (hright : ToldApart place unfit right left) (hrest : ∀ c ∈ rest[place]?, unfit c = false)
    (hothers : ∀ c ∈ others[place]?, unfit c = false) (heq : left ++ rest = right ++ others) :
    left = right ∧ rest = others := by
  -- the longer piece would go on with the beginning of what stands behind the shorter one
  have hlonger : ∀ {short long after behind : List Char}, ToldApart place unfit short long →
      (∀ c ∈ after[place]?, unfit c = false) → ∀ more, long = short ++ more →
        after = more ++ behind → short = long := by
    intro short long after behind hapart hfit more hlong hafter
    apply (hapart ⟨more, hlong.symm⟩).resolve_right
    rw [hlong, List.drop_left, Option.any_eq_true]
    rintro ⟨c, hc, hunfit⟩
    obtain ⟨hplace, -⟩ := List.getElem?_eq_some_iff.1 hc
    have hbehind : c ∈ after[place]? := by
      rwa [hafter, List.getElem?_append_left hplace]
    cases hunfit.symm.trans (hfit c hbehind)
  have hsame : left = right := by
    rcases List.append_eq_append_iff.1 heq with ⟨more, hlong, hafter⟩ | ⟨more, hlong, hafter⟩
    · exact hlonger hleft hrest more hlong hafter
    · exact (hlonger hright hothers more hlong hafter).symm
  subst hsame
  exact ⟨rfl, List.append_cancel_left heq⟩

/-- A column type as it stands in a script. -/
def postgresType (sqlType : String) : List Char :=
  (if sqlType = "TIMESTAMP WITH TIME ZONE" then "TIMESTAMPTZ" else sqlType).toList

/-- Where one type begins with another it goes on with a capital letter. -/
theorem toldApart_postgresType : ∀ left ∈ sqlTypes, ∀ right ∈ sqlTypes,
    ToldApart 0 Char.isUpper (postgresType left) (postgresType right) := by
  decide +kernel

theorem postgresType_inj : ∀ left ∈ sqlTypes, ∀ right ∈ sqlTypes,
    postgresType left = postgresType right → left = right := by
  decide +kernel

theorem any_head?_postgresType : ∀ sqlType ∈ sqlTypes,
    ((postgresType sqlType).head?.any fun c => c != ' ') = true := by
  decide +kernel

/-- The number of spaces in front of a type does not matter. -/
theorem postgresType_append_inj {left right : String} (hleft : left ∈ sqlTypes)
    (hright : right ∈ sqlTypes) {few many : Nat} {rest others : List Char}
    (hrest : ∀ c ∈ rest.head?, c.isUpper = false)
    (hothers : ∀ c ∈ others.head?, c.isUpper = false)
    (heq : List.replicate few ' ' ++ (postgresType left ++ rest) =
      List.replicate many ' ' ++ (postgresType right ++ others)) :
    left = right ∧ rest = others := by
  have hvisible : ∀ sqlType ∈ sqlTypes, ∀ rest : List Char,
      (postgresType sqlType ++ rest).head? ≠ some ' ' := by
    intro sqlType htype rest hspace
    obtain ⟨c, hc, hvisible⟩ := (Option.any_eq_true _ _).1 (any_head?_postgresType sqlType htype)
    rw [List.head?_append, hc, Option.some_or, Option.some.injEq] at hspace
    exact bne_iff_ne.1 hvisible hspace
  have htypes := replicate_append_inj (hvisible left hleft rest) (hvisible right hright others) heq
  rw [List.head?_eq_getElem?] at hrest hothers
  obtain ⟨hsame, hrests⟩ := append_inj_of_toldApart
    (toldApart_postgresType left hleft right hright)
    (toldApart_postgresType right hright left hleft) hrest hothers htypes
  exact ⟨postgresType_inj left hleft right hright hsame, hrests⟩

/-- The marks that follow the type of a column. -/
structure Marks where
  identity : Bool
  key : Bool
  required : Bool
  unique : Bool
  deriving DecidableEq, Repr

def optionalText (given : Bool) (text : String) : List Char :=
  if given then text.toList else []

def Marks.text (marks : Marks) : List Char :=
  optionalText marks.identity " GENERATED BY DEFAULT AS IDENTITY" ++
    optionalText marks.key " PRIMARY KEY" ++ optionalText marks.required " NOT NULL" ++
      optionalText marks.unique " UNIQUE"

/-- The letters with which marks begin, behind a space. -/
def beginsMark (c : Char) : Bool :=
  ['G', 'P', 'N', 'U'].contains c

theorem toldApart_marks (left right : Marks) :
    ToldApart 1 beginsMark left.text right.text ∧ (left.text = right.text → left = right) := by
  obtain ⟨identity, key, required, unique⟩ := left
  obtain ⟨otherIdentity, otherKey, otherRequired, otherUnique⟩ := right
  revert identity key required unique otherIdentity otherKey otherRequired otherUnique
  decide +kernel

theorem all_head?_marks (marks : Marks) : (marks.text.head?.all fun c => c == ' ') = true := by
  obtain ⟨identity, key, required, unique⟩ := marks
  revert identity key required unique
  decide +kernel

theorem marks_append_inj {left right : Marks} {rest others : List Char}
    (hrest : ∀ c ∈ rest[1]?, beginsMark c = false)
    (hothers : ∀ c ∈ others[1]?, beginsMark c = false)
    (heq : left.text ++ rest = right.text ++ others) : left = right ∧ rest = others := by
  obtain ⟨hsame, hrests⟩ := append_inj_of_toldApart (toldApart_marks left right).1
    (toldApart_marks right left).1 hrest hothers heq
  exact ⟨(toldApart_marks left right).2 hsame, hrests⟩

/-! ## References -/

def ColumnReference.IsPlain (reference : ColumnReference) : Prop :=
  Text.IsPlain reference.table ∧ Text.IsPlain reference.column

/-- A reference as it stands in a script. -/
def ColumnReference.clause (reference : ColumnReference) : List Char :=
  (referenceText .postgresql reference).toList

theorem clause_eq (reference : ColumnReference) : reference.clause =
    "REFERENCES ".toList ++ (quoted reference.table ++ ' ' :: '(' ::
      (quoted reference.column ++ [')'])) := by
  simp [ColumnReference.clause, referenceText, quoted]

theorem clause_append_inj {left right : ColumnReference} (hleft : left.IsPlain)
    (hright : right.IsPlain) {rest others : List Char}
    (heq : left.clause ++ rest = right.clause ++ others) : left = right ∧ rest = others := by
  simp only [clause_eq, List.append_assoc, List.append_cancel_left_eq] at heq
  simp only [List.cons_append, List.append_assoc] at heq
  obtain ⟨htable, hcolumn⟩ := quoted_append_inj hleft.1 hright.1 (by decide) (by decide) heq
  have hcolumns := (List.cons.inj hcolumn).2
  obtain ⟨hname, hrest⟩ := quoted_append_inj hleft.2 hright.2 (by decide) (by decide) hcolumns
  cases left
  cases right
  cases htable
  cases hname
  exact ⟨rfl, hrest⟩

/-! ## Lines of columns -/

/-- What can stand behind a column: a comma or the end of the table, in the next line. -/
def EndsColumn (rest : List Char) : Prop :=
  ∃ more, rest = ',' :: '\n' :: more ∨ rest = '\n' :: ')' :: more

/-- The reference that is written with a column, if there is one. -/
def inlineText (reference : Option ColumnReference) : List Char :=
  (reference.map fun reference => ' ' :: reference.clause).getD []

theorem inlineText_append_inj {left right : Option ColumnReference}
    (hleft : ∀ reference ∈ left, reference.IsPlain)
    (hright : ∀ reference ∈ right, reference.IsPlain) {rest others : List Char}
    (hrest : EndsColumn rest) (hothers : EndsColumn others)
    (heq : inlineText left ++ rest = inlineText right ++ others) :
    left = right ∧ rest = others := by
  have hends : ∀ {rest : List Char} {reference : ColumnReference} {behind : List Char},
      EndsColumn rest → rest ≠ inlineText (some reference) ++ behind := by
    rintro rest reference behind ⟨more, rfl | rfl⟩ heq <;> simp [inlineText] at heq
  cases left with
  | none =>
    cases right with
    | none => exact ⟨rfl, heq⟩
    | some second => exact absurd heq (hends hrest)
  | some first =>
    cases right with
    | none => exact absurd heq.symm (hends hothers)
    | some second =>
      obtain ⟨rfl, hsame⟩ :=
        clause_append_inj (hleft first rfl) (hright second rfl) (List.cons.inj heq).2
      exact ⟨rfl, hsame⟩

theorem getElem?_inlineText_append (reference : Option ColumnReference) {rest : List Char}
    (hrest : EndsColumn rest) : ∀ c ∈ (inlineText reference ++ rest)[1]?, beginsMark c = false := by
  obtain ⟨more, rfl | rfl⟩ := hrest <;> cases reference <;>
    simp [inlineText, clause_eq, beginsMark]

theorem head?_marks_append (marks : Marks) (reference : Option ColumnReference) {rest : List Char}
    (hrest : EndsColumn rest) :
    ∀ c ∈ (marks.text ++ (inlineText reference ++ rest)).head?, c.isUpper = false := by
  intro c hc
  rw [List.head?_append, Option.mem_def, Option.or_eq_some_iff] at hc
  rcases hc with hmark | ⟨-, hbehind⟩
  · rw [beq_iff_eq.1 ((Option.all_eq_true _ _).1 (all_head?_marks marks) c hmark)]
    decide
  · obtain ⟨more, rfl | rfl⟩ := hrest <;> cases reference <;>
      simp [inlineText] at hbehind <;> subst hbehind <;> decide

/-- The marks of a column; a composite key has a line of its own. -/
def Column.marks (column : Column) (composite : Bool) : Marks where
  identity := column.primaryKey && column.generated
  key := column.primaryKey && !composite
  required := !(column.primaryKey && !composite) && !column.nullable
  unique := column.unique && !column.primaryKey

theorem toList_constraintText (composite : Bool) (clause : ColumnClause) :
    (constraintText .postgresql composite clause).toList =
      (clause.column.marks composite).text ++ inlineText clause.inlineReference := by
  have hmark : ∀ (given : Bool) (mark : String),
      (if given then mark else "").toList = optionalText given mark := by
    intro given mark
    cases given <;> rfl
  have hreference : (((clause.inlineReference.map fun reference =>
      " " ++ referenceText .postgresql reference).getD "").toList) =
        inlineText clause.inlineReference := by
    cases clause.inlineReference <;> simp [inlineText, ColumnReference.clause]
  have hidentity : (Dialect.postgresql.generatedKeyClause?.map fun text => " " ++ text).getD "" =
      " GENERATED BY DEFAULT AS IDENTITY" := by
    decide
  have hobligation : ∀ (key nullable : Bool) (first second : String),
      (if key then first else if !nullable then second else "").toList =
        optionalText key first ++ optionalText (!key && !nullable) second := by
    intro key nullable first second
    cases key <;> cases nullable <;> simp [optionalText]
  simp only [constraintText, String.toList_append, hmark, hreference, hidentity, hobligation,
    Marks.text, Column.marks, List.append_assoc]

/-- The line of a column. At least one space follows the name. -/
def ColumnClause.line (clause : ColumnClause) (composite : Bool) (columns : Nat) : List Char :=
  [' ', ' ', ' ', ' '] ++ quoted clause.column.name ++
    ' ' :: List.replicate (columns - width (Dialect.postgresql.quote clause.column.name)) ' ' ++
    postgresType clause.column.sqlType ++ (clause.column.marks composite).text ++
    inlineText clause.inlineReference

theorem columnLine_postgresql (composite : Bool) (columns : Nat) (clause : ColumnClause) :
    columnLine .postgresql composite columns clause =
      .ok (String.ofList (clause.line composite columns)) := by
  rw [columnLine, Dialect.typeText?]
  apply congrArg Except.ok
  rw [← String.toList_inj, String.toList_ofList]
  simp only [ColumnClause.line, String.toList_append, toList_constraintText, spaces,
    String.toList_ofList, List.replicate_succ, List.append_assoc, postgresType, quoted,
    String.reduceToList]

/-- Two columns are written alike, up to their references. -/
structure Column.SameText (composite other : Bool) (left right : Column) : Prop where
  name : left.name = right.name
  sqlType : left.sqlType = right.sqlType
  marks : left.marks composite = right.marks other

/-- The lines of two columns are the same but for the number of spaces. -/
structure ColumnClause.SameLine (composite other : Bool) (left right : ColumnClause) : Prop where
  column : left.column.SameText composite other right.column
  reference : left.inlineReference = right.inlineReference

structure ColumnClause.IsPlain (clause : ColumnClause) : Prop where
  name : Text.IsPlain clause.column.name
  sqlType : clause.column.sqlType ∈ sqlTypes
  reference : ∀ reference ∈ clause.inlineReference, reference.IsPlain

theorem line_append_inj {left right : ColumnClause} (hleft : left.IsPlain)
    (hright : right.IsPlain) {composite other : Bool} {few many : Nat} {rest others : List Char}
    (hrest : EndsColumn rest) (hothers : EndsColumn others)
    (heq : left.line composite few ++ rest = right.line other many ++ others) :
    left.SameLine composite other right ∧ rest = others := by
  simp only [ColumnClause.line, List.append_assoc, List.append_cancel_left_eq] at heq
  simp only [List.cons_append] at heq
  obtain ⟨hname, htypes⟩ := quoted_append_inj hleft.name hright.name (by decide) (by decide) heq
  obtain ⟨htype, hmarks⟩ := postgresType_append_inj hleft.sqlType hright.sqlType
    (head?_marks_append _ _ hrest) (head?_marks_append _ _ hothers) htypes
  obtain ⟨hsame, hreferences⟩ := marks_append_inj (getElem?_inlineText_append _ hrest)
    (getElem?_inlineText_append _ hothers) hmarks
  obtain ⟨hreference, hrests⟩ :=
    inlineText_append_inj hleft.reference hright.reference hrest hothers hreferences
  exact ⟨⟨⟨hname, htype, hsame⟩, hreference⟩, hrests⟩

end ClassDiagram
