import ClassDiagram.Proofs.Sql.Pieces

/-!
# Scripts tell their statements apart

If two PostgreSQL scripts have the same text, they have the same statements, one after the other,
as far as these are written at all. A line of a column begins with the name, so it is not taken for
the line of a composite key, which begins with a reserved word.
-/

namespace ClassDiagram

open Text

/-! ## Sequences of pieces -/

/-- Two texts made of pieces are the same only if the pieces are, one after the other. What stands
behind a piece has to fit, and nothing that begins with a piece stands behind all of them. -/
theorem flatMap_append_inj {α β : Type} {related : α → β → Prop} {text : α → List Char}
    {otherText : β → List Char} (Fits : List Char → Prop) {items : List α} {others : List β}
    {rest behind : List Char}
    (hpieces : ∀ item ∈ items, ∀ other ∈ others, ∀ rest behind, Fits rest → Fits behind →
      text item ++ rest = otherText other ++ behind → related item other ∧ rest = behind)
    (htext : ∀ item rest, Fits (text item ++ rest))
    (hotherText : ∀ other behind, Fits (otherText other ++ behind))
    (hrest : Fits rest) (hbehind : Fits behind)
    (hends : ∀ item ∈ items, ∀ more, text item ++ more ≠ behind)
    (hotherEnds : ∀ other ∈ others, ∀ more, otherText other ++ more ≠ rest)
    (heq : items.flatMap text ++ rest = others.flatMap otherText ++ behind) :
    List.Forall₂ related items others ∧ rest = behind := by
  induction items generalizing others with
  | nil =>
    cases others with
    | nil => exact ⟨.nil, heq⟩
    | cons other later =>
      rw [List.flatMap_cons, List.append_assoc] at heq
      exact absurd heq.symm (hotherEnds other List.mem_cons_self _)
  | cons item items ih =>
    cases others with
    | nil =>
      rw [List.flatMap_cons, List.append_assoc] at heq
      exact absurd heq (hends item List.mem_cons_self _)
    | cons other later =>
      -- behind a piece stands the next one, or what stands behind all of them
      have hfits : Fits (items.flatMap text ++ rest) := by
        cases items with
        | nil => exact hrest
        | cons next items =>
          rw [List.flatMap_cons, List.append_assoc]
          exact htext next _
      have hotherFits : Fits (later.flatMap otherText ++ behind) := by
        cases later with
        | nil => exact hbehind
        | cons next later =>
          rw [List.flatMap_cons, List.append_assoc]
          exact hotherText next _
      rw [List.flatMap_cons, List.flatMap_cons, List.append_assoc, List.append_assoc] at heq
      obtain ⟨hrelated, htails⟩ := hpieces item List.mem_cons_self other List.mem_cons_self _ _
        hfits hotherFits heq
      obtain ⟨hsame, hrests⟩ := ih
        (fun item hitem other hother => hpieces item (List.mem_cons_of_mem _ hitem) other
          (List.mem_cons_of_mem _ hother))
        (fun item hitem => hends item (List.mem_cons_of_mem _ hitem))
        (fun other hother => hotherEnds other (List.mem_cons_of_mem _ hother)) htails
      exact ⟨.cons hrelated hsame, hrests⟩

/-! ## Tables -/

/-- The names of the key columns, as the line of a composite key lists them. -/
def Table.keyList (table : Table) : List Char :=
  [',', ' '].intercalate (table.keyColumns.map fun column => quoted column.name)

theorem toList_compositeKeyLine (table : Table) : (compositeKeyLine .postgresql table).toList =
    "    PRIMARY KEY (".toList ++ (table.keyList ++ [')']) := by
  unfold compositeKeyLine
  rw [String.toList_append, String.toList_append, String.toList_intercalate, List.map_map]
  simp only [String.reduceToList, List.append_assoc]
  rfl

/-- The line of the key of a join table; other tables have none. -/
def Table.keyLines (table : Table) : List (List Char) :=
  if table.isJoin then ["    PRIMARY KEY (".toList ++ (table.keyList ++ [')'])] else []

/-- What stands behind the columns of a table. -/
def Table.closing (table : Table) : List Char :=
  (table.keyLines.flatMap fun line => [',', '\n'] ++ line) ++ ['\n', ')', ';']

theorem closing_eq (table : Table) : table.closing =
    if table.isJoin then
      ',' :: '\n' :: ("    PRIMARY KEY (".toList ++ (table.keyList ++ [')', '\n', ')', ';']))
    else ['\n', ')', ';'] := by
  rw [Table.closing, Table.keyLines]
  split
  · simp only [List.flatMap_cons, List.flatMap_nil, List.append_assoc, List.cons_append,
      List.nil_append]
  · rfl

theorem endsColumn_closing_append (table : Table) (rest : List Char) :
    EndsColumn (table.closing ++ rest) := by
  rw [closing_eq]
  split
  · exact ⟨_, .inl rfl⟩
  · exact ⟨_, .inr rfl⟩

theorem bracket_not_mem_keyList {table : Table}
    (hplain : ∀ column ∈ table.columns, IsPlain column.name) : ')' ∉ table.keyList := by
  have hseparator : ∀ c ∈ [',', ' '], c ≠ ')' := by
    rw [List.forall_mem_cons, List.forall_mem_singleton]
    exact ⟨by decide, by decide⟩
  intro hmem
  refine forall_mem_intercalate hseparator ?_ ')' hmem rfl
  rw [List.forall_mem_map]
  intro column hcolumn c hc heq
  have hname := hplain column (List.mem_of_mem_filter hcolumn)
  exact mark_not_mem_quoted hname (by decide) (by decide) (heq ▸ hc)

theorem closing_append_inj {left right : Table}
    (hleft : ∀ column ∈ left.columns, IsPlain column.name)
    (hright : ∀ column ∈ right.columns, IsPlain column.name) {rest others : List Char}
    (heq : left.closing ++ rest = right.closing ++ others) :
    left.isJoin = right.isJoin ∧ rest = others := by
  have hcomma : ',' ≠ '\n' := by decide
  rw [closing_eq, closing_eq] at heq
  cases hfirst : left.isJoin <;> cases hsecond : right.isJoin <;>
    simp only [hfirst, hsecond, if_true, Bool.false_eq_true, if_false] at heq
  · exact ⟨rfl, List.append_cancel_left heq⟩
  · exact absurd (List.cons.inj heq).1.symm hcomma
  · exact absurd (List.cons.inj heq).1 hcomma
  · simp only [List.cons_append, List.cons.injEq, true_and, List.append_assoc] at heq
    obtain ⟨-, hrests⟩ := append_mark_inj (bracket_not_mem_keyList hleft)
      (bracket_not_mem_keyList hright) (List.append_cancel_left heq)
    have hends : ['\n', ')', ';'] ++ rest = ['\n', ')', ';'] ++ others := hrests
    exact ⟨rfl, List.append_cancel_left hends⟩

/-- The columns of a table, a comma and a line end in front of each. -/
def Table.columnText (table : Table) (columns : Nat) (clause : ColumnClause) : List Char :=
  ',' :: '\n' :: clause.line table.isJoin columns

theorem quoted_ne_primary (name : String) : quoted name ≠ "PRIMARY".toList := by
  intro heq
  rw [quoted_eq] at heq
  split at heq
  · simp at heq
  · rename_i hbare
    exact hbare (String.toList_inj.1 heq ▸ by decide)

theorem columnText_append_ne {table other : Table} {clause : ColumnClause} (hplain : clause.IsPlain)
    (columns : Nat) (more rest : List Char) :
    table.columnText columns clause ++ more ≠ other.closing ++ rest := by
  intro heq
  rw [Table.columnText, closing_eq] at heq
  split at heq
  · have hkey : "    PRIMARY KEY (".toList =
        [' ', ' ', ' ', ' '] ++ ("PRIMARY".toList ++ ' ' :: "KEY (".toList) := by decide
    simp only [ColumnClause.line, hkey, List.cons_append, List.cons.injEq, true_and,
      List.append_assoc, List.nil_append] at heq
    have hprimary : ' ' ∉ "PRIMARY".toList := by decide
    obtain ⟨hname, -⟩ := append_mark_inj
      (mark_not_mem_quoted hplain.name (by decide) (by decide)) hprimary heq
    exact quoted_ne_primary _ hname
  · exact absurd (List.cons.inj heq).1 (by decide)

/-- The lines between the brackets of a table. -/
def Table.lines (table : Table) (clauses : List ColumnClause) : List (List Char) :=
  clauses.map (fun clause => clause.line table.isJoin (nameWidth .postgresql clauses)) ++
    table.keyLines

theorem intercalate_lines (table : Table) {clauses : List ColumnClause} (hclauses : clauses ≠ []) :
    ',' :: '\n' :: ([',', '\n'].intercalate (table.lines clauses) ++ ['\n', ')', ';']) =
      clauses.flatMap (table.columnText (nameWidth .postgresql clauses)) ++ table.closing := by
  have hlines : table.lines clauses ≠ [] :=
    List.append_ne_nil_of_left_ne_nil (mt List.map_eq_nil_iff.1 hclauses) _
  calc ',' :: '\n' :: ([',', '\n'].intercalate (table.lines clauses) ++ ['\n', ')', ';'])
    _ = (table.lines clauses).flatMap (fun line => [',', '\n'] ++ line) ++ ['\n', ')', ';'] := by
      rw [← append_intercalate [',', '\n'] hlines]
      rfl
    _ = clauses.flatMap (table.columnText (nameWidth .postgresql clauses)) ++ table.closing := by
      rw [Table.lines, List.flatMap_append, List.append_assoc, List.flatMap_map]
      rfl

/-- The statement that creates a table. -/
def creationText (table : Table) (clauses : List ColumnClause) : List Char :=
  "CREATE TABLE ".toList ++ (quoted table.name ++ ' ' :: '(' :: '\n' ::
    ([',', '\n'].intercalate (table.lines clauses) ++ ['\n', ')', ';']))

/-- The statement that adds a foreign key. -/
def foreignKeyText (table column : String) (reference : ColumnReference) : List Char :=
  "ALTER TABLE ".toList ++ (quoted table ++ ' ' :: ("ADD FOREIGN KEY (".toList ++
    (quoted column ++ ')' :: ' ' :: (reference.clause ++ [';']))))

def Statement.postgres : Statement → List Char
  | .createTable table clauses => creationText table clauses
  | .addForeignKey table column reference => foreignKeyText table column reference

theorem text_postgresql (statement : Statement) :
    statement.text .postgresql = .ok (String.ofList statement.postgres) := by
  cases statement with
  | createTable table clauses =>
    have hlines : clauses.mapM (columnLine .postgresql table.isJoin
        (nameWidth .postgresql clauses)) = .ok (clauses.map fun clause =>
          String.ofList (clause.line table.isJoin (nameWidth .postgresql clauses))) :=
      mapM_eq_ok_iff.2 (List.forall₂_map_right_iff.2 (List.forall₂_same.2 fun clause _ =>
        columnLine_postgresql table.isJoin _ clause))
    have hkey : (if table.isJoin then [compositeKeyLine .postgresql table] else []).map
        String.toList = table.keyLines := by
      rw [Table.keyLines]
      split
      · rw [List.map_singleton, toList_compositeKeyLine]
      · rfl
    rw [Statement.text, hlines]
    apply congrArg Except.ok
    rw [← String.toList_inj, String.toList_ofList, Statement.postgres]
    unfold creationText Table.lines
    have hopening : " (\n".toList = [' ', '(', '\n'] := by decide
    have hseparator : ",\n".toList = [',', '\n'] := by decide
    have hend : "\n);".toList = ['\n', ')', ';'] := by decide
    simp only [String.toList_append, String.toList_intercalate, List.map_append, hkey,
      List.map_map, Function.comp_def, String.toList_ofList, hopening, hseparator, hend, quoted,
      List.append_assoc]
    rfl
  | addForeignKey table column reference =>
    have hclause : (referenceText .postgresql reference).toList = reference.clause := rfl
    rw [Statement.text]
    apply congrArg Except.ok
    rw [← String.toList_inj, String.toList_ofList, Statement.postgres]
    unfold foreignKeyText
    have hopening : " ADD FOREIGN KEY (".toList = ' ' :: "ADD FOREIGN KEY (".toList := by decide
    have hend : ") ".toList = [')', ' '] := by decide
    have hlast : ";".toList = [';'] := by decide
    simp only [String.toList_append, hclause, hopening, hend, hlast, quoted, List.append_assoc,
      List.cons_append, List.nil_append]

/-- What a statement has to be like for its text to tell it apart. -/
def Statement.IsPlain : Statement → Prop
  | .createTable table clauses =>
    Text.IsPlain table.name ∧ (∀ column ∈ table.columns, Text.IsPlain column.name) ∧
      clauses ≠ [] ∧ ∀ clause ∈ clauses, clause.IsPlain
  | .addForeignKey table column reference =>
    Text.IsPlain table ∧ Text.IsPlain column ∧ reference.IsPlain

/-- The texts of two statements are the same but for the number of spaces. -/
inductive Statement.SameText : Statement → Statement → Prop
  | createTable {table other : Table} {clauses others : List ColumnClause}
    (name : table.name = other.name) (join : table.isJoin = other.isJoin)
    (columns : List.Forall₂ (ColumnClause.SameLine table.isJoin other.isJoin) clauses others) :
    SameText (.createTable table clauses) (.createTable other others)
  | addForeignKey (table column : String) (reference : ColumnReference) :
    SameText (.addForeignKey table column reference) (.addForeignKey table column reference)

theorem columns_append_inj {left right : Table} {clauses others : List ColumnClause}
    (hleft : (Statement.createTable left clauses).IsPlain)
    (hright : (Statement.createTable right others).IsPlain) {few many : Nat}
    {rest behind : List Char}
    (heq : clauses.flatMap (left.columnText few) ++ (left.closing ++ rest) =
      others.flatMap (right.columnText many) ++ (right.closing ++ behind)) :
    List.Forall₂ (ColumnClause.SameLine left.isJoin right.isJoin) clauses others ∧
      left.closing ++ rest = right.closing ++ behind := by
  obtain ⟨-, -, -, hclauses⟩ := hleft
  obtain ⟨-, -, -, hothers⟩ := hright
  refine flatMap_append_inj EndsColumn ?_ ?_ ?_ (endsColumn_closing_append left rest)
    (endsColumn_closing_append right behind) ?_ ?_ heq
  · intro clause hclause other hother rest behind hrest hbehind heq
    have hlines := (List.cons.inj (List.cons.inj heq).2).2
    exact line_append_inj (hclauses clause hclause) (hothers other hother) hrest hbehind hlines
  · exact fun clause rest => ⟨_, .inl rfl⟩
  · exact fun clause rest => ⟨_, .inl rfl⟩
  · exact fun clause hclause more => columnText_append_ne (hclauses clause hclause) _ _ _
  · exact fun clause hclause more => columnText_append_ne (hothers clause hclause) _ _ _

theorem creationText_append_inj {left right : Table} {clauses others : List ColumnClause}
    (hleft : (Statement.createTable left clauses).IsPlain)
    (hright : (Statement.createTable right others).IsPlain) {rest behind : List Char}
    (heq : creationText left clauses ++ rest = creationText right others ++ behind) :
    (Statement.createTable left clauses).SameText (.createTable right others) ∧ rest = behind := by
  unfold creationText at heq
  simp only [List.append_assoc] at heq
  have hnames := List.append_cancel_left heq
  simp only [List.cons_append] at hnames
  obtain ⟨hname, hbrackets⟩ := quoted_append_inj hleft.1 hright.1 (by decide) (by decide) hnames
  have hlines := (List.cons.inj (List.cons.inj hbrackets).2).2
  have hcolumns : clauses.flatMap (left.columnText (nameWidth .postgresql clauses)) ++
      (left.closing ++ rest) =
        others.flatMap (right.columnText (nameWidth .postgresql others)) ++
          (right.closing ++ behind) := by
    rw [← List.append_assoc, ← List.append_assoc, ← intercalate_lines left hleft.2.2.1,
      ← intercalate_lines right hright.2.2.1]
    exact congrArg (fun text => ',' :: '\n' :: text) hlines
  obtain ⟨hsame, hclosing⟩ := columns_append_inj hleft hright hcolumns
  obtain ⟨hjoin, hrests⟩ := closing_append_inj hleft.2.1 hright.2.1 hclosing
  exact ⟨.createTable hname hjoin hsame, hrests⟩

theorem foreignKeyText_append_inj {table other column otherColumn : String}
    {reference otherReference : ColumnReference}
    (hleft : (Statement.addForeignKey table column reference).IsPlain)
    (hright : (Statement.addForeignKey other otherColumn otherReference).IsPlain)
    {rest behind : List Char}
    (heq : foreignKeyText table column reference ++ rest =
      foreignKeyText other otherColumn otherReference ++ behind) :
    (Statement.addForeignKey table column reference).SameText
      (.addForeignKey other otherColumn otherReference) ∧ rest = behind := by
  unfold foreignKeyText at heq
  simp only [List.append_assoc] at heq
  have htables := List.append_cancel_left heq
  simp only [List.cons_append, List.append_assoc, List.nil_append] at htables
  obtain ⟨rfl, hkeys⟩ := quoted_append_inj hleft.1 hright.1 (by decide) (by decide) htables
  have hcolumns := List.append_cancel_left hkeys
  obtain ⟨rfl, hreferences⟩ :=
    quoted_append_inj hleft.2.1 hright.2.1 (by decide) (by decide) hcolumns
  obtain ⟨rfl, hends⟩ :=
    clause_append_inj hleft.2.2 hright.2.2 (List.cons.inj hreferences).2
  exact ⟨.addForeignKey table column reference, (List.cons.inj hends).2⟩

theorem creationText_append_ne (table : Table) (clauses : List ColumnClause)
    (name column : String) (reference : ColumnReference) (rest behind : List Char) :
    creationText table clauses ++ rest ≠ foreignKeyText name column reference ++ behind := by
  have hcreate : "CREATE TABLE ".toList = 'C' :: "REATE TABLE ".toList := by decide
  have halter : "ALTER TABLE ".toList = 'A' :: "LTER TABLE ".toList := by decide
  unfold creationText foreignKeyText
  rw [hcreate, halter]
  intro heq
  exact absurd (List.cons.inj heq).1 (by decide)

theorem postgres_append_inj {left right : Statement} (hleft : left.IsPlain)
    (hright : right.IsPlain) {rest behind : List Char}
    (heq : left.postgres ++ rest = right.postgres ++ behind) :
    left.SameText right ∧ rest = behind := by
  cases left with
  | createTable table clauses =>
    cases right with
    | createTable => exact creationText_append_inj hleft hright heq
    | addForeignKey => exact absurd heq (creationText_append_ne _ _ _ _ _ _ _)
  | addForeignKey table column reference =>
    cases right with
    | createTable => exact absurd heq.symm (creationText_append_ne _ _ _ _ _ _ _)
    | addForeignKey => exact foreignKeyText_append_inj hleft hright heq

/-! ## Scripts -/

/-- The statements with empty lines between them and a line end behind the last one. -/
def postgresScript (script : List Statement) : List Char :=
  if script = [] then []
  else ['\n', '\n'].intercalate (script.map Statement.postgres) ++ ['\n']

theorem scriptText_postgresql (script : List Statement) :
    scriptText .postgresql script = .ok (String.ofList (postgresScript script)) := by
  rw [scriptText_eq_ok_iff]
  refine ⟨script.map fun statement => String.ofList statement.postgres,
    List.forall₂_map_right_iff.2 (List.forall₂_same.2 fun statement _ =>
      text_postgresql statement), ?_⟩
  rw [← String.toList_inj, String.toList_ofList, postgresScript]
  by_cases hscript : script = []
  · rw [hscript]
    rfl
  · have hline : "\n\n".toList = ['\n', '\n'] := by decide
    have hend : "\n".toList = ['\n'] := by decide
    rw [if_neg hscript, if_neg (mt List.map_eq_nil_iff.1 hscript), String.toList_append,
      String.toList_intercalate, List.map_map, hline, hend]
    simp only [Function.comp_def, String.toList_ofList]

theorem postgresScript_eq_nil_iff {script : List Statement} :
    postgresScript script = [] ↔ script = [] := by
  rw [postgresScript]
  split <;> simp_all

theorem cons_postgresScript {script : List Statement} (hscript : script ≠ []) :
    '\n' :: '\n' :: postgresScript script =
      script.flatMap (fun statement => '\n' :: '\n' :: statement.postgres) ++ ['\n'] := by
  have htexts : script.map Statement.postgres ≠ [] := mt List.map_eq_nil_iff.1 hscript
  have hseparated := append_intercalate ['\n', '\n'] htexts
  rw [List.flatMap_map] at hseparated
  rw [postgresScript, if_neg hscript]
  exact congrArg (fun text => text ++ ['\n']) hseparated

/-- Scripts with the same text have the same statements, one after the other. -/
theorem sameText_of_scriptText_eq {script others : List Statement}
    (hscript : ∀ statement ∈ script, statement.IsPlain)
    (hothers : ∀ statement ∈ others, statement.IsPlain)
    (heq : scriptText .postgresql script = scriptText .postgresql others) :
    List.Forall₂ Statement.SameText script others := by
  rw [scriptText_postgresql, scriptText_postgresql, Except.ok.injEq, ← String.toList_inj,
    String.toList_ofList, String.toList_ofList] at heq
  by_cases hempty : script = []
  · have hnone := postgresScript_eq_nil_iff.1 (heq ▸ postgresScript_eq_nil_iff.2 hempty)
    rw [hempty, hnone]
    exact .nil
  · have hsome : others ≠ [] := fun hnone =>
      hempty (postgresScript_eq_nil_iff.1 (heq.trans (postgresScript_eq_nil_iff.2 hnone)))
    have hstatements := congrArg (fun text => '\n' :: '\n' :: text) heq
    simp only [cons_postgresScript hempty, cons_postgresScript hsome] at hstatements
    refine (flatMap_append_inj (fun _ => True) ?_ ?_ ?_ trivial trivial ?_ ?_ hstatements).1
    · intro statement hstatement other hother rest behind _ _ heq
      exact postgres_append_inj (hscript statement hstatement) (hothers other hother)
        (List.cons.inj (List.cons.inj heq).2).2
    · exact fun _ _ => trivial
    · exact fun _ _ => trivial
    · exact fun _ _ _ hends => nomatch (List.cons.inj hends).2
    · exact fun _ _ _ hends => nomatch (List.cons.inj hends).2

end ClassDiagram
