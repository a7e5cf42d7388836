import ClassDiagram.Proofs.Sql.Script

/-!
# The texts of column types

MySQL has its own names for some types, and what stands behind the name is cut off by the number of
bytes of the name. A type has a text if a character begins there, as it does for every type that
begins with its name. With blanks in front of the name the arguments would be cut in the wrong place.
-/

namespace ClassDiagram

open Text

/-! ## Cutting by bytes -/

theorem utf8Length_append (front rest : List Char) :
    utf8Length (front ++ rest) = utf8Length front + utf8Length rest := by
  induction front with
  | nil => rw [List.nil_append, utf8Length, Nat.zero_add]
  | cons c front ih => rw [List.cons_append, utf8Length, ih, utf8Length, Nat.add_assoc]

theorem utf8Length_eq_zero_iff {text : List Char} : utf8Length text = 0 ↔ text = [] := by
  cases text with
  | nil => exact iff_of_true rfl rfl
  | cons c rest =>
    have hpos := c.utf8Size_pos
    refine iff_of_false ?_ (List.cons_ne_nil c rest)
    rw [utf8Length]
    omega

/-- A text can be cut where some characters at its front have that many bytes. -/
theorem dropBytes?_eq_some_iff {count : Nat} {text rest : List Char} :
    dropBytes? count text = some rest ↔
      ∃ front, text = front ++ rest ∧ utf8Length front = count := by
  constructor
  · intro hdrop
    induction text generalizing count with
    | nil =>
      rw [dropBytes?] at hdrop
      split_ifs at hdrop with hzero
      cases hdrop
      exact ⟨[], rfl, hzero.symm⟩
    | cons c others ih =>
      rw [dropBytes?] at hdrop
      split_ifs at hdrop with hzero hsize
      · cases hdrop
        exact ⟨[], rfl, hzero.symm⟩
      · obtain ⟨front, htext, hlength⟩ := ih hdrop
        refine ⟨c :: front, by rw [htext, List.cons_append], ?_⟩
        rw [utf8Length, hlength]
        omega
  · rintro ⟨front, rfl, rfl⟩
    exact dropBytes?_utf8Length_append front rest

/-- Only behind the front itself is the text cut there. -/
theorem dropBytes?_append_eq_some_iff {front word rest : List Char} :
    dropBytes? (utf8Length word) (front ++ word ++ rest) = some rest ↔ front = [] := by
  rw [dropBytes?_eq_some_iff]
  constructor
  · rintro ⟨other, htext, hlength⟩
    have hsame : utf8Length (front ++ word) = utf8Length other :=
      congrArg utf8Length (List.append_cancel_right htext)
    rw [utf8Length_append, hlength] at hsame
    apply utf8Length_eq_zero_iff.1
    omega
  · rintro rfl
    exact ⟨word, rfl, rfl⟩

/-! ## Names of types -/

/-- In front of the name of a type there are only blanks. -/
theorem exists_eq_append_typeBase (text : List Char) :
    ∃ front rest, text = front ++ typeBase text ++ rest ∧ ∀ c ∈ front, isBlank c = true := by
  obtain ⟨front, back, heq, hfront, -⟩ :=
    exists_eq_append_trim (text.takeWhile fun c => c != '(')
  refine ⟨front, back ++ text.dropWhile fun c => c != '(', ?_, hfront⟩
  calc text
    _ = text.takeWhile (fun c => c != '(') ++ text.dropWhile fun c => c != '(' :=
      List.takeWhile_append_dropWhile.symm
    _ = front ++ typeBase text ++ back ++ text.dropWhile fun c => c != '(' := by
      rw [typeBase, ← heq]
    _ = front ++ typeBase text ++ (back ++ text.dropWhile fun c => c != '(') :=
      List.append_assoc _ _ _

theorem isSome_mysqlType?_iff {sqlType : String} :
    (mysqlType? sqlType).isSome ↔ ∃ front rest, sqlType.toList = front ++ rest ∧
      utf8Length front = utf8Length (typeBase sqlType.toList) := by
  have hdrop : (mysqlType? sqlType).isSome =
      (dropBytes? (utf8Length (typeBase sqlType.toList)) sqlType.toList).isSome := by
    rw [mysqlType?]
    cases dropBytes? (utf8Length (typeBase sqlType.toList)) sqlType.toList with
    | none => exact Option.isSome_none
    | some arguments => exact Option.isSome_some
  rw [hdrop, Option.isSome_iff_exists, exists_comm]
  simp only [dropBytes?_eq_some_iff]

/-- The name `NUMERIC` is respelled, and what stands behind as many bytes is kept. -/
theorem mysqlType?_numeric {sqlType : String}
    (hbase : typeBase sqlType.toList = "NUMERIC".toList) :
    mysqlType? sqlType = (dropBytes? (utf8Length "NUMERIC".toList) sqlType.toList).map
      fun arguments => "DECIMAL" ++ String.ofList arguments := by
  rw [mysqlType?, hbase]
  cases dropBytes? (utf8Length "NUMERIC".toList) sqlType.toList <;> rfl

/-- A type has a text in MySQL exactly if a character begins behind as many bytes as the name of the
type has, so at least if it begins with no blank, and in the other dialects always. The arguments of
`NUMERIC` come out unchanged behind `DECIMAL` exactly if there is no blank in front of the name. -/
theorem columnTypes_written (sqlType : String) :
    (∀ dialect : Dialect, (dialect.typeText? sqlType).isSome ↔
      (dialect = .mysql → ∃ front rest, sqlType.toList = front ++ rest ∧
        utf8Length front = utf8Length (typeBase sqlType.toList))) ∧
    ((∀ c ∈ sqlType.toList.head?, isBlank c = false) →
      ∀ dialect : Dialect, (dialect.typeText? sqlType).isSome) ∧
    (typeBase sqlType.toList = "NUMERIC".toList →
      ∃ front rest, sqlType.toList = front ++ "NUMERIC".toList ++ rest ∧
        (∀ c ∈ front, isBlank c = true) ∧
        (Dialect.mysql.typeText? sqlType = some ("DECIMAL" ++ String.ofList rest) ↔
          front = [])) := by
  refine ⟨fun dialect => ?_, fun hfirst dialect => typeText?_isSome fun _ => hfirst,
    fun hbase => ?_⟩
  · cases dialect with
    | generic | postgresql => simp [Dialect.typeText?]
    | mysql =>
      rw [Dialect.typeText?, isSome_mysqlType?_iff]
      exact ⟨fun hfront _ => hfront, fun hfront => hfront rfl⟩
  · obtain ⟨front, rest, htext, hfront⟩ := exists_eq_append_typeBase sqlType.toList
    rw [hbase] at htext
    refine ⟨front, rest, htext, hfront, ?_⟩
    have hsame : ∀ arguments, "DECIMAL" ++ String.ofList arguments = "DECIMAL" ++ String.ofList rest ↔
        arguments = rest := by
      intro arguments
      rw [String.append_right_inj, String.ofList_inj]
    rw [Dialect.typeText?, mysqlType?_numeric hbase, Option.map_eq_some_iff]
    simp only [hsame, exists_eq_right]
    rw [htext, dropBytes?_append_eq_some_iff]

/-- Blanks behind the name are kept with the arguments. -/
theorem columnTypes_written_numeric :
    typeBase "NUMERIC (19,2)".toList = "NUMERIC".toList ∧
      (∀ c ∈ "NUMERIC (19,2)".toList.head?, isBlank c = false) ∧
      (∀ dialect : Dialect, (dialect.typeText? "NUMERIC (19,2)").isSome) ∧
      Dialect.mysql.typeText? "NUMERIC (19,2)" = some "DECIMAL (19,2)" := by
  have hbase : typeBase "NUMERIC (19,2)".toList = "NUMERIC".toList := by decide
  have hfirst : ∀ c ∈ "NUMERIC (19,2)".toList.head?, isBlank c = false := by
    have hhead : "NUMERIC (19,2)".toList.head? = some 'N' := by decide
    rw [hhead]
    rintro c ⟨⟩
    decide
  obtain ⟨-, hsome, hnumeric⟩ := columnTypes_written "NUMERIC (19,2)"
  obtain ⟨front, rest, htext, hfront, hresult⟩ := hnumeric hbase
  have hopens : front = [] := by
    cases front with
    | nil => rfl
    | cons c more =>
      cases (List.cons.inj htext).1
      exact absurd (hfront 'N' List.mem_cons_self) (by decide)
  have hrest : rest = " (19,2)".toList := by
    have hsplit : "NUMERIC (19,2)".toList = "NUMERIC".toList ++ " (19,2)".toList := by decide
    rw [hopens, List.nil_append, hsplit] at htext
    exact (List.append_cancel_left htext).symm
  rw [hrest] at hresult
  exact ⟨hbase, hfirst, hsome hfirst, hresult.2 hopens⟩

/-- With a blank in front of the name the last letter of the name counts as an argument, and two
blanks of two bytes each are cut in the middle. -/
theorem columnTypes_indented :
    typeBase " NUMERIC(19,2)".toList = "NUMERIC".toList ∧
      Dialect.mysql.typeText? " NUMERIC(19,2)" = some "DECIMALC(19,2)" ∧
      Dialect.mysql.typeText? "\u00a0\u00a0INT" = none := by
  decide +kernel

end ClassDiagram
