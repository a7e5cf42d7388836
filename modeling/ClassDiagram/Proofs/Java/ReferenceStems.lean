import ClassDiagram.Proofs.Java.AssociationStems
import ClassDiagram.Proofs.Outcomes
import ClassDiagram.Proofs.Schema.Growth
import ClassDiagram.Proofs.Text.Words

/-!
# Stems of references

A column that is made to refer to the key of a table has the joined names of the two, and a number
if that name was taken. Whatever the names look like, and even if the key's name ends like a number,
the stem of the column is the name of the table with the number of the column behind it.
-/

namespace ClassDiagram

open Text

/-- What keeps columns apart that refer to the same key: nothing, or a number from two on. -/
inductive IsCollisionMark : String → Prop
  | unmarked : IsCollisionMark ""
  | numbered (n : Nat) (hleast : 2 ≤ n) : IsCollisionMark ("_" ++ toString n)

/-- A fresh name is the base, and a number if the base is taken. -/
theorem exists_collisionMark (base : String) (taken : List String) :
    ∃ mark, IsCollisionMark mark ∧ freshName base taken = base ++ mark := by
  rw [freshName]
  split
  · obtain ⟨place, hleast, hresult, -, -⟩ :=
      firstFree_eq_least (numbered_injective (base ++ "_")) 2 taken
    exact ⟨_, .numbered place hleast, hresult.trans String.append_assoc⟩
  · exact ⟨"", .unmarked, String.append_empty.symm⟩

/-- The mark of a column stays behind the name of the table. -/
theorem associationStem_marked {table : String} (htable : table ≠ "") (key : String)
    {mark : String} (hmark : IsCollisionMark mark) :
    associationStem (table ++ "_" ++ key ++ mark) key = table ++ mark := by
  cases hmark with
  | unmarked =>
    rw [String.append_empty, String.append_empty]
    exact associationStem_reference htable key
  | numbered n =>
    have hdigits : isDigits (toString n).toList = true :=
      List.all_eq_true.2 fun c hc => isDigit_of_mem_toString hc
    rw [← String.append_assoc, ← String.append_assoc]
    exact associationStem_numbered htable key hdigits

/-- The column refers to the key of a table and is named after both, with a mark behind. Its stem
is the name of the table with this mark, and the field of the association is named by the stem. -/
def Column.IsNamedAfter (column : Column) (referenced owner : Table) : Prop :=
  ∃ key mark, referenced.primaryKey? = some key ∧
    column.references = some { table := referenced.name, column := key.name } ∧
    IsCollisionMark mark ∧ column.name = referenced.name ++ "_" ++ key.name ++ mark ∧
    associationStem column.name key.name = referenced.name ++ mark ∧
    ∀ schema draft, ∃ (before : FieldDraft) (kind : FieldKind),
      FieldDraft.addColumn schema owner draft column =
        before.add [fieldName (referenced.name ++ mark)] (typeName referenced.name) kind

/-- A column under a fresh name is named after what it refers to. If it is a key, this holds in a
join table only: the key of any other table stands for no association. -/
theorem isNamedAfter_of_freshName {owner referenced : Table} {key column : Column}
    (taken : List String) (hname : referenced.name ≠ "")
    (hkey : referenced.primaryKey? = some key)
    (hfresh : column.name = freshName (referenceName referenced key) taken)
    (hreferences : column.references = some { table := referenced.name, column := key.name })
    (hplace : column.primaryKey = true → owner.isJoin = true) :
    column.IsNamedAfter referenced owner := by
  obtain ⟨mark, hmark, heq⟩ := exists_collisionMark (referenceName referenced key) taken
  have hcolumn : column.name = referenced.name ++ "_" ++ key.name ++ mark := hfresh.trans heq
  have hstem : associationStem column.name key.name = referenced.name ++ mark := by
    rw [hcolumn]
    exact associationStem_marked hname key.name hmark
  refine ⟨key, mark, hkey, hreferences, hmark, hcolumn, hstem, fun schema draft => ?_⟩
  cases hprimary : column.primaryKey with
  | true =>
    simp only [FieldDraft.addColumn, hreferences, hprimary, hplace hprimary, hstem, if_true]
    exact ⟨_, _, rfl⟩
  | false =>
    simp only [FieldDraft.addColumn, hreferences, hprimary, hstem]
    exact ⟨_, _, rfl⟩

theorem exists_key_of_ok {table : Table} {key : Column} (hkey : table.key = .ok key) :
    table.primaryKey? = some key := by
  rw [Table.key] at hkey
  split at hkey
  · rename_i column hfind
    exact hfind.trans (congrArg some (Except.ok.inj hkey))
  · cases hkey

theorem foreignKeyColumn_eq_ok {owner referenced : Table} {nullable unique : Bool}
    {column : Column} (hcolumn : foreignKeyColumn owner referenced nullable unique = .ok column) :
    ∃ key, referenced.primaryKey? = some key ∧
      column = owner.foreignKeyTo referenced key nullable unique := by
  obtain ⟨key, hkey, heq⟩ := bind_eq_ok hcolumn
  exact ⟨key, exists_key_of_ok hkey, (Except.ok.inj heq).symm⟩

theorem joinColumn_eq_ok {side : Table} {taken : List String} {column : Column}
    (hcolumn : joinColumn side taken = .ok column) :
    ∃ key, side.primaryKey? = some key ∧ column = side.joinKeyTo key taken := by
  obtain ⟨key, hkey, heq⟩ := bind_eq_ok hcolumn
  exact ⟨key, exists_key_of_ok hkey, (Except.ok.inj heq).symm⟩

/-- The columns of a join table are those of its two sides. -/
theorem joinTableBetween_eq_ok {name : String} {source target join : Table}
    (hjoin : joinTableBetween name source target = .ok join) :
    ∃ first second firstKey secondKey,
      (first = source ∧ second = target ∨ first = target ∧ second = source) ∧
      first.primaryKey? = some firstKey ∧ second.primaryKey? = some secondKey ∧
      join = joinTableOf name first second firstKey secondKey := by
  have hsides : ∀ first second : Table, (do
      let firstColumn ← joinColumn first []
      let secondColumn ← joinColumn second [firstColumn.name]
      return {
        name
        columns := [firstColumn, secondColumn]
        elementId := none
        parent := none
        isAbstract := false
        methods := [] } : Except ModelFault Table) = .ok join →
      ∃ firstKey secondKey, first.primaryKey? = some firstKey ∧
        second.primaryKey? = some secondKey ∧
        join = joinTableOf name first second firstKey secondKey := by
    intro first second hok
    obtain ⟨firstColumn, hfirst, hrest⟩ := bind_eq_ok hok
    obtain ⟨secondColumn, hsecond, heq⟩ := bind_eq_ok hrest
    obtain ⟨firstKey, hfirstKey, rfl⟩ := joinColumn_eq_ok hfirst
    obtain ⟨secondKey, hsecondKey, rfl⟩ := joinColumn_eq_ok hsecond
    exact ⟨firstKey, secondKey, hfirstKey, hsecondKey, (Except.ok.inj heq).symm⟩
  rw [joinTableBetween] at hjoin
  split at hjoin
  rename_i first second heq
  obtain ⟨firstKey, secondKey, hkeys⟩ := hsides first second hjoin
  refine ⟨first, second, firstKey, secondKey, ?_, hkeys⟩
  split at heq
  · exact .inl ⟨(congrArg Prod.fst heq).symm, (congrArg Prod.snd heq).symm⟩
  · exact .inr ⟨(congrArg Prod.fst heq).symm, (congrArg Prod.snd heq).symm⟩

/-- The stem of a joined name is the name of the table, and the stem of a numbered one has the
number behind it. So it is with all columns that are made to refer to a table with a name: foreign
keys, and the two keys of a join table. -/
theorem associationStem_inverts :
    (∀ table key : String, table ≠ "" →
      associationStem (table ++ "_" ++ key) key = table ∧
        ∀ n, 2 ≤ n → associationStem (table ++ "_" ++ key ++ "_" ++ toString n) key =
          table ++ "_" ++ toString n) ∧
    (∀ (owner referenced : Table) (nullable unique : Bool) (column : Column),
      foreignKeyColumn owner referenced nullable unique = .ok column → referenced.name ≠ "" →
        column.IsNamedAfter referenced owner) ∧
    ∀ (name : String) (source target join : Table),
      joinTableBetween name source target = .ok join →
        ∀ column ∈ join.columns, ∃ referenced, (referenced = source ∨ referenced = target) ∧
          (referenced.name ≠ "" → column.IsNamedAfter referenced join) := by
  refine ⟨fun table key htable => ⟨associationStem_reference htable key, fun n hleast => ?_⟩,
    fun owner referenced nullable unique column hcolumn hname => ?_,
    fun name source target join hjoin column hmem => ?_⟩
  · have hmarked := associationStem_marked htable key (.numbered n hleast)
    rwa [← String.append_assoc, ← String.append_assoc] at hmarked
  · obtain ⟨key, hkey, rfl⟩ := foreignKeyColumn_eq_ok hcolumn
    exact isNamedAfter_of_freshName owner.columnNames hname hkey rfl rfl nofun
  · obtain ⟨first, second, firstKey, secondKey, hsides, hfirst, hsecond, rfl⟩ :=
      joinTableBetween_eq_ok hjoin
    rw [joinTableOf, List.mem_cons, List.mem_singleton] at hmem
    rcases hmem with rfl | rfl
    · exact ⟨first, hsides.imp And.left And.left, fun hname =>
        isNamedAfter_of_freshName [] hname hfirst rfl rfl fun _ => rfl⟩
    · exact ⟨second, (hsides.imp And.right And.right).symm, fun hname =>
        isNamedAfter_of_freshName [(first.joinKeyTo firstKey []).name] hname hsecond rfl rfl
          fun _ => rfl⟩

/-- A table whose key has a number for its name. -/
def seatTable : Table where
  name := "seat"
  columns := [{ surrogateKey with name := "2" }]
  elementId := some "1"
  parent := none
  isAbstract := false
  methods := []

/-- A table that has a column with the name that a reference to a seat wants to have. -/
def ticketTable : Table where
  name := "ticket"
  columns := [surrogateKey, { surrogateKey with name := "seat_2", primaryKey := false }]
  elementId := some "2"
  parent := none
  isAbstract := false
  methods := []

/-- The key's name cannot be told from the number of the column, and the stem is right all the
same. -/
theorem associationStem_inverts_seats :
    seatTable.name ≠ "" ∧
      associationStem "seat_2_2" "2" = "seat_2" ∧
      (∃ column, foreignKeyColumn ticketTable seatTable false false = .ok column ∧
        column.name = "seat_2_2" ∧ column.IsNamedAfter seatTable ticketTable) ∧
      ∃ join, joinTableBetween "seat_seat" seatTable seatTable = .ok join ∧
        join.columnNames = ["seat_2", "seat_2_2"] ∧
        ∀ column ∈ join.columns, column.IsNamedAfter seatTable join := by
  have hname : seatTable.name ≠ "" := by decide
  have hkey : seatTable.primaryKey? = some { surrogateKey with name := "2" } := rfl
  have hcolumn : foreignKeyColumn ticketTable seatTable false false =
      .ok (ticketTable.foreignKeyTo seatTable { surrogateKey with name := "2" } false false) := rfl
  have hjoin : joinTableBetween "seat_seat" seatTable seatTable = .ok (joinTableOf "seat_seat"
      seatTable seatTable { surrogateKey with name := "2" }
        { surrogateKey with name := "2" }) := by
    decide +kernel
  refine ⟨hname, (associationStem_inverts.1 "seat" "2" (by decide)).2 2 (Nat.le_refl 2),
    ⟨_, hcolumn, by decide +kernel, associationStem_inverts.2.1 _ _ _ _ _ hcolumn hname⟩,
    _, hjoin, by decide +kernel, fun column hmem => ?_⟩
  obtain ⟨referenced, hsides, hnamed⟩ := associationStem_inverts.2.2 _ _ _ _ hjoin column hmem
  obtain rfl : referenced = seatTable := hsides.elim id id
  exact hnamed hname

end ClassDiagram
