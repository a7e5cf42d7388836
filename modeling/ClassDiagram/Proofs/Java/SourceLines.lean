import ClassDiagram.Java.EntityClass
import ClassDiagram.Java.RepositoryInterface
import ClassDiagram.Proofs.Text.Trimming
import Mathlib.Data.List.Infix

/-!
# Lines of sources

The source of a class is a list of lines, and what a line is for can be told by the word that it
opens with. The fields that an entity class declares are the private lines at the first level of its
block, its head is the only public line outside, and what it imports stands in the import lines. In
a repository the finders are the only lines inside the block.
-/

namespace ClassDiagram

open Text

/-! ## Lines of a text -/

/-- A source has these lines, one below the other. -/
def HasLines (source : String) (lines : List String) : Prop :=
  (unlines lines).toList <:+: source.toList

theorem toList_unlines (lines : List String) :
    (unlines lines).toList = lines.flatMap fun line => (line ++ "\n").toList := by
  rw [unlines, String.toList_join, List.flatMap_map]

theorem hasLines_unlines {lines all : List String} (hlines : lines <:+: all) :
    HasLines (unlines all) lines := by
  rw [HasLines, toList_unlines, toList_unlines]
  exact hlines.flatMap _

/-- A line break ends a line, so what stands in front of it in a text ends one of the parts. -/
theorem exists_suffix_of_splitEvery {word : List Char} (hword : '\n' ∉ word)
    (before : List Char) : ∃ part ∈ splitEvery '\n' (before ++ word), word <:+ part := by
  induction before with
  | nil => exact ⟨word, by simp [splitEvery_of_not_mem hword], List.suffix_refl word⟩
  | cons c rest ih =>
    obtain ⟨part, hpart, hsuffix⟩ := ih
    by_cases hc : c = '\n'
    · refine ⟨part, ?_, hsuffix⟩
      rw [hc, List.cons_append, splitEvery_mark_cons]
      exact List.mem_cons_of_mem _ hpart
    · -- the first part grows at its front, so it still ends with the word
      obtain ⟨first, others, hrest, hparts⟩ := exists_splitEvery_cons hc (rest ++ word)
      rw [List.cons_append, hparts]
      rw [hrest, List.mem_cons] at hpart
      rcases hpart with rfl | hothers
      · exact ⟨c :: part, List.mem_cons_self, hsuffix.trans (List.suffix_cons c part)⟩
      · exact ⟨part, List.mem_cons_of_mem _ hothers, hsuffix⟩

theorem splitEvery_unlines {lines : List String} (hlines : ∀ line ∈ lines, '\n' ∉ line.toList) :
    splitEvery '\n' (unlines lines).toList = lines.map String.toList ++ [[]] := by
  induction lines with
  | nil => rfl
  | cons line rest ih =>
    rw [List.forall_mem_cons] at hlines
    rw [toList_unlines, List.flatMap_cons, ← toList_unlines, String.toList_append,
      List.append_assoc]
    change splitEvery '\n' (line.toList ++ '\n' :: (unlines rest).toList) = _
    rw [splitEvery_append_cons, splitEvery_of_not_mem hlines.1, ih hlines.2]
    rfl

/-- A source has a line only where one of its own lines ends with it. -/
theorem exists_suffix_of_hasLines {lines : List String} {line : String}
    (hsource : HasLines (unlines lines) [line]) (hline : '\n' ∉ line.toList)
    (hlines : ∀ line ∈ lines, '\n' ∉ line.toList) :
    ∃ part ∈ "" :: lines, line.toList <:+ part.toList := by
  obtain ⟨before, after, htext⟩ := hsource
  obtain ⟨part, hpart, hsuffix⟩ := exists_suffix_of_splitEvery hline before
  have hmem : part ∈ splitEvery '\n' (unlines lines).toList := by
    rw [← htext, toList_unlines, List.flatMap_singleton, String.toList_append,
      ← List.append_assoc, List.append_assoc]
    change part ∈ splitEvery '\n' (before ++ line.toList ++ '\n' :: after)
    rw [splitEvery_append_cons]
    exact List.mem_append_left _ hpart
  rw [splitEvery_unlines hlines, List.mem_append, List.mem_map, List.mem_singleton] at hmem
  rcases hmem with ⟨own, hown, rfl⟩ | rfl
  · exact ⟨own, List.mem_cons_of_mem _ hown, hsuffix⟩
  · exact ⟨"", List.mem_cons_self, hsuffix⟩

theorem hasLines_sourceFile {lines body : List String} (hlines : lines <:+: body)
    (package : String) (imports : List String) :
    HasLines (sourceFile package imports body) lines :=
  hasLines_unlines (hlines.trans (List.suffix_append _ body).isInfix)

theorem map_indent_infix_block {lines body : List String} (hlines : lines <:+: body)
    (head : String) : lines.map indent <:+: block head body := by
  apply (hlines.map indent).trans
  exact List.infix_append [head ++ " \x7b"] (body.map indent) ["\x7d"]

theorem indent_infix_block {line : String} {body : List String} (hline : line ∈ body)
    (head : String) : [indent line] <:+: block head body :=
  map_indent_infix_block ((List.singleton_infix_iff line body).2 hline) head

/-! ## Opening words -/

def opensWith (word line : String) : Bool :=
  word.toList.isPrefixOf line.toList

theorem opensWith_append (word rest : String) : opensWith word (word ++ rest) = true := by
  rw [opensWith, List.isPrefixOf_iff_prefix, String.toList_append]
  exact List.prefix_append _ _

theorem opensWith_append_right {word line : String} (hopens : opensWith word line = true)
    (rest : String) : opensWith word (line ++ rest) = true := by
  rw [opensWith, List.isPrefixOf_iff_prefix] at hopens ⊢
  rw [String.toList_append]
  exact hopens.trans (List.prefix_append _ _)

theorem opensWith_front_append (front word line : String) :
    opensWith (front ++ word) (front ++ line) = opensWith word line := by
  rw [Bool.eq_iff_iff]
  simp only [opensWith, List.isPrefixOf_iff_prefix, String.toList_append,
    List.prefix_append_right_inj]

/-- Two words of which no line opens with both. -/
def Differ (word other : String) : Prop :=
  opensWith word other = false ∧ opensWith other word = false

instance (word other : String) : Decidable (Differ word other) :=
  inferInstanceAs (Decidable (_ ∧ _))

theorem Differ.opensWith_eq_false {word other line : String} (hdiffer : Differ word other)
    (hopens : opensWith other line = true) : opensWith word line = false := by
  rw [← Bool.not_eq_true]
  intro hword
  simp only [Differ, opensWith, ← Bool.not_eq_true, List.isPrefixOf_iff_prefix] at *
  exact (List.prefix_or_prefix_of_prefix hword hopens).elim hdiffer.1 hdiffer.2

theorem Differ.filter_eq_nil {word other : String} (hdiffer : Differ word other)
    {lines : List String} (hlines : ∀ line ∈ lines, line = "" ∨ opensWith other line = true) :
    lines.filter (opensWith word) = [] := by
  rw [List.filter_eq_nil_iff]
  intro line hline hword
  rcases hlines line hline with rfl | hopens
  · simp only [Differ, opensWith, ← Bool.not_eq_true, List.isPrefixOf_iff_prefix] at *
    exact hdiffer.1 (hword.trans List.nil_prefix)
  · rw [hdiffer.opensWith_eq_false hopens] at hword
    cases hword

theorem eq_empty_or_opensWith_indent (line : String) :
    indent line = "" ∨ opensWith "    " (indent line) = true := by
  rw [indent]
  split
  · exact .inl (String.isEmpty_iff.1 ‹_›)
  · exact .inr (opensWith_append _ _)

theorem indent_of_ne_empty {line : String} (hline : line ≠ "") : indent line = "    " ++ line :=
  if_neg fun hempty => hline (String.isEmpty_iff.1 hempty)

/-- No line in a block opens with a word that stands outside of it. -/
theorem Differ.filter_map_indent {word : String} (hdiffer : Differ word "    ")
    (lines : List String) : (lines.map indent).filter (opensWith word) = [] := by
  apply hdiffer.filter_eq_nil
  intro line hline
  obtain ⟨inner, -, rfl⟩ := List.mem_map.1 hline
  exact eq_empty_or_opensWith_indent inner

theorem filter_map_indent {word : String} (hword : opensWith word "" = false)
    (lines : List String) :
    (lines.map indent).filter (opensWith ("    " ++ word)) =
      (lines.filter (opensWith word)).map indent := by
  rw [List.filter_map]
  refine congrArg (List.map indent) (List.filter_congr fun line _ => ?_)
  rw [Function.comp_apply, indent]
  split
  · -- an empty line stays empty, and no word opens it
    obtain rfl : line = "" := String.isEmpty_iff.1 ‹_›
    rw [hword, ← Bool.not_eq_true, opensWith, List.isPrefixOf_iff_prefix, String.toList_append]
    simp
  · exact opensWith_front_append _ _ _

theorem filter_block {word : String} (hindent : Differ word "    ") (hclosing : Differ word "\x7d")
    (head : String) (body : List String) :
    (block head body).filter (opensWith word) = [head ++ " \x7b"].filter (opensWith word) := by
  have hlast : ["\x7d"].filter (opensWith word) = [] :=
    hclosing.filter_eq_nil (by simp [opensWith])
  rw [block, List.filter_append, ← List.singleton_append, List.filter_append,
    hindent.filter_map_indent, hlast, List.append_nil, List.append_nil]

/-- A public block has no private line at its own level. -/
theorem filter_private_block {head : String} (hhead : opensWith "public " head = true)
    (body : List String) : (block head body).filter (opensWith "private ") = [] := by
  rw [filter_block (by decide) (by decide)]
  have hdiffer : Differ "private " "public " := by decide
  apply hdiffer.filter_eq_nil
  rw [List.forall_mem_singleton]
  exact .inr (opensWith_append_right hhead _)

/-! ## Parts of a source -/

/-- The lines of a source in front of its class. -/
def openingLines (package : String) (imports : List String) : List String :=
  ["package " ++ package ++ ";", ""] ++ importLines imports

theorem opensWith_importLine (qualified : String) :
    opensWith "import " (importLine qualified) = true := by
  simp [opensWith, importLine, toString, List.isPrefixOf]

theorem importLine_injective : Function.Injective importLine := by
  intro left right heq
  have hlists := congrArg String.toList heq
  simp only [importLine, toString, String.toList_append, List.append_cancel_left_eq,
    List.append_cancel_right_eq] at hlists
  exact String.toList_injective hlists

/-- The import lines are those of the imports. -/
theorem mem_importLines_iff {imports : List String} {line : String} (hline : line ≠ "") :
    line ∈ importLines imports ↔ ∃ qualified ∈ imports, importLine qualified = line := by
  have hgroup (names : List String) :
      line ∈ (if (names.map importLine).isEmpty then [] else names.map importLine ++ [""]) ↔
        ∃ qualified ∈ names, importLine qualified = line := by
    cases names <;> simp [hline, eq_comm]
  unfold importLines
  simp only [List.mem_append, hgroup, List.mem_filter, List.mem_mergeSort, List.mem_eraseDups]
  grind

theorem importLine_mem_importLines_iff {imports : List String} {qualified : String} :
    importLine qualified ∈ importLines imports ↔ qualified ∈ imports := by
  rw [mem_importLines_iff (by simp [importLine, toString])]
  simp [importLine_injective.eq_iff]

theorem importLine_mem_openingLines_iff {package : String} {imports : List String}
    {qualified : String} :
    importLine qualified ∈ openingLines package imports ↔ qualified ∈ imports := by
  have hother : importLine qualified ∉ ["package " ++ package ++ ";", ""] := by
    intro hmem
    have hlists : (importLine qualified).toList ∈
        ["package " ++ package ++ ";", ""].map String.toList := List.mem_map_of_mem hmem
    simp [importLine, toString] at hlists
  rw [openingLines, List.mem_append, or_iff_right hother, importLine_mem_importLines_iff]

theorem filter_openingLines {word : String} (hpackage : Differ word "package ")
    (himport : Differ word "import ") (package : String) (imports : List String) :
    (openingLines package imports).filter (opensWith word) = [] := by
  rw [openingLines, List.filter_append, List.append_eq_nil_iff]
  constructor
  · apply hpackage.filter_eq_nil
    simp [opensWith]
  · apply himport.filter_eq_nil
    intro line hmem
    refine or_iff_not_imp_left.2 fun hline => ?_
    obtain ⟨qualified, -, rfl⟩ := (mem_importLines_iff hline).1 hmem
    exact opensWith_importLine qualified

/-! ## Entity classes -/

/-- The line that declares a field. -/
def Field.line (field : Field) : String :=
  "    private " ++ field.javaType ++ " " ++ field.name
    ++ (if field.isCollection then " = new ArrayList<>()" else "") ++ ";"

theorem Field.indent_declaration (field : Field) : indent field.declaration = field.line := by
  apply String.toList_injective
  unfold declaration line
  simp [indent, toString, String.append_assoc]

/-- The lines of a field in a class. -/
def Field.lines (field : Field) : List String :=
  "" :: field.kind.annotations.map indent ++ [field.line]

theorem Field.lines_eq (field : Field) :
    field.lines = ("" :: field.kind.annotations ++ [field.declaration]).map indent := by
  rw [List.map_append, List.map_singleton, indent_declaration]
  rfl

namespace FieldKind

/-- An annotation of several lines has its settings indented and its end in a line of its own. -/
theorem head?_of_mem_annotations (kind : FieldKind) :
    ∀ line ∈ kind.annotations, line.toList.head? ∈ [some '@', some ' ', some ')'] := by
  unfold annotations
  cases kind with
  | key column generated => cases generated <;> simp [toString]
  | scalar column nullable unique enumerated => cases enumerated <;> simp
  | _ => simp [toString]

variable {kind : FieldKind} {line : String}

theorem ne_empty_of_mem_annotations (hline : line ∈ kind.annotations) : line ≠ "" := by
  rintro rfl
  have hhead := kind.head?_of_mem_annotations "" hline
  revert hhead
  decide

theorem opensWith_private_of_mem_annotations (hline : line ∈ kind.annotations) :
    opensWith "private " line = false := by
  rw [← Bool.not_eq_true, opensWith, List.isPrefixOf_iff_prefix]
  rintro ⟨rest, heq⟩
  have hhead := kind.head?_of_mem_annotations line hline
  rw [← heq] at hhead
  simp at hhead

end FieldKind

theorem Field.filter_lines (field : Field) :
    field.lines.filter (opensWith "    private ") = [field.line] := by
  have hannotations :
      (field.kind.annotations.map indent).filter (opensWith "    private ") = [] := by
    rw [show "    private " = "    " ++ "private " by decide, filter_map_indent (by decide),
      List.filter_eq_nil_iff.2 fun line hline => ?_, List.map_nil]
    rw [FieldKind.opensWith_private_of_mem_annotations hline]
    exact Bool.false_ne_true
  have hline : opensWith "    private " field.line = true := by
    unfold line
    simp [opensWith]
  rw [lines, List.filter_append, List.filter_cons_of_neg (by decide), hannotations,
    List.filter_cons_of_pos hline]
  rfl

namespace Entity

/-- The line that opens a class. -/
def headLine (entity : Entity) : String :=
  "public " ++ (if entity.table.isAbstract then "abstract " else "") ++ "class " ++ entity.typeName
    ++ (match entity.table.parent with
      | some parent => " extends " ++ ClassDiagram.typeName parent
      | none => "") ++ " \x7b"

theorem opensWith_headLine (entity : Entity) : opensWith "public " entity.headLine = true := by
  unfold headLine
  simp [opensWith]

theorem filter_headLine {word : String} (hdiffer : Differ word "public ") (entity : Entity) :
    [entity.headLine].filter (opensWith word) = [] := by
  apply hdiffer.filter_eq_nil
  rw [List.forall_mem_singleton]
  exact .inr entity.opensWith_headLine

/-- What a class has behind its fields. -/
def members (entity : Entity) : List String :=
  "" :: block s!"public {entity.typeName}()" []
    ++ (entity.declaredFields.flatMap fun field => field.property.accessors)
    ++ if entity.table.isJoin then "" :: keyClass (entity.keyFields.map Field.property) else []

/-- Only fields are declared private at the first level of a class. -/
theorem filter_members (entity : Entity) : entity.members.filter (opensWith "private ") = [] := by
  have hempty (lines : List String) :
      ("" :: lines).filter (opensWith "private ") = lines.filter (opensWith "private ") :=
    List.filter_cons_of_neg (by decide)
  have haccessors (property : Property) :
      property.accessors.filter (opensWith "private ") = [] := by
    rw [Property.accessors, List.filter_append, hempty, hempty,
      filter_private_block (by simp [opensWith, toString]),
      filter_private_block (by simp [opensWith, toString])]
    rfl
  have hkeyClass : (if entity.table.isJoin then
      "" :: keyClass (entity.keyFields.map Field.property) else []).filter
        (opensWith "private ") = [] := by
    split
    · rw [hempty, keyClass, filter_private_block (by decide)]
    · rfl
  rw [members, List.filter_append, List.filter_append, hempty, List.filter_flatMap, hkeyClass,
    filter_private_block (by simp [opensWith, toString])]
  simp [haccessors]

end Entity

namespace Backend

/-- What the class of an entity imports. -/
def entityImports (backend : Backend) (entity : Entity) : List String :=
  "jakarta.persistence.*" :: entity.declaredFields.flatMap backend.fieldImports
    ++ if entity.table.isJoin then keyClassImports else []

/-- The lines of the class of an entity behind the imports. -/
def classLines (backend : Backend) (entity : Entity) : List String :=
  backend.classAnnotations entity
    ++ entity.headLine :: entity.declaredFields.flatMap Field.lines
    ++ entity.members.map indent ++ ["\x7d"]

/-- The lines of the source of an entity class. -/
def entityLines (backend : Backend) (entity : Entity) : List String :=
  openingLines (backend.project.package "entity") (backend.entityImports entity)
    ++ backend.classLines entity

/-- The source of the class of an entity. -/
theorem entityClass_eq (backend : Backend) (entity : Entity) :
    backend.entityClass entity = unlines (backend.entityLines entity) := by
  have hhead : entity.classHead ++ " \x7b" = entity.headLine := by
    unfold Entity.classHead Entity.headLine Entity.parentType?
    cases entity.table.parent <;> rfl
  have hfields : (entity.declaredFields.flatMap fun field =>
      "" :: field.kind.annotations ++ [field.declaration]).map indent =
        entity.declaredFields.flatMap Field.lines := by
    rw [List.map_flatMap]
    exact List.flatMap_congr fun field _ => field.lines_eq.symm
  have hlines (annotations fields constructor accessors keys : List String) (head : String) :
      annotations ++ ((head :: (fields ++ constructor ++ accessors ++ keys).map indent)
        ++ ["\x7d"]) =
        annotations ++ head :: fields.map indent ++
          (constructor ++ accessors ++ keys).map indent ++ ["\x7d"] := by
    simp
  rw [entityLines, classLines, ← hhead, ← hfields, Entity.members, ← hlines]
  rfl

theorem hasLines_entityClass (backend : Backend) {entity : Entity} {line : String}
    (hline : line ∈ backend.entityLines entity) :
    HasLines (backend.entityClass entity) [line] := by
  rw [entityClass_eq]
  exact hasLines_unlines ((List.singleton_infix_iff line _).2 hline)

theorem opensWith_classAnnotations (backend : Backend) (entity : Entity) :
    ∀ line ∈ backend.classAnnotations entity, opensWith "@" line = true := by
  have hparentKey (key : Column) : opensWith "@" (parentKeyLine key) = true := by
    unfold parentKeyLine
    simp [opensWith, toString]
  unfold classAnnotations
  simp only [List.forall_mem_append]
  refine ⟨⟨⟨?_, ?_⟩, ?_⟩, ?_⟩
  · simp [opensWith]
  · split <;> simp [opensWith, toString]
  · split <;> simp [opensWith]
  · split
    · simpa using hparentKey _
    · exact List.forall_mem_nil _

theorem filter_classAnnotations {word : String} (hdiffer : Differ word "@") (backend : Backend)
    (entity : Entity) : (backend.classAnnotations entity).filter (opensWith word) = [] :=
  hdiffer.filter_eq_nil fun line hline =>
    .inr (backend.opensWith_classAnnotations entity line hline)

/-- Outside the block of a class its lines are those in front of it. -/
theorem filter_entityLines (backend : Backend) (entity : Entity) {word : String}
    (hindent : Differ word "    ") (hclosing : Differ word "\x7d") :
    (backend.entityLines entity).filter (opensWith word) =
      (openingLines (backend.project.package "entity")
          (backend.entityImports entity)).filter (opensWith word) ++
        ((backend.classAnnotations entity).filter (opensWith word) ++
          [entity.headLine].filter (opensWith word)) := by
  have hlast : ["\x7d"].filter (opensWith word) = [] :=
    hclosing.filter_eq_nil (by simp [opensWith])
  have hfields : (entity.declaredFields.flatMap Field.lines).filter (opensWith word) = [] := by
    rw [List.filter_flatMap, List.flatMap_eq_nil_iff]
    intro field _
    rw [Field.lines_eq]
    exact hindent.filter_map_indent _
  rw [entityLines, classLines, ← List.singleton_append]
  simp only [List.filter_append, hfields, hindent.filter_map_indent, hlast, List.append_nil,
    List.append_assoc]

theorem lines_infix_entityLines (backend : Backend) {entity : Entity} {field : Field}
    (hmem : field ∈ entity.declaredFields) : field.lines <:+: backend.entityLines entity := by
  have hfields : field.lines <:+: entity.declaredFields.flatMap Field.lines :=
    List.infix_of_mem_flatten (List.mem_map_of_mem hmem)
  have hblock := hfields.trans (List.suffix_cons entity.headLine _).isInfix
  have hclass : field.lines <:+: backend.classLines entity := by
    rw [classLines, List.append_assoc]
    exact hblock.trans (List.infix_append _ _ _)
  exact hclass.trans (List.suffix_append _ _).isInfix

/-- The private lines at the first level are the declarations of the fields. -/
theorem filter_private_entityLines (backend : Backend) (entity : Entity) :
    (backend.entityLines entity).filter (opensWith "    private ") =
      entity.declaredFields.map Field.line := by
  have hfields : (entity.declaredFields.flatMap Field.lines).filter (opensWith "    private ") =
      entity.declaredFields.map Field.line := by
    rw [List.filter_flatMap, List.map_eq_flatMap]
    exact List.flatMap_congr fun field _ => field.filter_lines
  -- the fields of a key class are private too, but one level deeper
  have hmembers : (entity.members.map indent).filter (opensWith "    private ") = [] := by
    rw [show "    private " = "    " ++ "private " by decide, filter_map_indent (by decide),
      entity.filter_members, List.map_nil]
  rw [entityLines, classLines, ← List.singleton_append]
  simp only [List.filter_append, hfields, hmembers]
  rw [filter_openingLines (by decide) (by decide), filter_classAnnotations (by decide),
    Entity.filter_headLine (by decide)]
  simp [opensWith]

/-- The source of the class of an entity declares these fields and no others. -/
structure WritesFields (backend : Backend) (entity : Entity) (fields : List Field) : Prop where
  source : backend.entityClass entity = unlines (backend.entityLines entity)
  declared : (backend.entityLines entity).filter (opensWith "    private ") = fields.map Field.line

theorem writesFields_declaredFields (backend : Backend) (entity : Entity) :
    backend.WritesFields entity entity.declaredFields :=
  ⟨backend.entityClass_eq entity, backend.filter_private_entityLines entity⟩

theorem hasLines_line (backend : Backend) {entity : Entity} {field : Field}
    (hmem : field ∈ entity.declaredFields) :
    HasLines (backend.entityClass entity) [field.line] := by
  apply backend.hasLines_entityClass
  apply (backend.lines_infix_entityLines hmem).mem
  exact List.mem_append_right _ (List.mem_singleton_self _)

/-- The public line outside the block is the head of the class. -/
theorem filter_public_entityLines (backend : Backend) (entity : Entity) :
    (backend.entityLines entity).filter (opensWith "public ") = [entity.headLine] := by
  rw [filter_entityLines _ _ (by decide) (by decide), filter_openingLines (by decide) (by decide),
    filter_classAnnotations (by decide), List.filter_cons_of_pos entity.opensWith_headLine]
  rfl

theorem hasLines_headLine (backend : Backend) (entity : Entity) :
    HasLines (backend.entityClass entity) [entity.headLine] := by
  have hhead : entity.headLine ∈ (backend.entityLines entity).filter (opensWith "public ") := by
    rw [filter_public_entityLines]
    exact List.mem_singleton_self _
  exact backend.hasLines_entityClass (List.mem_filter.1 hhead).1

theorem filter_annotation_entityLines (backend : Backend) (entity : Entity) :
    (backend.entityLines entity).filter (opensWith "@") = backend.classAnnotations entity := by
  rw [filter_entityLines _ _ (by decide) (by decide), filter_openingLines (by decide) (by decide),
    Entity.filter_headLine (by decide), List.append_nil]
  exact List.filter_eq_self.2 (backend.opensWith_classAnnotations entity)

theorem mem_classAnnotations_iff (backend : Backend) (entity : Entity) {line : String}
    (hopens : opensWith "@" line = true) :
    line ∈ backend.classAnnotations entity ↔ line ∈ backend.entityLines entity := by
  rw [← filter_annotation_entityLines, List.mem_filter, and_iff_left hopens]

theorem importLine_mem_entityLines_iff (backend : Backend) (entity : Entity) (qualified : String) :
    importLine qualified ∈ backend.entityLines entity ↔
      qualified ∈ backend.entityImports entity := by
  have hmem (lines : List String) :
      importLine qualified ∈ lines ↔ importLine qualified ∈ lines.filter (opensWith "import ") := by
    rw [List.mem_filter, and_iff_left (opensWith_importLine qualified)]
  rw [hmem, filter_entityLines _ _ (by decide) (by decide), filter_classAnnotations (by decide),
    Entity.filter_headLine (by decide), List.append_nil, List.append_nil, ← hmem,
    importLine_mem_openingLines_iff]

/-- What holds of the lines of a class holds of those of its source, if it holds of the lines in
front. -/
theorem forall_mem_entityLines {backend : Backend} {entity : Entity} {p : String → Prop}
    (hpackage : p ("package " ++ backend.project.package "entity" ++ ";")) (hempty : p "")
    (himports : ∀ qualified ∈ backend.entityImports entity, p (importLine qualified))
    (hclass : ∀ line ∈ backend.classLines entity, p line) :
    ∀ line ∈ backend.entityLines entity, p line := by
  have hgroups : ∀ line ∈ importLines (backend.entityImports entity), p line := by
    intro line hmem
    by_cases hline : line = ""
    · exact hline ▸ hempty
    · obtain ⟨qualified, hqualified, rfl⟩ := (mem_importLines_iff hline).1 hmem
      exact himports qualified hqualified
  rw [entityLines, openingLines, List.forall_mem_append, List.forall_mem_append,
    List.forall_mem_cons, List.forall_mem_singleton]
  exact ⟨⟨⟨hpackage, hempty⟩, hgroups⟩, hclass⟩

end Backend

/-! ## Repositories -/

/-- The line that declares a finder. -/
def Finder.sourceLine (finder : Finder) (typeName : String) : String :=
  "    List<" ++ typeName ++ "> " ++ finder.name ++ "(" ++ finder.parameter.javaType ++ " "
    ++ finder.parameter.name ++ ");"

theorem Finder.indent_line (finder : Finder) (typeName : String) :
    indent (finder.line typeName) = finder.sourceLine typeName := by
  apply String.toList_injective
  unfold line sourceLine listOf
  simp [indent, toString, String.append_assoc]

namespace Backend

/-- What the repository of an entity imports. -/
def repositoryImports (backend : Backend) (entity : Entity) : List String :=
  [backend.qualified "entity" entity.typeName,
    "org.springframework.data.jpa.repository.JpaRepository",
    "org.springframework.stereotype.Repository"]
    ++ (if entity.table.isJoin then []
      else backend.importsOf (backend.keyType entity.table.name))
    ++ ((backend.finders entity).flatMap fun finder =>
      backend.importsOf finder.parameter.javaType)
    ++ if (backend.finders entity).isEmpty then [] else ["java.util.List"]

/-- The lines of the repository of an entity. -/
def repositoryLines (backend : Backend) (entity : Entity) : List String :=
  openingLines (backend.project.package "repository") (backend.repositoryImports entity)
    ++ ["@Repository",
      "public interface " ++ repositoryType entity.typeName ++ " extends JpaRepository<"
        ++ entity.typeName ++ ", "
        ++ (if entity.table.isJoin then entity.typeName ++ ".Key"
          else backend.keyType entity.table.name) ++ "> \x7b"]
    ++ ((backend.finders entity).flatMap fun finder => ["", finder.sourceLine entity.typeName])
    ++ ["\x7d"]

/-- The source of the repository of an entity. -/
theorem repositoryInterface_eq (backend : Backend) (entity : Entity) :
    backend.repositoryInterface entity = unlines (backend.repositoryLines entity) := by
  have hhead (name keyText : String) :
      s!"public interface {repositoryType name} extends JpaRepository<{name}, {keyText}>"
          ++ " \x7b" =
        "public interface " ++ repositoryType name ++ " extends JpaRepository<" ++ name ++ ", "
          ++ keyText ++ "> \x7b" := by
    apply String.toList_injective
    simp [toString]
  have hfinders : ((backend.finders entity).flatMap fun finder =>
      ["", finder.line entity.typeName]).map indent =
        (backend.finders entity).flatMap fun finder => ["", finder.sourceLine entity.typeName] := by
    rw [List.map_flatMap]
    refine List.flatMap_congr fun finder _ => ?_
    rw [List.map_cons, List.map_singleton, Finder.indent_line]
    rfl
  rw [repositoryLines, ← hhead, ← hfinders, List.append_assoc, List.append_assoc]
  rfl

/-- The indented lines are the finders. -/
theorem filter_repositoryLines (backend : Backend) (entity : Entity) :
    (backend.repositoryLines entity).filter (opensWith "    ") =
      (backend.finders entity).map fun finder => finder.sourceLine entity.typeName := by
  have hfinders : ((backend.finders entity).flatMap fun finder =>
      ["", finder.sourceLine entity.typeName]).filter (opensWith "    ") =
        (backend.finders entity).map fun finder => finder.sourceLine entity.typeName := by
    rw [List.filter_flatMap, List.map_eq_flatMap]
    refine List.flatMap_congr fun finder _ => ?_
    have hline : opensWith "    " (finder.sourceLine entity.typeName) = true := by
      unfold Finder.sourceLine
      simp [opensWith]
    rw [List.filter_cons_of_neg (by decide), List.filter_cons_of_pos hline]
    rfl
  rw [repositoryLines]
  simp only [List.filter_append, hfinders]
  rw [filter_openingLines (by decide) (by decide)]
  simp [opensWith]

/-- The source of the repository of an entity declares these finders and no others. -/
structure WritesFinders (backend : Backend) (entity : Entity) (finders : List Finder) : Prop where
  source : backend.repositoryInterface entity = unlines (backend.repositoryLines entity)
  declared : (backend.repositoryLines entity).filter (opensWith "    ") =
    finders.map fun finder => finder.sourceLine entity.typeName

theorem writesFinders_finders (backend : Backend) (entity : Entity) :
    backend.WritesFinders entity (backend.finders entity) :=
  ⟨backend.repositoryInterface_eq entity, backend.filter_repositoryLines entity⟩

end Backend

end ClassDiagram
