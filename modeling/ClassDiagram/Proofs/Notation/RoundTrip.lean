import ClassDiagram.Notation.Printer
import ClassDiagram.Proofs.Notation.Members
import ClassDiagram.Proofs.Notation.Relationships

/-!
# Printing and reading diagrams

What a text describes can be written in the notation: names are words, types belong to the grammar,
ids of elements are their names, and relationships are numbered in their order. The printed text of
such a diagram describes it again.
-/

namespace ClassDiagram

open Notation

/-- The element can be written in the notation. -/
inductive Element.HasNotation : Element → Prop
  | classLike {name : String} {kind : ElementKind} {attributes : List Attribute}
      {methods : List Method} (hname : IsName name) (hkind : kind ≠ .enumKind)
      (hattributes : ∀ declared ∈ attributes, declared.HasNotation)
      (hmethods : ∀ declared ∈ methods, declared.HasNotation) :
      HasNotation
        { id := name
          className := name
          attributes := attributes.map Attribute.text
          methods := methods.map Method.text
          kind }
  | enumeration {name : String} {constants : List String} (hname : IsName name)
      (hconstants : ∀ constant ∈ constants, IsName constant) :
      HasNotation
        { id := name
          className := name
          attributes := constants
          methods := []
          kind := .enumKind }

structure Diagram.HasNotation (diagram : Diagram) : Prop where
  elements : ∀ element ∈ diagram.elements, element.HasNotation
  relationships : Numbered Relationship.HasNotation 0 diagram.relationships

namespace Notation

/-! ## What is read -/

theorem yields_readClass {kind : ElementKind} (hkind : kind ≠ .enumKind) :
    Yields (readClass kind) Element.HasNotation := by
  intro tokens hspellable
  apply (yields_readIdentifier tokens hspellable).andThen
  intro name hname tokens hspellable
  apply (yields_expectToken _ _ tokens hspellable).andThen
  intro _ _ tokens hspellable
  apply (yields_readBlock (fun _ => yields_readMember) 0 tokens hspellable).map
  intro members hmembers
  rw [numbered_const_iff] at hmembers
  apply Element.HasNotation.classLike hname hkind
  · intro declared hdeclared
    obtain ⟨member, hmember, hsome⟩ := List.mem_filterMap.1 hdeclared
    exact (hmembers member hmember).of_attribute? hsome
  · intro declared hdeclared
    obtain ⟨member, hmember, hsome⟩ := List.mem_filterMap.1 hdeclared
    exact (hmembers member hmember).of_method? hsome

theorem yields_readEnum : Yields readEnum Element.HasNotation := by
  intro tokens hspellable
  apply (yields_readIdentifier tokens hspellable).andThen
  intro name hname tokens hspellable
  apply (yields_expectToken _ _ tokens hspellable).andThen
  intro _ _ tokens hspellable
  apply (yields_readBlock (fun _ => yields_readIdentifier) 0 tokens hspellable).map
  intro constants hconstants
  exact .enumeration hname (numbered_const_iff.1 hconstants)

def Entry.HasNotation (count : Nat) : Entry → Prop
  | .element added => added.HasNotation
  | .relationships added => Numbered Relationship.HasNotation count added

theorem Spellable.dropClassWord {tokens : List Token} (hspellable : Spellable tokens) :
    Spellable (dropClassWord tokens) := by
  unfold Notation.dropClassWord
  split
  · exact hspellable
  · split
    · exact hspellable.tail
    · exact hspellable

theorem yields_readEntry (count : Nat) (keyword : Keyword) :
    Yields (readEntry count keyword) (Entry.HasNotation count) := by
  intro tokens hspellable
  cases keyword with
  | classWord => exact (yields_readClass (by decide) _ hspellable).map fun _ helement => helement
  | abstractWord =>
    exact (yields_readClass (by decide) _ hspellable.dropClassWord).map fun _ helement => helement
  | interfaceWord =>
    exact (yields_readClass (by decide) _ hspellable).map fun _ helement => helement
  | enumWord => exact (yields_readEnum _ hspellable).map fun _ helement => helement
  | relWord =>
    rw [readEntry, readOpeningBrace]
    apply (yields_expectToken _ _ tokens hspellable).andThen
    intro _ _ tokens hspellable
    exact (yields_readBlock yields_readRelationship count tokens hspellable).map
      fun _ hrelationships => hrelationships

theorem hasNotation_addEntry {soFar : Diagram} {entry : Entry} (hsoFar : soFar.HasNotation)
    (hentry : entry.HasNotation soFar.relationships.length) :
    (addEntry soFar entry).HasNotation := by
  cases entry with
  | element element =>
    refine ⟨fun other hother => ?_, hsoFar.relationships⟩
    rcases List.mem_append.1 hother with hbefore | hlast
    · exact hsoFar.elements other hbefore
    · exact List.mem_singleton.1 hlast ▸ hentry
  | relationships relationships =>
    refine ⟨hsoFar.elements, numbered_append.2 ⟨hsoFar.relationships, ?_⟩⟩
    rw [Nat.zero_add]
    exact hentry

theorem gives_readEntries {soFar : Diagram} (hsoFar : soFar.HasNotation) {tokens : List Token}
    (hspellable : Spellable tokens) :
    (readEntries soFar tokens).Gives Diagram.HasNotation := by
  fun_induction readEntries soFar tokens with
  | case1 soFar => exact yields_done hsoFar _ hspellable
  | case2 soFar token rest hkeyword => exact yields_failBefore _ _ hspellable
  | case3 soFar token rest keyword hkeyword count fault houtcome =>
    exact gives_error (yields_readEntry count keyword rest hspellable.tail).rest
  | case4 soFar token rest keyword hkeyword count entry houtcome ih =>
    have hread := yields_readEntry count keyword rest hspellable.tail
    exact ih (hasNotation_addEntry hsoFar (hread.value entry houtcome)) hread.rest

/-! ## What is read back -/

theorem delimits_blockText {head : String} {lines : List String} {front tokens : List Token}
    (hhead : Spells head front)
    (hlines : Delimits (String.join (lines.map fun line => "    " ++ line ++ "\n")) tokens) :
    Delimits (blockText head lines) (front ++ .leftBrace :: (tokens ++ [.rightBrace])) := by
  have hopening : Delimits " \x7b\n" [.leftBrace] := by
    have htext : " \x7b\n" = " " ++ "\x7b" ++ "\n" := by decide
    rw [htext]
    exact (delimits_space.append (delimits_mark rfl rfl)).append delimits_newline
  have hclosing : Delimits "\x7d\n" [.rightBrace] := by
    have htext : "\x7d\n" = "\x7d" ++ "\n" := by decide
    rw [htext]
    exact (delimits_mark rfl rfl).append delimits_newline
  have hblock := ((hhead.append_delimits rfl (by decide) hopening).append hlines).append
    hclosing
  simpa [blockText] using hblock

/-- The keyword of an element, and what may follow it before the name. -/
def kindTokens : ElementKind → List Token
  | .classKind => [.identifier "class"]
  | .abstractKind => [.identifier "abstract", .identifier "class"]
  | .interfaceKind => [.identifier "interface"]
  | .enumKind => [.identifier "enum"]

theorem spells_kindText (kind : ElementKind) : Spells (kindText kind) (kindTokens kind) := by
  have hclass : Spells "class" [.identifier "class"] := spells_identifier (by decide)
  cases kind with
  | classKind => exact hclass
  | interfaceKind | enumKind => exact spells_identifier (by decide)
  | abstractKind =>
    have hword : Spells "abstract" [.identifier "abstract"] := spells_identifier (by decide)
    have htext : kindText .abstractKind = "abstract" ++ " " ++ "class" := by decide
    rw [htext]
    exact (hword.append_delimits rfl (by decide) delimits_space).append_spells hclass

theorem readEntries_of_entry (soFar : Diagram) {keyword : Keyword} {token : Token}
    {tokens rest : List Token} {entry : Entry} (hkeyword : Keyword.ofToken? token = some keyword)
    (hentry : readEntry soFar.relationships.length keyword tokens = done entry rest) :
    readEntries soFar (token :: tokens) = readEntries (addEntry soFar entry) rest := by
  rw [readEntries]
  simp only [hkeyword, hentry, done]

theorem readEntries_kindTokens {soFar : Diagram} {kind : ElementKind} {element : Element}
    {tokens rest : List Token} (hkind : kind ≠ .enumKind)
    (hclass : readClass kind tokens = done element rest) :
    readEntries soFar (kindTokens kind ++ tokens) =
      readEntries (addEntry soFar (.element element)) rest := by
  cases kind with
  | enumKind => exact absurd rfl hkind
  | classKind | abstractKind | interfaceKind =>
    exact readEntries_of_entry soFar rfl (congrArg (Reading.map Entry.element) hclass)

theorem readClass_of_block (kind : ElementKind) (name : String) {tokens rest : List Token}
    {members : List Member}
    (hblock : readBlock (fun _ => readMember) (fun _ => advances_readMember) 0 tokens =
      done members rest) :
    readClass kind (.identifier name :: .leftBrace :: tokens) = done
      { id := name
        className := name
        attributes := (members.filterMap Member.attribute?).map Attribute.text
        methods := (members.filterMap Member.method?).map Method.text
        kind } rest := by
  simp only [done] at hblock
  simp [readClass, readIdentifier, readOpeningBrace, expectToken, Reading.andThen, done, hblock,
    Reading.map]

theorem readEnum_of_block (name : String) {tokens rest : List Token} {constants : List String}
    (hblock : readBlock (fun _ => readIdentifier) (fun _ => advances_readIdentifier) 0 tokens =
      done constants rest) :
    readEnum (.identifier name :: .leftBrace :: tokens) = done
      { id := name
        className := name
        attributes := constants
        methods := []
        kind := .enumKind } rest := by
  simp only [done] at hblock
  simp [readEnum, readIdentifier, readOpeningBrace, expectToken, Reading.andThen, done, hblock,
    Reading.map]

/-- The text of an element is read as this element, wherever in a diagram it stands. -/
def ReadsElement (element : Element) : Prop :=
  ∃ tokens, Delimits (elementText element) tokens ∧ ∀ soFar rest,
    readEntries soFar (tokens ++ rest) = readEntries (addEntry soFar (.element element)) rest

theorem spells_head (kind : ElementKind) {name : String} (hname : IsName name) :
    Spells (kindText kind ++ " " ++ name) (kindTokens kind ++ [.identifier name]) := by
  have hkind := (spells_kindText kind).append_delimits rfl (by decide) delimits_space
  simpa using hkind.append_spells (spells_identifier hname)

theorem readsElement_classLike {name : String} {kind : ElementKind} {attributes : List Attribute}
    {methods : List Method} (hname : IsName name) (hkind : kind ≠ .enumKind)
    (hattributes : ∀ declared ∈ attributes, declared.HasNotation)
    (hmethods : ∀ declared ∈ methods, declared.HasNotation) :
    ReadsElement
      { id := name
        className := name
        attributes := attributes.map Attribute.text
        methods := methods.map Method.text
        kind } := by
  let members := attributes.map Member.attribute ++ methods.map Member.method
  have hmembers : ∀ member ∈ members, ReadsLine readMember member member.text := by
    intro member hmember
    rcases List.mem_append.1 hmember with hmember | hmember
    · obtain ⟨declared, hdeclared, rfl⟩ := List.mem_map.1 hmember
      exact readsLine_attribute (hattributes declared hdeclared)
    · obtain ⟨declared, hdeclared, rfl⟩ := List.mem_map.1 hmember
      exact readsLine_method (hmethods declared hdeclared)
  have htexts : members.map Member.text =
      attributes.map Attribute.text ++ methods.map Method.text := by
    rw [List.map_append, List.map_map, List.map_map]
    rfl
  have hattributesOf : members.filterMap Member.attribute? = attributes := by
    simp [members, Function.comp_def, Member.attribute?]
  have hmethodsOf : members.filterMap Member.method? = methods := by
    simp [members, Function.comp_def, Member.method?]
  obtain ⟨tokens, hdelimits, -, hread⟩ := readsBack_block (fun _ => advances_readMember)
    Member.text (numbered_const_iff.2 hmembers : Numbered _ 0 members)
  have hlines : Delimits (String.join ((attributes.map Attribute.text ++
      methods.map Method.text).map fun line => "    " ++ line ++ "\n")) tokens := by
    rw [← htexts, List.map_map]
    exact hdelimits
  refine ⟨_, delimits_blockText (spells_head kind hname) hlines, fun soFar rest => ?_⟩
  have hclass := readClass_of_block kind name (hread [] rest nofun)
  rw [hattributesOf, hmethodsOf] at hclass
  simpa using readEntries_kindTokens hkind hclass

theorem readsElement_enumeration {name : String} {constants : List String} (hname : IsName name)
    (hconstants : ∀ constant ∈ constants, IsName constant) :
    ReadsElement
      { id := name
        className := name
        attributes := constants
        methods := []
        kind := .enumKind } := by
  obtain ⟨tokens, hdelimits, -, hread⟩ := readsBack_block (fun _ => advances_readIdentifier) id
    (numbered_const_iff.2 fun constant hmem => readsLine_identifier (hconstants constant hmem) :
      Numbered _ 0 constants)
  have hlines : Delimits (String.join ((constants ++ []).map fun line =>
      "    " ++ line ++ "\n")) tokens := by
    rw [List.append_nil]
    exact hdelimits
  refine ⟨_, delimits_blockText (spells_head .enumKind hname) hlines, fun soFar rest => ?_⟩
  have henum := readEnum_of_block name (hread [] rest nofun)
  have hentry := readEntries_of_entry soFar
    (rfl : Keyword.ofToken? (.identifier "enum") = some .enumWord)
    (congrArg (Reading.map Entry.element) henum)
  simpa [kindTokens, done] using hentry

theorem readsElement {element : Element} (helement : element.HasNotation) :
    ReadsElement element := by
  cases helement with
  | classLike hname hkind hattributes hmethods =>
    exact readsElement_classLike hname hkind hattributes hmethods
  | enumeration hname hconstants => exact readsElement_enumeration hname hconstants

/-- The texts of elements one after the other are read as these elements. -/
theorem readsElements {elements : List Element}
    (helements : ∀ element ∈ elements, element.HasNotation) :
    ∃ tokens, Delimits (String.join (elements.map elementText)) tokens ∧ ∀ soFar rest,
      readEntries soFar (tokens ++ rest) =
        readEntries { soFar with elements := soFar.elements ++ elements } rest := by
  induction elements with
  | nil =>
    refine ⟨[], delimits_empty, fun soFar rest => ?_⟩
    rw [List.append_nil]
    rfl
  | cons element others ih =>
    rw [List.forall_mem_cons] at helements
    obtain ⟨front, hfront, hfirst⟩ := readsElement helements.1
    obtain ⟨tokens, hdelimits, hothers⟩ := ih helements.2
    refine ⟨front ++ tokens, ?_, fun soFar rest => ?_⟩
    · rw [List.map_cons, String.join_cons]
      exact hfront.append hdelimits
    · rw [List.append_assoc, hfirst, hothers, addEntry, List.append_assoc, List.singleton_append]

/-- The block of relationships is read as these relationships at the end of a diagram that has none
yet. -/
theorem readsRelationships {relationships : List Relationship}
    (hrelationships : Numbered Relationship.HasNotation 0 relationships) :
    ∃ tokens, Delimits (blockText "rel" (relationships.map relationshipText)) tokens ∧
      ∀ elements, readEntries { elements, relationships := [] } tokens =
        done { elements, relationships } [] := by
  obtain ⟨tokens, hdelimits, -, hread⟩ := readsBack_block advances_readRelationship
    relationshipText (hrelationships.imp fun _ _ => readsLine_relationship)
  have hword : Spells "rel" [.identifier "rel"] := spells_identifier (by decide)
  have hlines : Delimits (String.join ((relationships.map relationshipText).map fun line =>
      "    " ++ line ++ "\n")) tokens := by
    rw [List.map_map]
    exact hdelimits
  refine ⟨_, delimits_blockText hword hlines, fun elements => ?_⟩
  have hblock : readEntry 0 .relWord (.leftBrace :: (tokens ++ [Token.rightBrace])) =
      done (.relationships relationships) [] :=
    congrArg (Reading.map Entry.relationships) (hread [] [] nofun)
  have hentry : readEntries { elements, relationships := [] }
      (.identifier "rel" :: .leftBrace :: (tokens ++ [Token.rightBrace])) =
        readEntries { elements, relationships := [] ++ relationships } [] :=
    readEntries_of_entry { elements, relationships := [] }
      (rfl : Keyword.ofToken? (.identifier "rel") = some .relWord) hblock
  rw [List.singleton_append, hentry, List.nil_append, readEntries]

end Notation

/-- What a text describes can be written in the notation. -/
theorem Diagram.hasNotation_of_ofNotation {text : String} {diagram : Diagram}
    (hread : Diagram.ofNotation text = .ok diagram) : diagram.HasNotation := by
  rw [ofNotation] at hread
  split at hread
  · cases hread
  · rename_i found htokens
    have hempty : Diagram.HasNotation { elements := [], relationships := [] } :=
      ⟨nofun, trivial⟩
    exact (gives_readEntries hempty (isSpellable_of_mem_tokens htokens)).value diagram hread

/-- A diagram that can be written in the notation is what its text describes. -/
theorem Diagram.HasNotation.ofNotation_eq {diagram : Diagram}
    (hdiagram : diagram.HasNotation) : Diagram.ofNotation diagram.toNotation = .ok diagram := by
  obtain ⟨front, hfront, helements⟩ := readsElements hdiagram.elements
  obtain ⟨back, hback, hrelationships⟩ := readsRelationships hdiagram.relationships
  have hscans := hfront.append hback [] [] scans_nil
  have htokens : tokens diagram.toNotation = .ok (front ++ back) := by
    rw [List.append_nil, List.append_nil] at hscans
    exact hscans 1
  have hread : readDiagram (front ++ back) = done diagram [] := by
    rw [readDiagram, helements, List.nil_append]
    exact hrelationships diagram.elements
  rw [ofNotation, htokens]
  simp only [hread, done]

/-- A diagram that has been read from a text is printed as a text that describes it again. -/
theorem Diagram.ofNotation_toNotation {text : String} {diagram : Diagram}
    (hread : Diagram.ofNotation text = .ok diagram) :
    Diagram.ofNotation diagram.toNotation = .ok diagram :=
  (hasNotation_of_ofNotation hread).ofNotation_eq

/-- A text in which words of the notation are names, separators are left out, and relationships
stand in two blocks. -/
def wordsAsNamesText : String :=
  "rel \x7b n n -- 0..n n : dependency \x7d\n" ++
    "class n \x7b rel: Map<K, a.B>? f(x: n): n \x7d\n" ++
    "rel \x7b n -- n : association \x7d\n"

def wordsAsNames : Diagram where
  elements := [
    { id := "n"
      className := "n"
      attributes := ["rel: Map<K, a.B>?"]
      methods := ["f(x: n): n"]
      kind := .classKind }]
  relationships := [
    { id := "rel-1"
      sourceId := "n"
      targetId := "n"
      kind := .dependency
      sourceCardinality := "n"
      targetCardinality := "0..n" },
    { id := "rel-2"
      sourceId := "n"
      targetId := "n"
      kind := .association
      sourceCardinality := ""
      targetCardinality := "" }]

theorem Diagram.ofNotation_toNotation_wordsAsNames :
    Diagram.ofNotation wordsAsNamesText = .ok wordsAsNames ∧
      Diagram.ofNotation wordsAsNames.toNotation = .ok wordsAsNames := by
  have hread : Diagram.ofNotation wordsAsNamesText = .ok wordsAsNames := by decide +kernel
  exact ⟨hread, Diagram.ofNotation_toNotation hread⟩

end ClassDiagram
