import ClassDiagram.Proofs.Notation.Lookahead
import ClassDiagram.Proofs.Notation.RoundTrip

/-!
# Separators that may be left out

Commas and semicolons in blocks are skipped. Where a diagram can be read, each of them may be left
out, and the same diagram is read, but for one case: if nothing else stands between a relationship
that ends with `n` or `N`, the name of its target, and the next relationship, then without the
separator that word is a cardinality of the name behind it.
-/

namespace ClassDiagram.Notation

variable {α β : Type}

/-! ## Items of blocks -/

/-- The items begin with a name, and their readers look ahead as far as it fits. -/
def TakesItems (item : Nat → Reader α) (fits : List Token → Option Token → Prop) : Prop :=
  ∀ ⦃count tokens value rest⦄, item count tokens = done value rest →
    ∃ name read, tokens = .identifier name :: read ++ rest ∧
      ∀ next : List Token, next.head? = rest.head? ∨ fits (.identifier name :: read) next.head? →
        item count (.identifier name :: read ++ next) = done value next

theorem LooksAhead.takesItems {item : Nat → Reader α} {fits : List Token → Option Token → Prop}
    (hitem : ∀ count, Advances (item count)) (hlooks : ∀ count, LooksAhead (item count) fits)
    (hname : ∀ ⦃count tokens value rest⦄, item count tokens = done value rest →
      ∃ name others, tokens = .identifier name :: others) : TakesItems item fits := by
  intro count tokens value rest heq
  obtain ⟨name, others, rfl⟩ := hname heq
  obtain ⟨read, htokens, hread⟩ := hlooks count heq
  cases read with
  | nil =>
    have hadvance := hitem count (.identifier name) others
    rw [heq, ← htokens.trans (List.nil_append rest)] at hadvance
    exact absurd hadvance (Nat.not_succ_le_self _)
  | cons token read =>
    cases htokens
    exact ⟨name, read, rfl, hread⟩

theorem takesItems_readIdentifier : TakesItems (fun _ => readIdentifier) fun _ => BoundsItem :=
  LooksAhead.takesItems (fun _ => advances_readIdentifier)
    (fun _ => looksAhead_readIdentifier.mono fun _ _ _ => trivial)
    fun _ _ name rest heq => ⟨name, rest, readIdentifier_eq_done heq⟩

theorem takesItems_readMember : TakesItems (fun _ => readMember) fun _ => BoundsItem := by
  apply LooksAhead.takesItems (fun _ => advances_readMember) fun _ => looksAhead_readMember
  intro _ tokens member rest heq
  unfold readMember at heq
  split at heq
  · exact ⟨_, _, rfl⟩
  · exact ⟨_, _, rfl⟩
  · cases heq
  · cases heq

theorem takesItems_readRelationship : TakesItems readRelationship BoundsRelationship := by
  apply LooksAhead.takesItems advances_readRelationship looksAhead_readRelationship
  intro count tokens relationship rest heq
  obtain ⟨source, target, kind, rfl, -⟩ := readRelationship_eq_done heq
  exact ⟨_, _, rfl⟩

/-! ## Blocks -/

theorem exists_dropSeparators (tokens : List Token) :
    ∃ gap, (∀ token ∈ gap, isSeparator token = true) ∧ tokens = gap ++ dropSeparators tokens :=
  ⟨tokens.takeWhile isSeparator, List.all_eq_true.1 List.all_takeWhile,
    List.takeWhile_append_dropWhile.symm⟩

theorem dropSeparators_append {gap : List Token} (hgap : ∀ token ∈ gap, isSeparator token = true)
    (rest : List Token) : dropSeparators (gap ++ rest) = dropSeparators rest :=
  List.dropWhile_append_of_pos hgap

section Block

variable {item : Nat → Reader α} {hitem : ∀ count, Advances (item count)}
  {fits : List Token → Option Token → Prop} {count : Nat} {tokens rest : List Token}

theorem readBlock_congr {others : List Token}
    (hsame : dropSeparators tokens = dropSeparators others) :
    readBlock item hitem count tokens = readBlock item hitem count others := by
  rw [readBlock, readBlock]
  split <;> split
  all_goals simp_all

/-- All that reading a block can be. -/
theorem readBlock_eq_done {values : List α}
    (heq : readBlock item hitem count tokens = done values rest) :
    (values = [] ∧ dropSeparators tokens = .rightBrace :: rest) ∨
      ∃ value others left, values = value :: others ∧
        item count (dropSeparators tokens) = done value left ∧
        readBlock item hitem (count + 1) left = done others rest := by
  rw [readBlock] at heq
  split at heq
  · cases heq
  · rename_i others hdropped
    cases heq
    exact .inl ⟨rfl, hdropped⟩
  · rename_i token others _ hdropped
    dsimp only at heq
    split at heq
    · cases heq
    · rename_i value hvalue
      obtain ⟨values, hvalues, rfl⟩ := Reading.map_eq_done heq
      refine .inr ⟨value, values, _, rfl, ?_, hvalues⟩
      rw [hdropped]
      exact Reading.eq_done hvalue rfl

/-- An item is read behind separators. -/
theorem readBlock_of_takesItems (hitems : TakesItems item fits) {value : α} {left : List Token}
    (hread : item count (dropSeparators tokens) = done value left) :
    readBlock item hitem count tokens =
      (readBlock item hitem (count + 1) left).map fun values => value :: values := by
  obtain ⟨name, read, hdropped, -⟩ := hitems hread
  rw [hdropped] at hread
  exact readBlock_of_item hdropped hread

/-- An item is taken, and separators in front of it. -/
theorem TakesItems.exists_front (hitems : TakesItems item fits) {value : α} {left : List Token}
    (hread : item count (dropSeparators tokens) = done value left) :
    ∃ front name read, tokens = front ++ left ∧ .identifier name :: read <:+ front ∧
      (∀ next, dropSeparators (front ++ next) = .identifier name :: read ++ next) ∧
      ∀ next : List Token, next.head? = left.head? ∨ fits (.identifier name :: read) next.head? →
        item count (dropSeparators (front ++ next)) = done value next := by
  obtain ⟨gap, hgap, htokens⟩ := exists_dropSeparators tokens
  obtain ⟨name, read, hdropped, hitem⟩ := hitems hread
  have hfront : ∀ next, dropSeparators (gap ++ (.identifier name :: read) ++ next) =
      .identifier name :: read ++ next := by
    intro next
    rw [List.append_assoc, dropSeparators_append hgap]
    rfl
  refine ⟨gap ++ .identifier name :: read, name, read, ?_, List.suffix_append _ _, hfront,
    fun next hnext => ?_⟩
  · rw [htokens, hdropped, List.append_assoc]
  · rw [hfront]
    exact hitem next hnext

/-- A block is read up to its brace, and nothing behind it matters. -/
theorem looksAhead_readBlock (hitems : TakesItems item fits) :
    LooksAhead (readBlock item hitem count) fun _ _ => True := by
  intro tokens values rest heq
  suffices hread : ∃ read, tokens = read ++ .rightBrace :: rest ∧
      ∀ next, readBlock item hitem count (read ++ .rightBrace :: next) = done values next by
    obtain ⟨read, htokens, hread⟩ := hread
    refine ⟨read ++ [Token.rightBrace], by simp [htokens], fun next _ => ?_⟩
    rw [List.append_assoc]
    exact hread next
  induction values generalizing count tokens with
  | nil =>
    rcases readBlock_eq_done heq with ⟨-, hdropped⟩ | ⟨value, others, left, hcons, -, -⟩
    · obtain ⟨gap, hgap, htokens⟩ := exists_dropSeparators tokens
      refine ⟨gap, hdropped ▸ htokens, fun next => ?_⟩
      apply readBlock_of_rightBrace
      rw [dropSeparators_append hgap]
      rfl
    · cases hcons
  | cons value values ih =>
    rcases readBlock_eq_done heq with ⟨hnil, -⟩ | ⟨first, others, left, hcons, hread, hmore⟩
    · cases hnil
    · cases hcons
      obtain ⟨front, name, read, rfl, -, -, hitem⟩ := hitems.exists_front hread
      obtain ⟨more, rfl, hblock⟩ := ih hmore
      refine ⟨front ++ more, by simp, fun next => ?_⟩
      have hsame : (more ++ .rightBrace :: next).head? = (more ++ .rightBrace :: rest).head? := by
        cases more <;> rfl
      rw [List.append_assoc, readBlock_of_takesItems hitems (hitem _ (.inl hsame)), hblock]
      rfl

theorem boundsItem_of_dropSeparators (hbounds : BoundsItem (dropSeparators tokens).head?) :
    BoundsItem tokens.head? := by
  cases tokens with
  | nil => exact hbounds
  | cons token rest =>
    cases token with
    | comma | semicolon => trivial
    | _ => exact hbounds

theorem boundsItem_of_readBlock (hitems : TakesItems item fits) {values : List α}
    (heq : readBlock item hitem count tokens = done values rest) : BoundsItem tokens.head? := by
  apply boundsItem_of_dropSeparators
  rcases readBlock_eq_done heq with ⟨-, hdropped⟩ | ⟨value, others, left, -, hread, -⟩
  · rw [hdropped]
    trivial
  · obtain ⟨name, read, hdropped, -⟩ := hitems hread
    rw [hdropped]
    trivial

/-! ## Where a block skips separators -/

/-- In the course of reading the block separators are skipped from this point on: at the beginning,
or behind an item. -/
inductive BlockSkips (item : Nat → Reader α) : Nat → List Token → List Token → Prop
  | now (count : Nat) (tokens : List Token) : BlockSkips item count tokens tokens
  | later {count : Nat} {tokens left point : List Token} {value : α}
      (hread : item count (dropSeparators tokens) = done value left)
      (hmore : BlockSkips item (count + 1) left point) : BlockSkips item count tokens point

namespace BlockSkips

variable {point next : List Token} {values : List α}

theorem suffix (hitems : TakesItems item fits) (hskips : BlockSkips item count tokens point) :
    point <:+ tokens := by
  induction hskips with
  | now => exact List.suffix_rfl
  | later hread _ ih =>
    obtain ⟨front, name, read, rfl, -⟩ := hitems.exists_front hread
    exact ih.trans (List.suffix_append _ _)

/-- From the point on the rest of the block is read. -/
theorem exists_readBlock (hitems : TakesItems item fits)
    (hskips : BlockSkips item count tokens point)
    (heq : readBlock item hitem count tokens = done values rest) :
    ∃ count values, readBlock item hitem count point = done values rest := by
  induction hskips generalizing values with
  | now count tokens => exact ⟨count, values, heq⟩
  | later hread _ ih =>
    rw [readBlock_of_takesItems hitems hread] at heq
    obtain ⟨others, hmore, -⟩ := Reading.map_eq_done heq
    exact ih hmore

/-- The same is read if other tokens stand at the point that are alike up to separators, provided
that they begin alike or fit behind the item in front of them. -/
theorem readBlock_eq (hitems : TakesItems item fits) (hskips : BlockSkips item count tokens point)
    (heq : readBlock item hitem count tokens = done values rest)
    (hsame : dropSeparators next = dropSeparators point)
    (hnext : next.head? = point.head? ∨
      ∀ read, read ++ point <:+ tokens → fits read next.head?) :
    ∃ front, tokens = front ++ point ∧
      readBlock item hitem count (front ++ next) = done values rest := by
  induction hskips generalizing values with
  | now count tokens => exact ⟨[], rfl, (readBlock_congr hsame).trans heq⟩
  | @later count tokens left point value hread _ ih =>
    rw [readBlock_of_takesItems hitems hread] at heq
    obtain ⟨others, hothers, rfl⟩ := Reading.map_eq_done heq
    obtain ⟨front, name, read, rfl, ⟨gap, rfl⟩, -, hitem⟩ := hitems.exists_front hread
    obtain ⟨more, rfl, hmore⟩ := ih hothers hsame <| hnext.imp_right fun hfits before hbefore =>
      hfits before (hbefore.trans (List.suffix_append _ _))
    have hbehind : (more ++ next).head? = (more ++ point).head? ∨
        fits (.identifier name :: read) (more ++ next).head? := by
      cases more with
      | nil =>
        exact hnext.imp_right fun hfits => hfits _ ⟨gap, by simp⟩
      | cons token others => exact .inl rfl
    refine ⟨gap ++ (.identifier name :: read) ++ more, by simp, ?_⟩
    rw [List.append_assoc, readBlock_of_takesItems hitems (hitem _ hbehind), hmore]
    rfl

end BlockSkips

end Block

namespace BlockSkips

variable {count : Nat} {front tokens point rest left others : List Token}
  {relationships changed : List Relationship} {name : String}

/-- What stands in front of the point is nothing, or a relationship at least. -/
theorem eq_nil_or_two_le_length (hskips : BlockSkips readRelationship count tokens point)
    (htokens : tokens = front ++ point) : front = [] ∨ 2 ≤ front.length := by
  cases hskips with
  | now => exact .inl (List.self_eq_append_left.1 htokens)
  | later hread hmore =>
    right
    obtain ⟨first, source, read, rfl, hsuffix, hdropped, -⟩ :=
      takesItems_readRelationship.exists_front hread
    obtain ⟨more, rfl⟩ := hmore.suffix takesItems_readRelationship
    obtain rfl : first ++ more = front := by simpa [← List.append_assoc] using htokens
    rw [hdropped] at hread
    calc 2 ≤ (.identifier source :: read).length := two_le_length_of_readRelationship hread
      _ ≤ first.length := hsuffix.length_le
      _ ≤ (first ++ more).length := by simp

/-- If a name is put behind a relationship that ends with `n` or `N`, other relationships are read,
or none. -/
theorem not_prefix (hskips : BlockSkips readRelationship count tokens point)
    (htokens : tokens = front ++ point)
    (heq : readBlock readRelationship advances_readRelationship count tokens =
      done relationships rest) (hends : EndsUnbounded front)
    (hchanged : readBlock readRelationship advances_readRelationship count
      (front ++ .identifier name :: others) = done changed left) :
    ¬ relationships <+: changed ∧ ¬ changed <+: relationships := by
  induction hskips generalizing front relationships changed with
  | now count tokens =>
    obtain rfl : front = [] := List.self_eq_append_left.1 htokens
    obtain ⟨word, -, hsuffix⟩ := hends
    simp at hsuffix
  | @later count tokens between point relationship hread hmore ih =>
    rw [readBlock_of_takesItems takesItems_readRelationship hread] at heq
    obtain ⟨further, hfurther, rfl⟩ := Reading.map_eq_done heq
    obtain ⟨first, source, read, rfl, hsuffix, hdropped, hagain⟩ :=
      takesItems_readRelationship.exists_front hread
    obtain ⟨more, rfl⟩ := hmore.suffix takesItems_readRelationship
    obtain rfl : first ++ more = front := by simpa [← List.append_assoc] using htokens
    rw [hdropped] at hread
    rw [List.append_assoc] at hchanged
    rcases hmore.eq_nil_or_two_le_length rfl with rfl | hlength
    · rw [List.append_nil] at hends
      have hitem := hends.of_suffix hsuffix (two_le_length_of_readRelationship hread)
      rcases readBlock_eq_done hchanged with ⟨-, hbrace⟩ | ⟨other, others, left, rfl, hother, -⟩
      · rw [hdropped] at hbrace
        cases hbrace
      · rw [hdropped] at hother
        obtain ⟨hword, hnone⟩ :=
          readRelationship_of_name hread hitem (congrArg Reading.outcome hother)
        have hne : relationship ≠ other := by
          rintro rfl
          exact absurd (hword.symm.trans hnone) (by decide)
        simp [hne, hne.symm]
    · have hsame : (more ++ .identifier name :: others).head? = (more ++ point).head? := by
        cases more with
        | nil => cases hlength
        | cons token more => rfl
      rw [readBlock_of_takesItems takesItems_readRelationship (hagain _ (.inl hsame))] at hchanged
      obtain ⟨furtherChanged, hfurtherChanged, rfl⟩ := Reading.map_eq_done hchanged
      have hmoreEnds := hends.of_suffix (List.suffix_append first more) hlength
      simpa using ih rfl hfurther hmoreEnds hfurtherChanged

end BlockSkips

/-! ## Entries -/

/-- What a block of the entry holds. -/
def Keyword.Item : Keyword → Type
  | .enumWord => String
  | .relWord => Relationship
  | .classWord | .abstractWord | .interfaceWord => Member

def Keyword.readItem : (keyword : Keyword) → Nat → Reader keyword.Item
  | .enumWord => fun _ => readIdentifier
  | .relWord => readRelationship
  | .classWord | .abstractWord | .interfaceWord => fun _ => readMember

/-- Only relationships are counted across blocks. -/
def Keyword.firstCount (count : Nat) : Keyword → Nat
  | .relWord => count
  | .classWord | .abstractWord | .interfaceWord | .enumWord => 0

/-- What may stand behind the tokens of an item. -/
def Keyword.Bounds : Keyword → List Token → Option Token → Prop
  | .relWord => BoundsRelationship
  | .classWord | .abstractWord | .interfaceWord | .enumWord => fun _ => BoundsItem

theorem Keyword.advances_readItem (keyword : Keyword) (count : Nat) :
    Advances (keyword.readItem count) := by
  cases keyword with
  | enumWord => exact advances_readIdentifier
  | relWord => exact advances_readRelationship count
  | classWord | abstractWord | interfaceWord => exact advances_readMember

theorem Keyword.takesItems (keyword : Keyword) :
    TakesItems keyword.readItem keyword.Bounds := by
  cases keyword with
  | enumWord => exact takesItems_readIdentifier
  | relWord => exact takesItems_readRelationship
  | classWord | abstractWord | interfaceWord => exact takesItems_readMember

/-- What stands between the keyword of an entry and its block. -/
inductive OpensBlock : Keyword → List Token → Prop
  | relationships : OpensBlock .relWord [.leftBrace]
  | element {keyword : Keyword} (name : String) (hkeyword : keyword ≠ .relWord)
      (hname : keyword = .abstractWord → name ≠ "class") :
      OpensBlock keyword [.identifier name, .leftBrace]
  | abstractClass (name : String) :
      OpensBlock .abstractWord [.identifier "class", .identifier name, .leftBrace]

section Entry

variable {count : Nat} {keyword : Keyword} {opening tokens left : List Token} {entry : Entry}

theorem Reading.map_map {γ : Type} (reading : Reading α) (f : α → β) (g : β → γ) :
    (reading.map f).map g = reading.map (g ∘ f) := by
  cases reading with
  | mk outcome rest => cases outcome <;> rfl

theorem ofToken?_eq_classWord {token : Token} :
    Keyword.ofToken? token = some .classWord ↔ token = .identifier "class" := by
  constructor
  · intro hword
    unfold Keyword.ofToken? at hword
    split at hword <;> first | rfl | cases hword
  · rintro rfl
    rfl

theorem dropClassWord_of_ne {name : String} (hname : name ≠ "class") (rest : List Token) :
    dropClassWord (.identifier name :: rest) = .identifier name :: rest := by
  refine if_neg fun hword => hname ?_
  simpa using ofToken?_eq_classWord.1 hword

/-- Behind what opens it, an entry is made of the items of its block. -/
theorem OpensBlock.exists_readEntry_eq (hopens : OpensBlock keyword opening) (count : Nat) :
    ∃ make : List keyword.Item → Entry, ∀ block, readEntry count keyword (opening ++ block) =
      (readBlock keyword.readItem keyword.advances_readItem (keyword.firstCount count) block).map
        make := by
  cases hopens with
  | relationships => exact ⟨_, fun _ => rfl⟩
  | element name hkeyword hname =>
    cases keyword with
    | relWord => exact absurd rfl hkeyword
    | classWord | interfaceWord | enumWord => exact ⟨_, fun _ => Reading.map_map _ _ _⟩
    | abstractWord =>
      have hdrop : ∀ block, readEntry count .abstractWord (.identifier name :: block) =
          (readClass .abstractKind (.identifier name :: block)).map .element := fun block => by
        rw [readEntry, dropClassWord_of_ne (hname rfl)]
      exact ⟨_, fun block => (hdrop (.leftBrace :: block)).trans (Reading.map_map _ _ _)⟩
  | abstractClass name => exact ⟨_, fun _ => Reading.map_map _ _ _⟩

/-- Elements begin with a name and a brace. -/
theorem exists_named_block {next : String → Reader β} {result : β}
    (heq : ((readIdentifier tokens).andThen fun name tokens =>
      (readOpeningBrace tokens).andThen fun _ => next name) = done result left) :
    ∃ name block, tokens = .identifier name :: .leftBrace :: block := by
  obtain ⟨name, _, hname, hbehind⟩ := Reading.andThen_eq_done heq
  obtain ⟨_, block, hbrace, -⟩ := Reading.andThen_eq_done hbehind
  obtain rfl := readIdentifier_eq_done hname
  obtain rfl := expectToken_eq_done hbrace
  exact ⟨name, block, rfl⟩

theorem exists_opensBlock (heq : readEntry count keyword tokens = done entry left) :
    ∃ opening block, OpensBlock keyword opening ∧ tokens = opening ++ block := by
  cases keyword with
  | classWord | interfaceWord | enumWord =>
    obtain ⟨element, helement, -⟩ := Reading.map_eq_done heq
    obtain ⟨name, block, rfl⟩ := exists_named_block helement
    exact ⟨_, block, .element name (by decide) nofun, rfl⟩
  | relWord =>
    rw [readEntry] at heq
    obtain ⟨_, block, hbrace, -⟩ := Reading.andThen_eq_done heq
    obtain rfl := expectToken_eq_done hbrace
    exact ⟨_, block, .relationships, rfl⟩
  | abstractWord =>
    obtain ⟨element, helement, -⟩ := Reading.map_eq_done heq
    obtain ⟨name, block, hdropped⟩ := exists_named_block helement
    cases tokens with
    | nil => cases hdropped
    | cons token rest =>
      rw [dropClassWord] at hdropped
      split at hdropped
      · rename_i hword
        obtain rfl := ofToken?_eq_classWord.1 hword
        exact ⟨_, block, .abstractClass name, congrArg _ hdropped⟩
      · rename_i hword
        refine ⟨_, block, .element name (by decide) fun _ hname => hword ?_, hdropped⟩
        rw [(List.cons.inj hdropped).1, hname]
        rfl

/-- An entry ends with the brace of its block. -/
theorem looksAhead_readEntry (count : Nat) (keyword : Keyword) :
    LooksAhead (readEntry count keyword) fun _ _ => True := by
  intro tokens entry left heq
  obtain ⟨opening, block, hopens, rfl⟩ := exists_opensBlock heq
  obtain ⟨make, hmake⟩ := hopens.exists_readEntry_eq count
  rw [hmake] at heq
  obtain ⟨read, rfl, hread⟩ := (looksAhead_readBlock keyword.takesItems).map make heq
  refine ⟨opening ++ read, (List.append_assoc ..).symm, fun next hnext => ?_⟩
  rw [List.append_assoc, hmake]
  exact hread next hnext

theorem Keyword.bounds_of_boundsItem {keyword : Keyword} {read : List Token} {head : Option Token}
    (hhead : BoundsItem head) (hname : keyword = .relWord → EndsUnbounded read →
      ∀ name, head ≠ some (.identifier name)) : keyword.Bounds read head := by
  cases keyword with
  | relWord => exact ⟨hhead, hname rfl⟩
  | classWord | abstractWord | interfaceWord | enumWord => exact hhead

/-- The same entry is read if other tokens stand at a point of its block that are alike up to
separators, provided that they begin alike or no name follows `n` or `N` at the end of a
relationship. -/
theorem OpensBlock.readEntry_eq (hopens : OpensBlock keyword opening)
    {block point next : List Token}
    (hskips : BlockSkips keyword.readItem (keyword.firstCount count) block point)
    (hentry : readEntry count keyword (opening ++ block) = done entry left)
    (hsame : dropSeparators next = dropSeparators point)
    (hnext : next.head? = point.head? ∨ (keyword = .relWord → ∀ read, read ++ point <:+ block →
      EndsUnbounded read → ∀ name, next.head? ≠ some (.identifier name))) :
    ∃ front, block = front ++ point ∧
      readEntry count keyword (opening ++ (front ++ next)) = done entry left := by
  obtain ⟨make, hmake⟩ := hopens.exists_readEntry_eq count
  rw [hmake] at hentry
  obtain ⟨values, hblock, rfl⟩ := Reading.map_eq_done hentry
  obtain ⟨_, _, hpoint⟩ := hskips.exists_readBlock keyword.takesItems hblock
  have hhead : BoundsItem next.head? :=
    boundsItem_of_readBlock keyword.takesItems ((readBlock_congr hsame).trans hpoint)
  have hbounds : next.head? = point.head? ∨
      ∀ read, read ++ point <:+ block → keyword.Bounds read next.head? :=
    hnext.imp_right fun hname read hsuffix =>
      Keyword.bounds_of_boundsItem hhead fun hrel => hname hrel read hsuffix
  obtain ⟨front, rfl, hfront⟩ := hskips.readBlock_eq keyword.takesItems hblock hsame hbounds
  refine ⟨front, rfl, ?_⟩
  rw [hmake, hfront]
  rfl

theorem exists_entry_of_readEntries {soFar diagram : Diagram} {token : Token}
    (hkeyword : Keyword.ofToken? token = some keyword)
    (hread : (readEntries soFar (token :: tokens)).outcome = .ok diagram) :
    ∃ entry left, readEntry soFar.relationships.length keyword tokens = done entry left ∧
      (readEntries (addEntry soFar entry) left).outcome = .ok diagram := by
  rw [readEntries, hkeyword] at hread
  dsimp only at hread
  split at hread
  · cases hread
  · rename_i entry hentry
    exact ⟨entry, _, Reading.eq_done hentry rfl, hread⟩

theorem relationships_prefix_of_readEntries {soFar diagram : Diagram}
    (hread : (readEntries soFar tokens).outcome = .ok diagram) :
    soFar.relationships <+: diagram.relationships := by
  fun_induction readEntries soFar tokens with
  | case1 soFar =>
    cases hread
    exact List.prefix_rfl
  | case2 | case3 => cases hread
  | case4 soFar token rest keyword hkeyword count entry hentry ih =>
    refine List.IsPrefix.trans ?_ (ih hread)
    cases entry with
    | element element => exact List.prefix_rfl
    | relationships relationships => exact List.prefix_append _ _

end Entry

/-! ## Diagrams -/

/-- In the course of reading the diagram, the block of an entry with this keyword skips separators
from this point on. -/
inductive ComesToSkip : Diagram → List Token → Keyword → List Token → Prop
  | inside {soFar : Diagram} {token : Token} {keyword : Keyword} {opening block point : List Token}
      (hkeyword : Keyword.ofToken? token = some keyword) (hopens : OpensBlock keyword opening)
      (hskips : BlockSkips keyword.readItem (keyword.firstCount soFar.relationships.length) block
        point) : ComesToSkip soFar (token :: (opening ++ block)) keyword point
  | later {soFar : Diagram} {token : Token} {earlier keyword : Keyword}
      {tokens left point : List Token} {entry : Entry}
      (hkeyword : Keyword.ofToken? token = some earlier)
      (hentry : readEntry soFar.relationships.length earlier tokens = done entry left)
      (hmore : ComesToSkip (addEntry soFar entry) left keyword point) :
      ComesToSkip soFar (token :: tokens) keyword point

namespace ComesToSkip

variable {soFar diagram : Diagram} {tokens point front next : List Token} {keyword : Keyword}

theorem exists_front (hcomes : ComesToSkip soFar tokens keyword point) :
    ∃ front, tokens = front ++ point ∧ 2 ≤ front.length := by
  induction hcomes with
  | @inside soFar token keyword opening block point hkeyword hopens hskips =>
    obtain ⟨front, rfl⟩ := hskips.suffix keyword.takesItems
    refine ⟨token :: (opening ++ front), by simp, ?_⟩
    cases hopens <;> simp
  | @later soFar token earlier keyword tokens left point entry hkeyword hentry _ ih =>
    obtain ⟨read, rfl, -⟩ := looksAhead_readEntry _ _ hentry
    obtain ⟨front, rfl, hlength⟩ := ih
    refine ⟨token :: (read ++ front), by simp, Nat.le_trans hlength ?_⟩
    exact ((List.suffix_append read front).trans (List.suffix_cons token _)).length_le

/-- The same diagram is read if other tokens stand at the point that are alike up to separators,
provided that they begin alike or no name follows `n` or `N` at the end of a relationship. -/
theorem readEntries_eq (hcomes : ComesToSkip soFar tokens keyword point)
    (hread : (readEntries soFar tokens).outcome = .ok diagram)
    (hsame : dropSeparators next = dropSeparators point)
    (hnext : next.head? = point.head? ∨ (keyword = .relWord → ∀ read, read ++ point <:+ tokens →
      EndsUnbounded read → ∀ name, next.head? ≠ some (.identifier name))) :
    ∃ front, tokens = front ++ point ∧
      (readEntries soFar (front ++ next)).outcome = .ok diagram := by
  induction hcomes with
  | @inside soFar token keyword opening block point hkeyword hopens hskips =>
    obtain ⟨entry, left, hentry, hmore⟩ := exists_entry_of_readEntries hkeyword hread
    have hblock : block <:+ token :: (opening ++ block) :=
      (List.suffix_append opening block).trans (List.suffix_cons token _)
    obtain ⟨front, rfl, hfront⟩ := hopens.readEntry_eq hskips hentry hsame <|
      hnext.imp_right fun hname hrel before hbefore => hname hrel before (hbefore.trans hblock)
    refine ⟨token :: (opening ++ front), by simp, ?_⟩
    rw [List.cons_append, List.append_assoc, readEntries_of_entry soFar hkeyword hfront]
    exact hmore
  | @later soFar token earlier keyword tokens left point entry hkeyword hentry _ ih =>
    obtain ⟨read, rfl, hagain⟩ := looksAhead_readEntry _ _ hentry
    rw [readEntries_of_entry soFar hkeyword hentry] at hread
    have hleft : left <:+ token :: (read ++ left) :=
      (List.suffix_append read left).trans (List.suffix_cons token _)
    obtain ⟨front, rfl, hfront⟩ := ih hread hsame <|
      hnext.imp_right fun hname hrel before hbefore => hname hrel before (hbefore.trans hleft)
    refine ⟨token :: (read ++ front), by simp, ?_⟩
    rw [List.cons_append, List.append_assoc,
      readEntries_of_entry soFar hkeyword (hagain (front ++ next) (.inr trivial))]
    exact hfront

/-- If a name is put behind a relationship that ends with `n` or `N`, the diagram that has been read
is not read any more. -/
theorem readEntries_ne (hcomes : ComesToSkip soFar tokens keyword point)
    (hkeyword : keyword = .relWord) (htokens : tokens = front ++ point)
    (hread : (readEntries soFar tokens).outcome = .ok diagram) (hends : EndsUnbounded front)
    (name : String) (others : List Token) :
    (readEntries soFar (front ++ .identifier name :: others)).outcome ≠ .ok diagram := by
  intro hchanged
  induction hcomes generalizing front with
  | @inside soFar token keyword opening block point hword hopens hskips =>
    subst hkeyword
    cases hopens with
    | element _ hrel => exact absurd rfl hrel
    | relationships =>
      obtain ⟨more, rfl⟩ := hskips.suffix (Keyword.takesItems .relWord)
      obtain rfl : token :: .leftBrace :: more = front :=
        List.append_cancel_right (by simpa using htokens)
      obtain ⟨entry, left, hentry, hmore⟩ := exists_entry_of_readEntries hword hread
      obtain ⟨relationships, hblock, rfl⟩ := Reading.map_eq_done hentry
      obtain ⟨entry, left, hentry, hother⟩ := exists_entry_of_readEntries hword hchanged
      obtain ⟨changed, hchangedBlock, rfl⟩ := Reading.map_eq_done hentry
      have hblockSkips : BlockSkips readRelationship soFar.relationships.length (more ++ point)
          point := hskips
      have hmoreEnds : EndsUnbounded more := by
        rcases hblockSkips.eq_nil_or_two_le_length rfl with rfl | hlength
        · obtain ⟨word, -, hsuffix⟩ := hends
          cases hsuffix.eq_of_length rfl
        · exact hends.of_suffix (List.suffix_append [token, .leftBrace] more) hlength
      obtain ⟨hforth, hback⟩ := hblockSkips.not_prefix rfl hblock hmoreEnds hchangedBlock
      -- Both blocks would stand behind the same relationships in the one diagram.
      rcases List.prefix_or_prefix_of_prefix (relationships_prefix_of_readEntries hmore)
        (relationships_prefix_of_readEntries hother) with hprefix | hprefix
      · exact hforth ((List.prefix_append_right_inj _).1 hprefix)
      · exact hback ((List.prefix_append_right_inj _).1 hprefix)
  | @later soFar token earlier keyword tokens left point entry hword hentry hmore ih =>
    obtain ⟨read, rfl, hagain⟩ := looksAhead_readEntry _ _ hentry
    obtain ⟨more, rfl, hlength⟩ := hmore.exists_front
    obtain rfl : token :: (read ++ more) = front :=
      List.append_cancel_right (by simpa using htokens)
    rw [readEntries_of_entry soFar hword hentry] at hread
    rw [List.cons_append, List.append_assoc,
      readEntries_of_entry soFar hword (hagain _ (.inr trivial))] at hchanged
    refine ih hkeyword rfl hread (hends.of_suffix ?_ hlength) hchanged
    exact (List.suffix_append read more).trans (List.suffix_cons token _)

end ComesToSkip

/-- Without one of the separators that are skipped in its blocks the same diagram is read, unless
this separator alone stands between a relationship that ends with `n` or `N`, the name of its
target, and the name that the next one begins with. -/
theorem readDiagram_without_separator {front before after : List Token} {separator : Token}
    {keyword : Keyword} {diagram : Diagram}
    (hcomes : ComesToSkip { elements := [], relationships := [] }
      (front ++ (before ++ separator :: after)) keyword (before ++ separator :: after))
    (hbefore : ∀ token ∈ before, isSeparator token = true)
    (hseparator : isSeparator separator = true)
    (hread : (readDiagram (front ++ (before ++ separator :: after))).outcome = .ok diagram) :
    (readDiagram (front ++ (before ++ after))).outcome = .ok diagram ↔
      ¬ (keyword = .relWord ∧ before = [] ∧ EndsUnbounded front ∧
        ∃ name others, after = .identifier name :: others) := by
  constructor
  · rintro hsame ⟨hkeyword, rfl, hends, name, others, rfl⟩
    exact hcomes.readEntries_ne hkeyword rfl hread hends name others hsame
  · intro hdistinct
    have hdropped :
        dropSeparators (before ++ after) = dropSeparators (before ++ separator :: after) := by
      rw [dropSeparators_append hbefore, dropSeparators_append hbefore, dropSeparators,
        dropSeparators, List.dropWhile_cons_of_pos hseparator]
    have hnext : (before ++ after).head? = (before ++ separator :: after).head? ∨
        (keyword = .relWord → ∀ read, read ++ (before ++ separator :: after) <:+
          front ++ (before ++ separator :: after) → EndsUnbounded read →
            ∀ name, (before ++ after).head? ≠ some (.identifier name)) := by
      cases before with
      | cons token before => exact .inl rfl
      | nil =>
        refine .inr fun hkeyword read hsuffix hends name hname => hdistinct ?_
        obtain ⟨earlier, hearlier⟩ := hsuffix
        obtain ⟨others, hafter⟩ := List.head?_eq_some_iff.1 hname
        rw [← List.append_assoc] at hearlier
        refine ⟨hkeyword, rfl, ?_, name, others, hafter⟩
        exact List.append_cancel_right hearlier ▸ hends.of_append
    obtain ⟨begin, heq, hbegin⟩ := hcomes.readEntries_eq hread hdropped hnext
    rwa [← List.append_cancel_right heq] at hbegin

/-- A block of relationships, up to the first one, which has the target `n`. -/
def unboundedTarget : List Token :=
  [.identifier "rel", .leftBrace, .identifier "A", .dash, .identifier "n"]

def nextAssociation : List Token :=
  [.identifier "B", .dash, .identifier "C", .rightBrace]

def twoAssociations : Diagram where
  elements := []
  relationships := [
    { id := "rel-1"
      sourceId := "A"
      targetId := "n"
      kind := .association
      sourceCardinality := ""
      targetCardinality := "" },
    { id := "rel-2"
      sourceId := "B"
      targetId := "C"
      kind := .association
      sourceCardinality := ""
      targetCardinality := "" }]

/-- Where the first relationship is read, separators are skipped behind it. -/
theorem comesToSkip_unboundedTarget {relationship : Relationship} {point : List Token}
    (hread : readRelationship 0 (.identifier "A" :: .dash :: .identifier "n" :: point) =
      done relationship point) :
    ComesToSkip { elements := [], relationships := [] } (unboundedTarget ++ point) .relWord
      point := by
  have hskips : BlockSkips readRelationship 0
      (.identifier "A" :: .dash :: .identifier "n" :: point) point :=
    .later hread (.now 1 point)
  exact @ComesToSkip.inside _ _ _ [.leftBrace] _ _ rfl .relationships hskips

/-- Of two separators one is enough. -/
theorem readDiagram_without_semicolon :
    (readDiagram (unboundedTarget ++ ([.comma] ++ .semicolon :: nextAssociation))).outcome =
        .ok twoAssociations ∧
      (readDiagram (unboundedTarget ++ ([.comma] ++ nextAssociation))).outcome =
        .ok twoAssociations := by
  have hread : (readDiagram
      (unboundedTarget ++ ([.comma] ++ .semicolon :: nextAssociation))).outcome =
        .ok twoAssociations := by decide +kernel
  have hcomes := comesToSkip_unboundedTarget
    (rfl : readRelationship 0 (.identifier "A" :: .dash :: .identifier "n" ::
      ([.comma] ++ .semicolon :: nextAssociation)) = done _ _)
  exact ⟨hread, (readDiagram_without_separator hcomes (by decide) rfl hread).2 (by simp)⟩

/-- Without the semicolon the target is read as the cardinality of the name behind it, and the
dashes are too many. -/
theorem readDiagram_needs_semicolon :
    ComesToSkip { elements := [], relationships := [] }
        (unboundedTarget ++ .semicolon :: nextAssociation) .relWord
        (.semicolon :: nextAssociation) ∧
      (readDiagram (unboundedTarget ++ .semicolon :: nextAssociation)).outcome =
        .ok twoAssociations ∧
      (readDiagram (unboundedTarget ++ nextAssociation)).outcome =
        .error (.unexpected (some .dash) "identifier") := by
  refine ⟨comesToSkip_unboundedTarget rfl, ?_, ?_⟩
  · decide +kernel
  · decide +kernel

end ClassDiagram.Notation
