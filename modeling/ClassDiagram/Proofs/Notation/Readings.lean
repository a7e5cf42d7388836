import ClassDiagram.Notation.Reading
import ClassDiagram.Proofs.Notation.Scanning

/-!
# What readers give, and what they read back

Two things are said about a reader. What it gives: if the tokens have spellings, then a value that
it reads has a certain property, and the tokens that it leaves have spellings again. What it reads
back: a line is spelled by tokens that the reader takes for a certain value.
-/

namespace ClassDiagram.Notation

variable {α β : Type}

/-! ## What readers give -/

def Spellable (tokens : List Token) : Prop :=
  ∀ token ∈ tokens, token.IsSpellable

theorem spellable_cons {token : Token} {rest : List Token} :
    Spellable (token :: rest) ↔ token.IsSpellable ∧ Spellable rest :=
  List.forall_mem_cons

theorem Spellable.tail {tokens : List Token} (hspellable : Spellable tokens) :
    Spellable tokens.tail :=
  fun token hmem => hspellable token (List.mem_of_mem_tail hmem)

/-- If there is a value it has the property, and the tokens that are left have spellings. -/
structure Reading.Gives (reading : Reading α) (property : α → Prop) : Prop where
  value : ∀ value, reading.outcome = .ok value → property value
  rest : Spellable reading.rest

/-- The reader gives values with the property whenever the tokens have spellings. -/
def Yields (reader : Reader α) (property : α → Prop) : Prop :=
  ∀ tokens, Spellable tokens → (reader tokens).Gives property

section Yields

variable {property : α → Prop} {further : β → Prop}

theorem Reading.Gives.imp {reading : Reading α} {weaker : α → Prop}
    (hreading : reading.Gives property) (himp : ∀ value, property value → weaker value) :
    reading.Gives weaker :=
  ⟨fun value hok => himp value (hreading.value value hok), hreading.rest⟩

/-- A reading that has failed gives no value. -/
theorem gives_error {fault : NotationFault} {rest : List Token} (hrest : Spellable rest) :
    Reading.Gives { outcome := .error fault, rest } property where
  value _ hok := by cases hok
  rest := hrest

theorem Reading.Gives.andThen {reading : Reading α} {next : α → Reader β}
    (hreading : reading.Gives property)
    (hnext : ∀ value, property value → Yields (next value) further) :
    (reading.andThen next).Gives further := by
  unfold Reading.andThen
  split
  · rename_i value houtcome
    exact hnext value (hreading.value value houtcome) _ hreading.rest
  · exact gives_error hreading.rest

theorem Reading.Gives.map {reading : Reading α} {f : α → β} (hreading : reading.Gives property)
    (hf : ∀ value, property value → further (f value)) : (reading.map f).Gives further where
  value := by
    intro value hok
    cases houtcome : reading.outcome with
    | error fault =>
      rw [Reading.map, houtcome] at hok
      cases hok
    | ok found =>
      rw [Reading.map, houtcome] at hok
      cases hok
      exact hf found (hreading.value found houtcome)
  rest := hreading.rest

theorem yields_done {value : α} (hvalue : property value) : Yields (done value) property :=
  fun _ hspellable => ⟨fun _ hok => Except.ok.inj hok ▸ hvalue, hspellable⟩

theorem yields_failBefore (expected : String) : Yields (failBefore expected) property :=
  fun _ hspellable => gives_error hspellable

theorem yields_failAfter (expected : String) : Yields (failAfter expected) property :=
  fun _ hspellable => gives_error hspellable.tail

end Yields

/-- A name that is one word of the notation. -/
def IsName (name : String) : Prop :=
  isIdentifier name.toList = true

instance (name : String) : Decidable (IsName name) :=
  inferInstanceAs (Decidable (isIdentifier name.toList = true))

theorem yields_readIdentifier : Yields readIdentifier IsName := by
  intro tokens hspellable
  unfold readIdentifier
  split
  · rename_i name rest
    rw [spellable_cons] at hspellable
    have hname : IsName name := hspellable.1
    exact yields_done hname _ hspellable.2
  · exact yields_failAfter _ _ hspellable

theorem yields_expectToken (token : Token) (expected : String) :
    Yields (expectToken token expected) fun _ => True := by
  intro tokens hspellable
  unfold expectToken
  split
  · exact yields_failAfter _ _ hspellable
  · split
    · exact yields_done trivial _ (spellable_cons.1 hspellable).2
    · exact yields_failAfter _ _ hspellable

/-- The values have the properties of their numbers, counted from a first one. -/
def Numbered (property : Nat → α → Prop) : Nat → List α → Prop
  | _, [] => True
  | count, value :: rest => property count value ∧ Numbered property (count + 1) rest

theorem numbered_const_iff {property : α → Prop} {count : Nat} {values : List α} :
    Numbered (fun _ => property) count values ↔ ∀ value ∈ values, property value := by
  induction values generalizing count with
  | nil => simp [Numbered]
  | cons value rest ih => rw [Numbered, ih, List.forall_mem_cons]

theorem Numbered.imp {property further : Nat → α → Prop}
    (himp : ∀ count value, property count value → further count value) {count : Nat}
    {values : List α} (hvalues : Numbered property count values) :
    Numbered further count values := by
  induction values generalizing count with
  | nil => trivial
  | cons value rest ih => exact ⟨himp count value hvalues.1, ih hvalues.2⟩

theorem numbered_append {property : Nat → α → Prop} {count : Nat} {front back : List α} :
    Numbered property count (front ++ back) ↔
      Numbered property count front ∧ Numbered property (count + front.length) back := by
  induction front generalizing count with
  | nil => simp [Numbered]
  | cons value rest ih =>
    rw [List.cons_append, Numbered, Numbered, ih, and_assoc, List.length_cons, Nat.add_assoc,
      Nat.add_comm 1]

theorem Spellable.dropSeparators {tokens : List Token} (hspellable : Spellable tokens) :
    Spellable (dropSeparators tokens) :=
  fun token hmem => hspellable token ((List.dropWhile_sublist isSeparator).subset hmem)

theorem yields_readBlock {item : Nat → Reader α} {hitem : ∀ count, Advances (item count)}
    {property : Nat → α → Prop} (hitems : ∀ count, Yields (item count) (property count))
    (count : Nat) : Yields (readBlock item hitem count) (Numbered property count) := by
  intro tokens hspellable
  fun_induction readBlock item hitem count tokens with
  | case1 => exact yields_failAfter _ _ (List.forall_mem_nil _)
  | case2 count tokens rest hdropped =>
    have hrest := hspellable.dropSeparators
    rw [hdropped, spellable_cons] at hrest
    exact yields_done trivial _ hrest.2
  | case3 count tokens token rest _ hdropped reading fault _ =>
    have hfirst := hitems count _ (hdropped ▸ hspellable.dropSeparators)
    exact gives_error hfirst.rest
  | case4 count tokens token rest _ hdropped reading value houtcome hshorter ih =>
    have hfirst := hitems count _ (hdropped ▸ hspellable.dropSeparators)
    exact (ih hfirst.rest).map fun values hvalues => ⟨hfirst.value value houtcome, hvalues⟩

/-! ## What readers read back -/

/-- Another item of a block begins here, or the block ends. -/
def BeginsItem : List Token → Prop
  | .identifier _ :: _ => True
  | .rightBrace :: _ => True
  | _ => False

/-- The line is spelled by tokens that open with a name. If another item or the end of the block
follows, the reader takes them for the value and leaves the separators that end the line. -/
def ReadsLine (reader : Reader α) (value : α) (line : String) : Prop :=
  ∃ name tokens separators, Spells line (.identifier name :: tokens ++ separators) ∧
    (∀ token ∈ separators, isSeparator token = true) ∧
    ∀ rest, BeginsItem rest →
      reader (.identifier name :: tokens ++ (separators ++ rest)) = done value (separators ++ rest)

section Block

variable {item : Nat → Reader α} {hitem : ∀ count, Advances (item count)} {count : Nat}

theorem readBlock_of_rightBrace {tokens rest : List Token}
    (hdropped : dropSeparators tokens = .rightBrace :: rest) :
    readBlock item hitem count tokens = done [] rest := by
  rw [readBlock]
  split
  · rename_i heq
    cases heq.symm.trans hdropped
  · rename_i heq
    cases heq.symm.trans hdropped
    rfl
  · rename_i hne heq
    cases heq.symm.trans hdropped
    exact absurd rfl hne

theorem readBlock_of_item {name : String} {tokens front rest : List Token} {value : α}
    (hdropped : dropSeparators tokens = .identifier name :: front)
    (hvalue : item count (.identifier name :: front) = done value rest) :
    readBlock item hitem count tokens =
      (readBlock item hitem (count + 1) rest).map fun values => value :: values := by
  rw [readBlock]
  split
  · rename_i heq
    cases heq.symm.trans hdropped
  · rename_i heq
    cases heq.symm.trans hdropped
  · rename_i heq
    cases heq.symm.trans hdropped
    simp only [hvalue, done]

/-- Lines with a line end behind each are read back as one block. -/
theorem readsBack_block (hitem : ∀ count, Advances (item count)) (line : α → String)
    {values : List α} (hlines : Numbered (fun count value =>
      ReadsLine (item count) value (line value)) count values) :
    ∃ tokens, Delimits (String.join (values.map fun value => "    " ++ line value ++ "\n")) tokens ∧
      (∀ rest, BeginsItem (tokens ++ .rightBrace :: rest)) ∧
      ∀ separators rest, (∀ token ∈ separators, isSeparator token = true) →
        readBlock item hitem count (separators ++ (tokens ++ .rightBrace :: rest)) =
          done values rest := by
  induction values generalizing count with
  | nil =>
    refine ⟨[], delimits_empty, fun _ => trivial, fun separators rest hseparators => ?_⟩
    apply readBlock_of_rightBrace
    rw [dropSeparators, List.dropWhile_append_of_pos hseparators]
    rfl
  | cons value others ih =>
    obtain ⟨⟨name, front, separators, hspells, hseparators, hvalue⟩, hothers⟩ := hlines
    obtain ⟨tokens, hdelimits, hbegins, hread⟩ := ih hothers
    refine ⟨.identifier name :: front ++ separators ++ tokens, ?_, fun _ => trivial,
      fun earlier rest hearlier => ?_⟩
    · have hline := hspells.append_delimits rfl (by decide) delimits_newline
      have hfirst := (delimits_indent.append hline).append hdelimits
      rw [List.map_cons, String.join_cons]
      simpa [String.append_assoc] using hfirst
    · have hitemRead := hvalue _ (hbegins rest)
      have hdropped : dropSeparators (earlier ++ (.identifier name :: front ++ separators ++
          tokens ++ .rightBrace :: rest)) =
            .identifier name :: (front ++ (separators ++ (tokens ++ .rightBrace :: rest))) := by
        rw [dropSeparators, List.dropWhile_append_of_pos hearlier]
        simp [isSeparator]
      rw [readBlock_of_item hdropped hitemRead, hread separators rest hseparators]
      rfl

end Block

end ClassDiagram.Notation
