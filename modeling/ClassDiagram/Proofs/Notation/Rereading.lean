import ClassDiagram.Proofs.Derivation.DeclarationFaults
import ClassDiagram.Proofs.Notation.Declarations
import ClassDiagram.Proofs.Notation.Entries

/-!
# Members that are read twice

The members of an element are read in the text of a diagram, kept as texts, and read again when the
schema is derived. The second reading gives the members of the first one, unless a type opens with a
dollar sign. Nothing else in a text of the notation makes the derivation blame a declaration.
-/

namespace ClassDiagram

open Notation

namespace Notation.Member

/-- The member that is read in the text of this one. -/
def reread : Member → Except DeclarationFault Member
  | .attribute declared => (Attribute.read declared.text).map .attribute
  | .method declared => (Method.read declared.text).map .method

def typeTokens : Member → List String
  | .attribute declared => [declared.typeToken]
  | .method declared => declared.typeTokens

/-- What is said of this member in an element if it cannot be read again. -/
def malformed (element : String) (reason : DeclarationFault) : Member → ModelFault
  | .attribute declared => .malformedAttribute declared.text element reason
  | .method declared => .malformedMethod declared.text element reason

theorem HasNotation.reread_eq : ∀ {member : Member}, member.HasNotation →
    member.reread = unlessDollar member.typeTokens member
  | .attribute declared, hmember => by
    have hread : Attribute.read declared.text = _ := Attribute.HasNotation.read_text hmember
    rw [reread, hread]
    exact unlessDollar_map _ _ Member.attribute
  | .method declared, hmember => by
    have hread : Method.read declared.text = _ := Method.HasNotation.read_text hmember
    rw [reread, hread]
    exact unlessDollar_map _ _ Member.method

theorem attribute?_eq_some_iff {member : Member} {declared : Attribute} :
    member.attribute? = some declared ↔ member = .attribute declared := by
  cases member <;> simp [attribute?]

theorem method?_eq_some_iff {member : Member} {declared : Method} :
    member.method? = some declared ↔ member = .method declared := by
  cases member <;> simp [method?]

end Notation.Member

theorem find?_of_unlessDollar_eq_error {α : Type} {typeTokens : List String} {value : α}
    {reason : DeclarationFault} (herror : unlessDollar typeTokens value = .error reason) :
    ∃ typeToken, typeTokens.find? opensWithDollar = some typeToken ∧
      reason = .invalidType typeToken := by
  rw [unlessDollar] at herror
  split at herror
  · rename_i typeToken hfind
    exact ⟨typeToken, hfind, (Except.error.inj herror).symm⟩
  · cases herror

theorem opensWithDollar_of_unlessDollar_eq_ok {α : Type} {typeTokens : List String}
    {value result : α} (hok : unlessDollar typeTokens value = .ok result) :
    ∀ typeToken ∈ typeTokens, opensWithDollar typeToken = false := by
  rw [unlessDollar] at hok
  split at hok
  · cases hok
  · rename_i hfind
    exact fun typeToken hmem => Bool.eq_false_iff.2 (List.find?_eq_none.1 hfind typeToken hmem)

namespace Element

/-- These members have been read in the block of the element, which keeps their texts. Read again,
they are the same, unless a type opens with a dollar sign. -/
structure Rereads (element : Element) (tokens : List Token) (members : List Member) : Prop where
  block : ∃ block, .identifier element.className :: .leftBrace :: block <:+ tokens ∧
    (readBlock (fun _ => readMember) (fun _ => advances_readMember) 0 block).outcome = .ok members
  attributes : element.attributes = (members.filterMap Member.attribute?).map Attribute.text
  methods : element.methods = (members.filterMap Member.method?).map Method.text
  reread : ∀ member ∈ members, member.reread = unlessDollar member.typeTokens member

/-- These constants have been read in the block of the enumeration. Read again, they are the same. -/
structure RereadsConstants (element : Element) (tokens : List Token) : Prop where
  block : ∃ block, .identifier element.className :: .leftBrace :: block <:+ tokens ∧
    (readBlock (fun _ => readIdentifier) (fun _ => advances_readIdentifier) 0 block).outcome =
      .ok element.attributes
  reread : ∀ constant ∈ element.attributes, readConstant constant = .ok constant

variable {element : Element} {tokens : List Token} {members : List Member}

theorem spellable_block {name : String} {block : List Token} (hspellable : Spellable tokens)
    (hblock : .identifier name :: .leftBrace :: block <:+ tokens) : Spellable block :=
  fun token hmem => hspellable token (hblock.subset
    (List.mem_cons_of_mem _ (List.mem_cons_of_mem _ hmem)))

theorem IsReadIn.exists_rereads (hread : element.IsReadIn tokens) (hspellable : Spellable tokens)
    (hkind : element.kind ≠ .enumKind) : ∃ members, element.Rereads tokens members := by
  cases hread with
  | classLike hother hblock hmembers =>
    have hyields : Yields (readBlock (fun _ => readMember) (fun _ => advances_readMember) 0) _ :=
      yields_readBlock (fun _ => yields_readMember) 0
    have hgives := hyields _ (spellable_block hspellable hblock)
    have hnotations := numbered_const_iff.1 (hgives.value _ hmembers)
    exact ⟨_, ⟨_, hblock, hmembers⟩, rfl, rfl,
      fun member hmem => (hnotations member hmem).reread_eq⟩
  | enumeration => exact absurd rfl hkind

theorem IsReadIn.rereadsConstants (hread : element.IsReadIn tokens)
    (hspellable : Spellable tokens) (hkind : element.kind = .enumKind) :
    element.RereadsConstants tokens := by
  cases hread with
  | classLike hother => exact absurd hkind hother
  | enumeration hblock hconstants =>
    have hyields : Yields
        (readBlock (fun _ => readIdentifier) (fun _ => advances_readIdentifier) 0) _ :=
      yields_readBlock (fun _ => yields_readIdentifier) 0
    have hgives := hyields _ (spellable_block hspellable hblock)
    have hnames := numbered_const_iff.1 (hgives.value _ hconstants)
    exact ⟨⟨_, hblock, hconstants⟩, fun constant hmem => (hnames constant hmem).readConstant_eq⟩

/-! ## Declarations of the element and its members -/

namespace Rereads

variable (hrereads : element.Rereads tokens members)

include hrereads

theorem mem_attributes_iff {declaration : String} : declaration ∈ element.attributes ↔
    ∃ declared, Member.attribute declared ∈ members ∧ declared.text = declaration := by
  simp only [hrereads.attributes, List.mem_map, List.mem_filterMap,
    Member.attribute?_eq_some_iff, exists_eq_right]

theorem mem_methods_iff {signature : String} : signature ∈ element.methods ↔
    ∃ declared, Member.method declared ∈ members ∧ declared.text = signature := by
  simp only [hrereads.methods, List.mem_map, List.mem_filterMap,
    Member.method?_eq_some_iff, exists_eq_right]

/-- A declaration that cannot be read has a type that opens with a dollar sign. -/
theorem exists_dollar_of_misdeclares (hkind : element.kind.isStored = true) {fault : ModelFault}
    (hmisdeclares : element.Misdeclares fault) : ∃ member ∈ members, ∃ typeToken,
      member.typeTokens.find? opensWithDollar = some typeToken ∧
        fault = member.malformed element.className (.invalidType typeToken) := by
  have hdollar : ∀ member ∈ members, ∀ reason, member.reread = .error reason → ∃ typeToken,
      member.typeTokens.find? opensWithDollar = some typeToken ∧
        reason = .invalidType typeToken := by
    intro member hmem reason herror
    rw [hrereads.reread member hmem] at herror
    exact find?_of_unlessDollar_eq_error herror
  cases hmisdeclares with
  | constant henum => simp [henum, ElementKind.isStored] at hkind
  | @«attribute» _ reason _ hmem hread =>
    obtain ⟨declared, hmember, rfl⟩ := hrereads.mem_attributes_iff.1 hmem
    obtain ⟨typeToken, hfind, rfl⟩ := hdollar _ hmember reason
      (by rw [Member.reread, hread, Except.map])
    exact ⟨_, hmember, typeToken, hfind, rfl⟩
  | @method _ reason _ hmem hread =>
    obtain ⟨declared, hmember, rfl⟩ := hrereads.mem_methods_iff.1 hmem
    obtain ⟨typeToken, hfind, rfl⟩ := hdollar _ hmember reason
      (by rw [Member.reread, hread, Except.map])
    exact ⟨_, hmember, typeToken, hfind, rfl⟩

/-- If all declarations can be read, no type opens with a dollar sign. -/
theorem opensWithDollar_eq_false
    (hattributes : ∀ declaration ∈ element.attributes,
      ∃ declared, Attribute.read declaration = .ok declared)
    (hmethods : ∀ signature ∈ element.methods, ∃ method, Method.read signature = .ok method) :
    ∀ member ∈ members, ∀ typeToken ∈ member.typeTokens, opensWithDollar typeToken = false := by
  intro member hmem
  have hok : ∃ result, member.reread = .ok result := by
    cases member with
    | «attribute» declared =>
      obtain ⟨found, hread⟩ := hattributes _ (hrereads.mem_attributes_iff.2 ⟨_, hmem, rfl⟩)
      exact ⟨.attribute found, by rw [Member.reread, hread, Except.map]⟩
    | method declared =>
      obtain ⟨found, hread⟩ := hmethods _ (hrereads.mem_methods_iff.2 ⟨_, hmem, rfl⟩)
      exact ⟨.method found, by rw [Member.reread, hread, Except.map]⟩
  obtain ⟨result, hresult⟩ := hok
  rw [hrereads.reread member hmem] at hresult
  exact opensWithDollar_of_unlessDollar_eq_ok hresult

end Rereads

end Element

namespace Diagram

/-- What the two readings of a text have to do with each other. -/
structure RereadsMembers (diagram : Diagram) (tokens : List Token)
    (membersOf : Element → List Member) : Prop where
  members : ∀ element ∈ diagram.elements, element.kind ≠ .enumKind →
    element.Rereads tokens (membersOf element)
  constants : ∀ element ∈ diagram.elements, element.kind = .enumKind →
    element.RereadsConstants tokens
  /-- If the derivation blames a declaration, then for a type that opens with a dollar sign. -/
  blame : ∀ faults, diagram.schema = .error faults → ∀ fault ∈ faults, fault.isMalformed = true →
    ∃ element ∈ diagram.storedElements, ∃ member ∈ membersOf element, ∃ typeToken,
      member.typeTokens.find? opensWithDollar = some typeToken ∧
        fault = member.malformed element.className (.invalidType typeToken)
  accepted : ∀ schema, diagram.schema = .ok schema → ∀ element ∈ diagram.storedElements,
    ∀ member ∈ membersOf element, ∀ typeToken ∈ member.typeTokens,
      opensWithDollar typeToken = false

/-- The two readings of the members of a text agree, unless a type opens with a dollar sign. -/
theorem rereadsMembers_of_ofNotation {text : String} {diagram : Diagram}
    (hread : Diagram.ofNotation text = .ok diagram) :
    ∃ tokens, Notation.tokens text = .ok tokens ∧
      ∃ membersOf, diagram.RereadsMembers tokens membersOf := by
  obtain ⟨tokens, htokens, hreads⟩ := isReadIn_of_ofNotation hread
  have hspellable : Spellable tokens := isSpellable_of_mem_tokens htokens
  have hexists : ∀ element, ∃ members, element ∈ diagram.elements → element.kind ≠ .enumKind →
      element.Rereads tokens members := by
    intro element
    by_cases hboth : element ∈ diagram.elements ∧ element.kind ≠ .enumKind
    · obtain ⟨members, hrereads⟩ := (hreads element hboth.1).exists_rereads hspellable hboth.2
      exact ⟨members, fun _ _ => hrereads⟩
    · exact ⟨[], fun hmem hkind => absurd ⟨hmem, hkind⟩ hboth⟩
  obtain ⟨membersOf, hrereads⟩ := Classical.axiomOfChoice hexists
  have hconstants : ∀ element ∈ diagram.elements, element.kind = .enumKind →
      element.RereadsConstants tokens := fun element hmem hkind =>
    (hreads element hmem).rereadsConstants hspellable hkind
  have hstored : ∀ element ∈ diagram.elements, element.kind.isStored = true →
      element.Rereads tokens (membersOf element) := by
    intro element hmem hkind
    refine hrereads element hmem fun henum => ?_
    rw [henum] at hkind
    cases hkind
  refine ⟨tokens, htokens, membersOf, hrereads, hconstants, ?_, ?_⟩
  · intro faults hrefused fault hfault hmalformed
    obtain ⟨element, hmem, hmisdeclares⟩ :=
      blamesRightly_of_schema hrefused fault hfault hmalformed
    have hkind : element.kind.isStored = true := by
      cases hmisdeclares with
      | constant henum hdeclaration herror =>
        have hok := (hconstants element hmem henum).reread _ hdeclaration
        cases hok.symm.trans herror
      | «attribute» hkind => exact hkind
      | method hkind => exact hkind
    obtain ⟨member, hmember, typeToken, hdollar⟩ :=
      (hstored element hmem hkind).exists_dollar_of_misdeclares hkind hmisdeclares
    exact ⟨element, mem_storedElements_iff.2 ⟨hmem, hkind⟩, member, hmember, typeToken, hdollar⟩
  · intro schema hschema element hmem
    have hwell := wellFormed_of_schema hschema
    obtain ⟨helement, hkind⟩ := mem_storedElements_iff.1 hmem
    refine (hstored element helement hkind).opensWithDollar_eq_false ?_ (hwell.methods element hmem)
    intro declaration hdeclaration
    obtain ⟨declared, hdeclared, -⟩ := hwell.attributes element hmem declaration hdeclaration
    exact ⟨declared, hdeclared⟩

/-- The result of a method has a type that opens with a dollar sign. -/
def dollarResultText : String :=
  "class A \x7b f(): $T \x7d"

def dollarResult : Diagram where
  elements := [
    { id := "A"
      className := "A"
      attributes := []
      methods := ["f(): $T"]
      kind := .classKind }]
  relationships := []

theorem rereadsMembers_dollarResult : Diagram.ofNotation dollarResultText = .ok dollarResult ∧
    ∃ tokens, Notation.tokens dollarResultText = .ok tokens ∧
      ∃ membersOf, dollarResult.RereadsMembers tokens membersOf := by
  have hread : Diagram.ofNotation dollarResultText = .ok dollarResult := by decide +kernel
  exact ⟨hread, rereadsMembers_of_ofNotation hread⟩

/-- The readers of the notation take such a type, those of declarations do not. -/
theorem ofNotation_dollarResult_malformed :
    Diagram.ofNotation dollarResultText = .ok dollarResult ∧
      Method.read "f(): $T" = .error (.invalidType "$T") ∧
        dollarResult.schema = .error [.malformedMethod "f(): $T" "A" (.invalidType "$T")] := by
  decide +kernel

end Diagram

end ClassDiagram
