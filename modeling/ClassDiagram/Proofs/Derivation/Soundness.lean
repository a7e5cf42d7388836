import ClassDiagram.Java.ProjectFiles
import ClassDiagram.Proofs.Derivation.Acceptance

/-!
# Derived schemas keep the rules

What the passes of the derivation come to for a diagram that is accepted: the schema of its
elements and their hierarchy has grown by foreign keys and join tables, and has stayed sound all
the time. The check before the generation of sources therefore never refuses a derived schema.
-/

namespace ClassDiagram.Diagram

variable {diagram : Diagram} {schema : Schema}

theorem joinedWellFormed_of_schema (haccepted : diagram.schema = .ok schema) :
    diagram.JoinedWellFormed :=
  (wellFormed_iff.1 (wellFormed_of_schema haccepted)).1

theorem sound_of_schema (haccepted : diagram.schema = .ok schema) : schema.Sound :=
  (schema_eq_ok_iff.1 haccepted).2 ▸ (joinedWellFormed_of_schema haccepted).adds.sound

/-- The tables of the elements have got one foreign key for every place, in the order of the
relationships. -/
theorem growsBy_of_schema (haccepted : diagram.schema = .ok schema) :
    diagram.joinedDraft.schema.GrowsBy
      (diagram.placements.filterMap PlacedRelationship.keyPlace?) schema :=
  (schema_eq_ok_iff.1 haccepted).2 ▸ (joinedWellFormed_of_schema haccepted).adds.grows

/-- What the schema of the elements has, and each relationship keeps, a derived schema has. -/
theorem keeps_of_schema (haccepted : diagram.schema = .ok schema) {kept : Schema → Prop}
    (hjoined : kept diagram.joinedDraft.schema)
    (hstep : ∀ (draft : Draft) (placed : PlacedRelationship), draft.schema.Sound →
      placed.LiesIn draft.schema → kept draft.schema → kept (draft.addPlaced placed).schema) :
    kept schema := by
  have hwell := joinedWellFormed_of_schema haccepted
  rw [← (schema_eq_ok_iff.1 haccepted).2]
  exact Draft.foldl_addPlaced_keeps hstep diagram.placements diagram.joinedDraft hwell.sound
    (placements_lieIn hwell) hjoined

/-- A derived schema keeps all rules, so its sources are generated, and if a project with files
around them fails, it is not because of a broken rule. -/
theorem schema_keepsRules (haccepted : diagram.schema = .ok schema) :
    schema.faults = [] ∧ schema.KeepsRules ∧ ∀ project,
      (∃ bundle, schema.generate project = .ok bundle) ∧
        ∀ dialect faults, schema.generateProject project dialect ≠ .error (.badSchema faults) := by
  have hrules : schema.KeepsRules := (sound_of_schema haccepted).rules
  have hfaults : schema.faults = [] := Schema.faults_eq_nil_iff.2 hrules
  refine ⟨hfaults, hrules, fun project => ?_⟩
  have hgenerate : schema.generate project = .ok (Backend.full schema project).bundle := by
    rw [Schema.generate, Backend.generate,
      show (Backend.full schema project).schema.faults = [] from hfaults]
  refine ⟨⟨_, hgenerate⟩, fun dialect faults heq => ?_⟩
  rw [Schema.generateProject, hgenerate] at heq
  cases hfiles : schema.projectFiles project dialect with
  | error fault =>
    rw [hfiles] at heq
    cases heq
  | ok files =>
    rw [hfiles] at heq
    cases heq

/-- The staff of the shop. They declare no key. -/
def shopStaff : Element where
  id := "1"
  className := "Staff"
  attributes := ["name: String", "role: Role"]
  methods := ["promote(to: Role): void"]
  kind := .classKind

def shopProduct : Element where
  id := "3"
  className := "Product"
  attributes := ["price: BigDecimal"]
  methods := []
  kind := .classKind

/-- A shop in which the staff extend the users, products refer to the staff that sell them, and
products contain products. The staff stand before the users that they extend. -/
def shop : Diagram where
  elements :=
    [shopStaff,
      { id := "2"
        className := "User"
        attributes := ["id: UUID", "name: String"]
        methods := []
        kind := .abstractKind },
      shopProduct,
      { id := "4"
        className := "Role"
        attributes := ["CLERK", "MANAGER"]
        methods := []
        kind := .enumKind }]
  relationships :=
    [{ id := "r1"
       sourceId := "3"
       targetId := "1"
       kind := .association
       sourceCardinality := "*"
       targetCardinality := "0..1" },
      { id := "r2"
        sourceId := "1"
        targetId := "2"
        kind := .inheritance
        sourceCardinality := ""
        targetCardinality := "" },
      { id := "r3"
        sourceId := "3"
        targetId := "3"
        kind := .aggregation
        sourceCardinality := "*"
        targetCardinality := "*" }]

theorem shop_schema : shop.schema = .ok shop.draft.schema :=
  schema_eq_ok_iff.2 ⟨by decide +kernel, rfl⟩

theorem schema_keepsRules_shop :
    shop.schema = .ok shop.draft.schema ∧ shop.draft.schema.faults = [] ∧
      shop.draft.schema.KeepsRules :=
  ⟨shop_schema, (schema_keepsRules shop_schema).1, (schema_keepsRules shop_schema).2.1⟩

end ClassDiagram.Diagram
