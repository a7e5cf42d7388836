import ClassDiagram.Proofs.Fresh
import ClassDiagram.Java.TransferObject

/-!
# Names that are given

A field gets the first of its candidates that is free, or else the last of them with the least
number that makes it free. The name is not free any more for the fields of the entity, or the
references of the transfer object, whose turn comes later.
-/

namespace ClassDiagram

/-- The names of the references, the latest first. -/
def referenceNames (fields : List TransferField) : List String :=
  ((fields.filter fun field => field.reference.isSome).map TransferField.name).reverse

theorem referenceNames_cons_plain {field : TransferField} (fields : List TransferField)
    (hreference : field.reference = none) :
    referenceNames (field :: fields) = referenceNames fields := by
  simp [referenceNames, hreference]

theorem referenceNames_cons_renamed {field : TransferField} {reference : KeyReference}
    (name : String) (fields : List TransferField) (hreference : field.reference = some reference) :
    referenceNames ({ field with name } :: fields) = referenceNames fields ++ [name] := by
  simp [referenceNames, hreference]

theorem renameReferences_cons_reference {field : TransferField} {reference : KeyReference}
    (taken : List String) (rest : List TransferField)
    (hreference : field.reference = some reference) :
    renameReferences taken (field :: rest) =
      { field with name := freshAmong [field.name] taken } ::
        renameReferences (freshAmong [field.name] taken :: taken) rest := by
  simp only [renameReferences, hreference]

/-- When the turn of a field comes, the names of the references before it are taken as well. -/
theorem renameReferences_append (taken : List String) (front back : List TransferField) :
    renameReferences taken (front ++ back) =
      renameReferences taken front ++
        renameReferences (referenceNames (renameReferences taken front) ++ taken) back := by
  induction front generalizing taken with
  | nil => rfl
  | cons field rest ih =>
    rw [List.cons_append]
    cases hreference : field.reference with
    | none =>
      simp only [renameReferences, hreference, ih, referenceNames_cons_plain _ hreference,
        List.cons_append]
    | some reference =>
      rw [renameReferences_cons_reference taken _ hreference,
        renameReferences_cons_reference taken _ hreference,
        referenceNames_cons_renamed _ _ hreference, ih, List.cons_append, List.append_assoc,
        List.singleton_append]

/-- Names are tried in their order, `base`, `base_2`, `base_3`, … for a base and the candidates and
then the last of them with 2, 3, … behind it for candidates, and the first that is free is given.
There are no more to try than those wanted and as many as there are names taken. A field that gets
its name from candidates takes just this name from what is free for the later ones. -/
theorem freshNames_given (taken : List String) :
    (∀ base, ∃ place ≤ 1 + taken.dedup.length,
      StopsAt (triedName [base] (base ++ "_")) taken place ∧
        freshName base taken = triedName [base] (base ++ "_") place) ∧
    (∀ candidates, ∃ place ≤ candidates.length + taken.dedup.length,
      StopsAt (triedName candidates (candidates.getLastD "field")) taken place ∧
        freshAmong candidates taken =
          triedName candidates (candidates.getLastD "field") place) ∧
    (∀ candidates, freshAmong candidates taken ∉ taken) ∧
    (∀ fields candidates javaType kind,
      FieldDraft.add { fields, taken } candidates javaType kind =
        { fields := fields ++ [{ name := freshAmong candidates taken, javaType, kind }]
          taken := freshAmong candidates taken :: taken }) ∧
    ∀ front name javaType reference back,
      let before := renameReferences taken front
      let known := referenceNames before ++ taken
      let given := freshAmong [name] known
      renameReferences taken (front ++ { name, javaType, reference := some reference } :: back) =
        before ++ { name := given, javaType, reference := some reference } ::
          renameReferences (given :: known) back := by
  refine ⟨fun base => freshName_stopsAt base taken,
    fun candidates => freshAmong_stopsAt candidates taken,
    fun candidates => freshAmong_not_mem candidates taken, fun _ _ _ _ => rfl, ?_⟩
  intro front name javaType reference back before known given
  rw [renameReferences_append]
  rfl

end ClassDiagram
