import ClassDiagram.Main
import ClassDiagram.CommandLine.FileTree
import ClassDiagram.Text.Width
import ClassDiagram.Notation.Diagram
import ClassDiagram.Notation.Printer
import ClassDiagram.Json.Diagram
import ClassDiagram.Fresh
import ClassDiagram.Conventions
import ClassDiagram.Schema.Vocabulary
import ClassDiagram.Schema.Ancestry
import ClassDiagram.Schema.Validity
import ClassDiagram.Schema.Addition
import ClassDiagram.Schema.Derivation
import ClassDiagram.Sql.Script
import ClassDiagram.Schema.Increment
import ClassDiagram.Java.Backend
import ClassDiagram.Java.ProjectFiles
import ClassDiagram.Proofs.Derivation.ReferenceTypes
import ClassDiagram.Proofs.Derivation.Columns
import ClassDiagram.Proofs.Derivation.Appending
import ClassDiagram.Proofs.Schema.Merge
import ClassDiagram.Proofs.Sql.Script
import ClassDiagram.Proofs.Sql.Increment
import ClassDiagram.Proofs.Java.Increment
import ClassDiagram.Proofs.Java.Agreement
import ClassDiagram.Proofs.Java.Associations
import ClassDiagram.Proofs.Derivation.Enumerations
import ClassDiagram.Proofs.Java.Files
import ClassDiagram.Proofs.Java.Writing
import ClassDiagram.Proofs.Notation.Scanning
import ClassDiagram.Proofs.Notation.Readings
import ClassDiagram.Proofs.Notation.Types
import ClassDiagram.Proofs.Notation.Members
import ClassDiagram.Proofs.Notation.Relationships
import ClassDiagram.Proofs.Notation.RoundTrip
import ClassDiagram.Proofs.Derivation.ColumnTypes
import ClassDiagram.Proofs.Notation.Declarations
import ClassDiagram.Proofs.Derivation.DeclarationFaults
import ClassDiagram.Proofs.Notation.Entries
import ClassDiagram.Proofs.Notation.Rereading
import ClassDiagram.Proofs.CommandLine.Places
import ClassDiagram.Proofs.Text.Words
import ClassDiagram.Proofs.Java.Containment
import ClassDiagram.Proofs.Java.Accessors
import ClassDiagram.Proofs.Java.ForeignKeyFields
import ClassDiagram.Proofs.Java.Calls
import ClassDiagram.Proofs.Derivation.Links
import ClassDiagram.Proofs.Derivation.Direction
import ClassDiagram.Proofs.Derivation.Order
import ClassDiagram.Proofs.Sql.Lossless
import ClassDiagram.Proofs.Derivation.FurtherRelationships
import ClassDiagram.Proofs.Schema.Settling
import ClassDiagram.Proofs.Java.WrittenSides
import ClassDiagram.Proofs.Java.TransferNames
import ClassDiagram.Proofs.Java.FieldNames
import ClassDiagram.Proofs.Java.FinderNames
import ClassDiagram.Proofs.Java.AssociationStems
import ClassDiagram.Proofs.Java.LegalNames
import ClassDiagram.Proofs.Sql.BareNames
import ClassDiagram.Proofs.Java.AnnotationNames
import ClassDiagram.Proofs.Java.JoinedClasses
import ClassDiagram.Proofs.Hierarchy.Cycles
import ClassDiagram.Proofs.Derivation.FirstEnumerations
import ClassDiagram.Proofs.Derivation.ColumnFlags
import ClassDiagram.Proofs.Notation.NormalForms
import ClassDiagram.Proofs.Java.SignatureBrackets
import ClassDiagram.Proofs.Sql.TypeTexts
import ClassDiagram.Proofs.Notation.Separators
import ClassDiagram.Proofs.Notation.Cutting
import ClassDiagram.Proofs.Notation.OptionalSeparators
import ClassDiagram.Proofs.Derivation.FaultOrder
import ClassDiagram.Proofs.Java.ReferenceStems
import ClassDiagram.Proofs.Hierarchy.Walks
import ClassDiagram.Proofs.Java.GivenNames
