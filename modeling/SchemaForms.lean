import SchemaForms.Node.Traversal
import SchemaForms.Text.Characters
import SchemaForms.Catalogue
import SchemaForms.Diagnostic
import SchemaForms.Documentation
import SchemaForms.Field
import SchemaForms.Field.Edit
import SchemaForms.Json
import SchemaForms.Json.Text
import SchemaForms.Field.Form
import SchemaForms.Group
import SchemaForms.Rule
import SchemaForms.Filling
import SchemaForms.Compilation
import SchemaForms.Scan
import SchemaForms.Xml.Fault
import SchemaForms.Xml.Prolog
import SchemaForms.Node.OfXml
import SchemaForms.Files
import SchemaForms.SchemaSource
import SchemaForms.Toml.Document
import SchemaForms.Bindings
import SchemaForms.Configuration
import SchemaForms.Report
import SchemaForms.Arguments
import SchemaForms.Main
import SchemaForms.Proofs.Walk
import SchemaForms.Proofs.CatalogueIndex
import SchemaForms.Proofs.CompilationWalk
import SchemaForms.Proofs.WalkPosition
import SchemaForms.Proofs.WalkInvariant
import SchemaForms.Proofs.MissingName
import SchemaForms.Proofs.WalkBounds
import SchemaForms.Proofs.DiagnosticTruth
import SchemaForms.Proofs.FillingParts
import SchemaForms.Proofs.ReferenceGraph
import SchemaForms.Proofs.RecursionGuard
import SchemaForms.Proofs.FieldOrigin
import SchemaForms.Proofs.GroupMembers
import SchemaForms.Proofs.XmlRole
import SchemaForms.Proofs.TypeConsistency
import SchemaForms.Proofs.Draft
import SchemaForms.Proofs.Contribution
import SchemaForms.Proofs.CallHistory
import SchemaForms.Proofs.NeededDefinitions
import SchemaForms.Proofs.LikeSteps
import SchemaForms.Proofs.LikeReadings
import SchemaForms.Proofs.Qualifiers
import SchemaForms.Proofs.LikeTexts
import SchemaForms.Proofs.Insertions
import SchemaForms.Proofs.ExtraPairs
import SchemaForms.Proofs.InlineTypes
import SchemaForms.Proofs.ObjectKeys
import SchemaForms.Proofs.GroupedTyping
import SchemaForms.Proofs.DirectoryFetch
import SchemaForms.Proofs.JsonReader
import SchemaForms.Proofs.ShuffledDocuments
import SchemaForms.Proofs.RestrictionReading
import SchemaForms.Proofs.DeclaredItems
import SchemaForms.Proofs.Inheritance
import SchemaForms.Proofs.StackBalance
import SchemaForms.Proofs.CatalogueContents
import SchemaForms.Proofs.XmlReading
import SchemaForms.Proofs.DocumentationParts
import SchemaForms.Proofs.SchemaPlaces
import SchemaForms.Proofs.TraversalOrder
import SchemaForms.Proofs.PairHistory
import SchemaForms.Proofs.StyledReports
