import MarkupTree.CommandLine.System
import MarkupTree.Element
import MarkupTree.Main
import MarkupTree.Record
import MarkupTree.Schema
import MarkupTree.Value.Equality
import MarkupTree.Proofs.AttributeSlots
import MarkupTree.Proofs.Escaping
import MarkupTree.Proofs.Slots
import MarkupTree.Proofs.Grammar
import MarkupTree.Proofs.SlotReports
import MarkupTree.Proofs.TextNormalization
import MarkupTree.Proofs.UniqueReading
import MarkupTree.Proofs.FirstFault
import MarkupTree.Proofs.Shape
import MarkupTree.Proofs.Accessors
import MarkupTree.Proofs.ConversionSteps
import MarkupTree.Proofs.SxmlFault
import MarkupTree.Proofs.SxmlReading
import MarkupTree.Proofs.SxmlGrammar
import MarkupTree.Proofs.SourcePath
import MarkupTree.Proofs.Locality
import MarkupTree.Proofs.JsonSpelling
import MarkupTree.Proofs.JsonTree
import MarkupTree.Proofs.JsonGrammar
import MarkupTree.Proofs.CanonicalSpelling
import MarkupTree.Proofs.Respelling
import MarkupTree.Proofs.DocumentPath
import MarkupTree.Proofs.Arguments
import MarkupTree.Proofs.LineBreaks
import MarkupTree.Proofs.MessagePath
import MarkupTree.Proofs.RenderRuns
import MarkupTree.Proofs.ErrorLines
import MarkupTree.Proofs.ConversionTrace
import MarkupTree.Proofs.LogLines
import MarkupTree.Proofs.ShorthandNames
import MarkupTree.Proofs.Documented
import MarkupTree.Proofs.SchemaChecks
import MarkupTree.Proofs.CheckerLaws
import MarkupTree.Proofs.DeclaredNodes
import MarkupTree.Proofs.NodeRecords
import MarkupTree.Proofs.SchemaGrammar
import MarkupTree.Proofs.KnownKind
import MarkupTree.Proofs.Records
import MarkupTree.Proofs.RenderedSpellings
