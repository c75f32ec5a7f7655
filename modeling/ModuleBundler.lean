import ModuleBundler.Main
import ModuleBundler.Grammar.Nesting
import ModuleBundler.Proofs.Needs
import ModuleBundler.Proofs.Naming
import ModuleBundler.Proofs.ExportLookup
import ModuleBundler.Proofs.ExportHistory
import ModuleBundler.Proofs.Place
import ModuleBundler.Proofs.Scanning
import ModuleBundler.Proofs.TokenChain
import ModuleBundler.Proofs.BufferedTokens
import ModuleBundler.Proofs.Reading
import ModuleBundler.Proofs.Productions.Pattern
import ModuleBundler.Proofs.Productions.Function
import ModuleBundler.Proofs.Productions.Expression
import ModuleBundler.Proofs.Productions.Statement
import ModuleBundler.Proofs.Productions.ImportExport
import ModuleBundler.Proofs.Productions.Module
import ModuleBundler.Proofs.BoundNames
import ModuleBundler.Proofs.Discovered
import ModuleBundler.Proofs.EvaluationOrder
import ModuleBundler.Proofs.Linked
import ModuleBundler.Proofs.Emission
import ModuleBundler.Proofs.WrittenSlots
import ModuleBundler.Proofs.ClosedBundle
import ModuleBundler.Proofs.BundlePieces
import ModuleBundler.Proofs.ExportSource
import ModuleBundler.Proofs.OutsideStars
import ModuleBundler.Proofs.DiscoverySteps
import ModuleBundler.Proofs.HostingOrigin
import ModuleBundler.Proofs.UnusedFiles
import ModuleBundler.Proofs.ScopeIndices
import ModuleBundler.Proofs.ModuleIndices
import ModuleBundler.Proofs.LinePlaces
import ModuleBundler.Proofs.DiscoveryEnds
import ModuleBundler.Proofs.NoInternalError
import ModuleBundler.Proofs.BundleParts
import ModuleBundler.Proofs.EditEdges
import ModuleBundler.Proofs.PartMarks
import ModuleBundler.Proofs.NestedEdits
import ModuleBundler.Proofs.ItemSubstitution
import ModuleBundler.Proofs.ReachableGraph
import ModuleBundler.Proofs.SourceMapEntries
import ModuleBundler.Proofs.MadeUpNames
import ModuleBundler.Proofs.RuntimeGlobals
import ModuleBundler.Proofs.ExportLists
import ModuleBundler.Proofs.TokenText
import ModuleBundler.Proofs.Productions.ExpressionSpans
import ModuleBundler.Proofs.Syntax.Outline
import ModuleBundler.Proofs.Syntax.Phrase
import ModuleBundler.Proofs.Syntax.Rules
import ModuleBundler.Proofs.Syntax.TextRead
import ModuleBundler.Proofs.Syntax.Parsing
import ModuleBundler.Proofs.Syntax.Pattern
import ModuleBundler.Proofs.Syntax.Function
import ModuleBundler.Proofs.Syntax.Expression
import ModuleBundler.Proofs.Syntax.Statement
import ModuleBundler.Proofs.Syntax.ImportExport
import ModuleBundler.Proofs.Syntax.Module
import ModuleBundler.Proofs.RecordStructure
import ModuleBundler.Proofs.HoistedNames
import ModuleBundler.Proofs.Syntax.Readings
import ModuleBundler.Proofs.EvaluatedEffects
import ModuleBundler.Proofs.ResolvedNames
import ModuleBundler.Proofs.Syntax.Sites
import ModuleBundler.Proofs.ParameterScopes
import ModuleBundler.Proofs.NestingLimit
import ModuleBundler.Proofs.PostOrder
import ModuleBundler.Proofs.BuiltScopes
import ModuleBundler.Proofs.ExportChains
import ModuleBundler.Proofs.Machine.AbandonedArrow
import ModuleBundler.Proofs.Machine.JumpChecks
import ModuleBundler.Proofs.RecordedMappings
import ModuleBundler.Proofs.LinkingEnds
import ModuleBundler.Proofs.ParsingEnds
import ModuleBundler.Proofs.LineCounts
import ModuleBundler.Proofs.TokenGaps
import ModuleBundler.Proofs.LossyUtf16
import ModuleBundler.Proofs.StringLiterals
import ModuleBundler.Proofs.WholeTokens
import ModuleBundler.Proofs.QuotedNames
import ModuleBundler.Proofs.WrittenNames
import ModuleBundler.Proofs.RecordedNames
import ModuleBundler.Proofs.StarOrder
import ModuleBundler.Proofs.OutsideImports
import ModuleBundler.Proofs.ExactNumbers
import ModuleBundler.Proofs.LineTerminators
import ModuleBundler.Proofs.Underlines
import ModuleBundler.Proofs.JoinedPaths
import ModuleBundler.Proofs.BindingNames
import ModuleBundler.Proofs.FileLoading
import ModuleBundler.Proofs.DeclaredExports
