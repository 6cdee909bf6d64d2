import Skinning.Binding.Bind
import Skinning.Journal
import Skinning.Screen.Summary
import Skinning.Skin.Start
import Skinning.Proofs.Grammar
import Skinning.Proofs.Surroundings
import Skinning.Proofs.Tiling
import Skinning.Proofs.Merging
import Skinning.Proofs.LocalFaults
import Skinning.Proofs.DocumentOrder
import Skinning.Proofs.PlainPaths
import Skinning.Proofs.IncludeNesting
import Skinning.Proofs.ConverterTrie
import Skinning.Proofs.NodeOutcome
import Skinning.Proofs.SharedConverters
import Skinning.Proofs.FileSearch
import Skinning.Proofs.PanelNesting
import Skinning.Proofs.FileSuffixes
import Skinning.Proofs.FragmentFiles
import Skinning.Proofs.DeclaredNames
import Skinning.Proofs.FragmentChoice
import Skinning.Proofs.BoundNames
import Skinning.Proofs.StyleReading
import Skinning.Proofs.StyleReplay
import Skinning.Proofs.PairedRuns
import Skinning.Proofs.Rebinding
import Skinning.Proofs.WrittenDocuments
import Skinning.Proofs.InliningWalk
import Skinning.Proofs.KeyCascade
import Skinning.Proofs.StartingAgain
import Skinning.Proofs.SourceResolution
import Skinning.Proofs.AddonNames
import Skinning.Proofs.SkippedNodes
import Skinning.Proofs.Transposition
import Skinning.Proofs.UnusedElements
import Skinning.Proofs.EmbeddedCandidates
import Skinning.Proofs.TransparentPanels
import Skinning.Proofs.OverlappingPlacements
import Skinning.Proofs.FilledSpaces
import Skinning.Proofs.FailedCoordinates
import Skinning.Proofs.RootPositions
import Skinning.Proofs.WrittenFormulas
import Skinning.Proofs.TokenTexts
import Skinning.Proofs.LexemeTiling
import Skinning.Proofs.SyntaxFaults
import Skinning.Proofs.FormulaNames
import Skinning.Proofs.WholeFloats
import Skinning.Proofs.NumeralCoordinates
import Skinning.Proofs.PixelCounts
import Skinning.Proofs.StoppedMerges
import Skinning.Proofs.WidgetFields
import Skinning.Proofs.ReadAttributes
import Skinning.Proofs.AttributeOrder
import Skinning.Proofs.FailedAttributes
import Skinning.Proofs.BatchGroups
import Skinning.Proofs.ElementLines
import Skinning.Proofs.EmergencyDocument
import Skinning.Proofs.ConfiguredSurfaces
import Skinning.Proofs.ColorTexts
import Skinning.Proofs.RoundedCorners
import Skinning.Proofs.Rescaling
import Skinning.Proofs.ListedWords
import Skinning.Proofs.QuotedTexts
import Skinning.Proofs.FilledTemplates
import Skinning.Proofs.WrittenSections
import Skinning.Proofs.BuiltTables
import Skinning.Proofs.KeptSettings
