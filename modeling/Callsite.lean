import Callsite.Body
import Callsite.Calls
import Callsite.CommandLine.Run
import Callsite.Main
import Callsite.Proofs.Afresh
import Callsite.Proofs.CallTree
import Callsite.Proofs.CommentLines
import Callsite.Proofs.Coupling
import Callsite.Proofs.Directions
import Callsite.Proofs.Ending
import Callsite.Proofs.Keywords
import Callsite.Proofs.Language.Bodies
import Callsite.Proofs.Language.Calls
import Callsite.Proofs.Language.Comments
import Callsite.Proofs.Language.Names
import Callsite.Proofs.Language.Scopes
import Callsite.Proofs.Language.ShippedRegistry
import Callsite.Proofs.Language.ShippedTemplates
import Callsite.Proofs.Mirror
import Callsite.Proofs.Outcome
import Callsite.Proofs.Paths
import Callsite.Proofs.Pattern.Captures
import Callsite.Proofs.Pattern.Slot
import Callsite.Proofs.Provenance
import Callsite.Proofs.Pruning
import Callsite.Proofs.ReadingOrder
import Callsite.Proofs.Scans
import Callsite.Proofs.Shape
import Callsite.Proofs.Text.JoinedLines
import Callsite.Proofs.Histories
import Callsite.Proofs.Reports
import Callsite.Proofs.PathOrder
import Callsite.Proofs.Relocation
import Callsite.Proofs.Text.Lowercase
import Callsite.Proofs.Language.CanonicalNames
import Callsite.Proofs.Language.Registration
import Callsite.Proofs.Pattern.Frame
import Callsite.Proofs.Pattern.Reading
import Callsite.Proofs.Pattern.Cover
import Callsite.Proofs.Text.Words
import Callsite.Proofs.Language.CallSites
import Callsite.Proofs.Pattern.Modifiers
import Callsite.Proofs.Language.ShippedFrames
import Callsite.Proofs.Language.AbstractRules
import Callsite.Proofs.Language.FindableScopes
import Callsite.Proofs.SourceLines
import Callsite.Proofs.FirstDefinition
import Callsite.Proofs.Attribution
import Callsite.Proofs.Records
import Callsite.Proofs.WrittenFiles
import Callsite.Proofs.Toml.Quoted
import Callsite.Proofs.Toml.Values
import Callsite.Proofs.Toml.Documents
import Callsite.Proofs.SavedSettings
import Callsite.Proofs.Balance
import Callsite.Proofs.Pattern.Extension
import Callsite.Proofs.FirstTexts
import Callsite.Proofs.Language.WiderBodies
import Callsite.Proofs.WiderTrees
import Callsite.Proofs.OffSide
import Callsite.Proofs.Surroundings
import Callsite.Proofs.CheckedArithmetic
import Callsite.Proofs.Language.CallOrder
import Callsite.Proofs.Language.LiteralTargets
import Callsite.Proofs.Pattern.Edges
import Callsite.Proofs.Language.WholeNames
import Callsite.Proofs.Language.CallTokens
import Callsite.Proofs.Language.NearestScopes
import Callsite.Proofs.Language.Offers
import Callsite.Proofs.Language.Tokens
import Callsite.Proofs.Pattern.Kinds
import Callsite.Proofs.Language.StatementLed
import Callsite.Proofs.Language.MethodLines
import Callsite.Proofs.Language.BlockComments
import Callsite.Proofs.Language.Routes
import Callsite.Proofs.Expansions
import Callsite.Proofs.TreeMeasures
import Callsite.Proofs.Spellings
import Callsite.Proofs.CachedDefinitions
import Callsite.Proofs.CalleeSearches
