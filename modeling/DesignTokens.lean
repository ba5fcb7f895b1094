import DesignTokens.Access
import DesignTokens.Main
import DesignTokens.Proofs.FlatMap
import DesignTokens.Proofs.Flattening
import DesignTokens.Proofs.Positions
import DesignTokens.Proofs.JsonReading
import DesignTokens.Proofs.FileTree
import DesignTokens.Proofs.Writing
import DesignTokens.Proofs.ReadPath
import DesignTokens.Proofs.LostUpdate
import DesignTokens.Proofs.Loading
import DesignTokens.Proofs.LastGood
import DesignTokens.Proofs.BaseSheet
import DesignTokens.Proofs.SharedStores
import DesignTokens.Proofs.Isolation
import DesignTokens.Proofs.Reports
import DesignTokens.Proofs.Entries
import DesignTokens.Proofs.NumberText
import DesignTokens.Proofs.Metadata
import DesignTokens.Proofs.Configuration
import DesignTokens.Proofs.ConfigMetadata
import DesignTokens.Proofs.BrokenBuilds
import DesignTokens.Proofs.Rounding
import DesignTokens.Proofs.Shortest
import DesignTokens.Proofs.NumberReading
import DesignTokens.Proofs.JsonRoundTrip
import DesignTokens.Proofs.Utf8
import DesignTokens.Proofs.JsonFiles
import DesignTokens.Proofs.ConfigRoundTrip
import DesignTokens.Proofs.TextKeys
import DesignTokens.Proofs.TokenPaths
import DesignTokens.Proofs.FrameworkTokens
import DesignTokens.Proofs.InlineColors
import DesignTokens.Proofs.ExitCodes
import DesignTokens.Proofs.JsonInYaml
import DesignTokens.Proofs.Polling
import DesignTokens.Proofs.ReadAccess
import DesignTokens.Proofs.Rebuilding
import DesignTokens.Proofs.LookUps
import DesignTokens.Proofs.ThemeExtension
import DesignTokens.Proofs.Decoding
import DesignTokens.Proofs.Wrapping
import DesignTokens.Proofs.Continuation
import DesignTokens.Proofs.FlatDocuments
import DesignTokens.Proofs.Groups
import DesignTokens.Proofs.LocalEdits
import DesignTokens.Proofs.FontStacks
import DesignTokens.Proofs.PollingRuns
import DesignTokens.Proofs.TomlReading
import DesignTokens.Proofs.VersionLookup
import DesignTokens.Proofs.FittingText
import DesignTokens.Proofs.FittingTables
import DesignTokens.Proofs.PlainMarkup
import DesignTokens.Proofs.Summaries
