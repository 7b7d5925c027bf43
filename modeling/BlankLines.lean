import BlankLines.Main
import BlankLines.Proofs.TokenFile.Code
import BlankLines.Proofs.Fixer.Acceptance
import BlankLines.Proofs.Rule.Report
import BlankLines.Proofs.Linter.Passes
import BlankLines.Proofs.Rule.Surplus
import BlankLines.Proofs.Linter.Preservation
import BlankLines.Proofs.Fixer.Region
import BlankLines.Proofs.Fixer.Order
import BlankLines.Proofs.TokenFile.Gap
import BlankLines.Proofs.Rule.BraceSpacing
import BlankLines.Proofs.Rule.MethodSpacing
import BlankLines.Proofs.Fixer.Repair
import BlankLines.Proofs.Linter.Demand
import BlankLines.Proofs.Linter.Settling
import BlankLines.Proofs.Rule.MethodPasses
import BlankLines.Proofs.TokenFile.Landmark
import BlankLines.Proofs.Fixer.Finish
import BlankLines.Proofs.TokenFile.Recut
import BlankLines.Proofs.Rule.Scopes
import BlankLines.Proofs.Linter.Progress
import BlankLines.Proofs.Linter.Harmony
import BlankLines.Proofs.Json.Record
import BlankLines.Proofs.TokenFile.Dump
import BlankLines.Proofs.TokenFile.Reload
import BlankLines.Proofs.TokenFile.Outline
import BlankLines.Proofs.Linter.Packing
import BlankLines.Proofs.Linter.Shift
import BlankLines.Proofs.Attempt
import BlankLines.Proofs.Keyed
import BlankLines.Proofs.Config.Reading
import BlankLines.Proofs.Linter.Configured
import BlankLines.Proofs.Linter.Independence
import BlankLines.Proofs.FileTree.Names
import BlankLines.Proofs.Linter.Directory
import BlankLines.Proofs.FileTree.Writing
import BlankLines.Proofs.Run.Fix
import BlankLines.Proofs.Config.Tables
import BlankLines.Proofs.Json.Value
import BlankLines.Proofs.Report.Json
import BlankLines.Proofs.Run.Agreement
import BlankLines.Proofs.Fixer.Numbering
import BlankLines.Proofs.Rule.ClosingGap
import BlankLines.Proofs.Settings
import BlankLines.Proofs.TokenFile.Walk
import BlankLines.Proofs.Rule.Walk
import BlankLines.Proofs.Linter.Fixes
import BlankLines.Proofs.Rule.Counting
import BlankLines.Proofs.Config.Acceptance
import BlankLines.Proofs.Config.Include
import BlankLines.Proofs.Run.Code
import BlankLines.Proofs.Glob
import BlankLines.Proofs.Config.Ignoring
import BlankLines.Proofs.TokenFile.Fault
import BlankLines.Proofs.TokenFile.Nearest
