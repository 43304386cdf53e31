import ScriptBundle.Python.Module
import ScriptBundle.Text.Printable
import ScriptBundle.Import.Reference
import ScriptBundle.Import.StandardLibrary
import ScriptBundle.Import.Record
import ScriptBundle.Text.Lines
import ScriptBundle.Text.Position
import ScriptBundle.Text.Quoted
import ScriptBundle.Text.Utf8
import ScriptBundle.FileSystem.Tree
import ScriptBundle.Import.Closure
import ScriptBundle.CommandLine.Run
import ScriptBundle.Bundle.Contents
import ScriptBundle.Bundle.ImportTable
import ScriptBundle.Main
import ScriptBundle.Proofs.Closure.DepthFirst
import ScriptBundle.Proofs.Closure.Serves
import ScriptBundle.Proofs.Path.Collapse
import ScriptBundle.Proofs.FileSystem.Linkless
import ScriptBundle.Proofs.Closure.Rooted
import ScriptBundle.Proofs.Closure.Duplicates
import ScriptBundle.Proofs.Closure.Ancestors
import ScriptBundle.Proofs.FileSystem.Points
import ScriptBundle.Proofs.FileSystem.Tree
import ScriptBundle.Proofs.Bundle.ImportName
import ScriptBundle.Proofs.Closure.Overrides
import ScriptBundle.Proofs.Closure.Standard
import ScriptBundle.Proofs.Bundle.Indentation
import ScriptBundle.Proofs.Payload.Base64
import ScriptBundle.Proofs.Payload.PrefixCode
import ScriptBundle.Proofs.Payload.Balanced
import ScriptBundle.Proofs.Payload.Tokens
import ScriptBundle.Proofs.Payload.Marks
import ScriptBundle.Proofs.Payload.CodeLengths
import ScriptBundle.Proofs.Payload.Blocks
import ScriptBundle.Proofs.Bundle.Registrations
import ScriptBundle.Proofs.Bundle.Literals
import ScriptBundle.Proofs.Bundle.ReadBack
import ScriptBundle.Proofs.Closure.Ends
import ScriptBundle.Proofs.Closure.Breaks
import ScriptBundle.Proofs.Closure.Locations
import ScriptBundle.Proofs.Closure.Lenient
import ScriptBundle.Proofs.Closure.Modes
import ScriptBundle.Proofs.CommandLine.Options
import ScriptBundle.Proofs.CommandLine.Output
import ScriptBundle.Proofs.Bundle.Escapes
import ScriptBundle.Proofs.Import.FirstPlace
import ScriptBundle.Proofs.Import.Sites
import ScriptBundle.Proofs.Bundle.FutureImports
import ScriptBundle.Proofs.Closure.Names
import ScriptBundle.Proofs.Path.Equivalence
import ScriptBundle.Proofs.Import.Relative
import ScriptBundle.Proofs.FileSystem.Walks
import ScriptBundle.Proofs.Path.Distinct
import ScriptBundle.Proofs.Import.SearchRoots
import ScriptBundle.Proofs.Text.Position
import ScriptBundle.Proofs.Registry.FirstWins
import ScriptBundle.Proofs.Config.Settings
import ScriptBundle.Proofs.Config.Layers
import ScriptBundle.Proofs.Bundle.Block
import ScriptBundle.Proofs.Bundle.Contents
