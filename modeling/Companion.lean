import Companion.Main
import Companion.Text.Utf8
import Companion.Proofs.Scalar.BareTokens
import Companion.Proofs.Directive.Grammar
import Companion.Proofs.Directive.Scan
import Companion.Proofs.Directive.RoundTrip
import Companion.Proofs.FileTree.Paths
import Companion.Proofs.Run.Discovery
import Companion.Proofs.OutputFile
import Companion.Proofs.Generator
import Companion.Proofs.Run.Settling
import Companion.Proofs.FileTree.Companions
import Companion.Proofs.Run.Compiled
import Companion.Proofs.Run.Idempotence
import Companion.Proofs.Source.Lexing
import Companion.Proofs.Source.Spelling
import Companion.Proofs.Code.Tokens
import Companion.Proofs.Code.Layout
import Companion.Proofs.Code.RoundTrip
import Companion.Proofs.Directive.Index
import Companion.Proofs.MessageTable
import Companion.Proofs.Template
import Companion.Proofs.Template.Sessions
import Companion.Proofs.Family.Messages
import Companion.Proofs.Family.Rendered
import Companion.Proofs.Family.Meaning
import Companion.Proofs.Run.Effect
import Companion.Proofs.Run.Modes
import Companion.Proofs.Run.Sources
import Companion.Proofs.OutputFile.Clashes
import Companion.Proofs.MessageTable.Representation
import Companion.Proofs.MessageTable.Request
import Companion.Proofs.Family.CodeConstant
import Companion.Proofs.Generator.Sessions
import Companion.Proofs.Generator.Support
import Companion.Proofs.Directive.Progress
import Companion.Proofs.Directive.Concatenation
import Companion.Proofs.Directive.Places
import Companion.Proofs.Directive.Completion
import Companion.Proofs.Directive.QuotedValues
import Companion.Proofs.OutputFile.Assembly
import Companion.Proofs.AnnotatedType
import Companion.Proofs.Text.Literals
import Companion.Proofs.FileTree.Creation
import Companion.Proofs.Run.DiscoveryOrder
import Companion.Proofs.Text.Case
import Companion.Proofs.Text.Words
import Companion.Proofs.Source.Names
import Companion.Proofs.Family.ModuleConstant
import Companion.Proofs.Compilation.Constants
