import FlowLang.Cpp.Trace
import FlowLang.Editor.Workspace
import FlowLang.Json.Printer
import FlowLang.Main
import FlowLang.Service.Conversation
import FlowLang.Service.Http
import FlowLang.Service.Launch
import FlowLang.Proofs.Cpp.Blocks
import FlowLang.Proofs.Cpp.Needs
import FlowLang.Proofs.Cpp.Pieces
import FlowLang.Proofs.Editor.Hover
import FlowLang.Proofs.Editor.Outline
import FlowLang.Proofs.Cpp.Rearrange
import FlowLang.Proofs.Cpp.Sections
import FlowLang.Proofs.Statement.Render
import FlowLang.Proofs.Service.Interleaving
import FlowLang.Proofs.Service.Session
import FlowLang.Proofs.Cpp.Layout
import FlowLang.Proofs.Statement.Grammar
import FlowLang.Proofs.CommandLine
import FlowLang.Proofs.Cpp.Comments
import FlowLang.Proofs.FrontEnds
import FlowLang.Proofs.Service.Readings
import FlowLang.Proofs.Runner
import FlowLang.Proofs.Cpp.Identifiers
import FlowLang.Proofs.Cpp.Values
import FlowLang.Proofs.Cpp.Parentheses
import FlowLang.Proofs.Statement.Signatures
import FlowLang.Proofs.Editor.Ranges
import FlowLang.Proofs.Editor.Completion
import FlowLang.Proofs.Service.Conversation
import FlowLang.Proofs.Statement.Record
