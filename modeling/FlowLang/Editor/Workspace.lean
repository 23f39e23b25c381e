import FlowLang.Editor.Completion
import FlowLang.Editor.Hover
import FlowLang.Editor.Outline
import FlowLang.Log
import FlowLang.OsError

/-!
# Workspaces

The documents that an editor has open, and the questions that it asks about them. A question about a document that is
not open is answered by the error for a missing file.
-/

namespace FlowLang.Editor

open Text

/-- A document: its path and its present text. -/
structure Document where
  path : Text
  text : Text
  deriving DecidableEq, Repr

/-- The open documents, at most one for a path. -/
structure Workspace where
  documents : List Document
  deriving DecidableEq, Repr

namespace Workspace

/-- Nothing open. -/
def empty : Workspace :=
  ⟨[]⟩

/-- Opens a document, or replaces the text of one that is open. -/
def put (w : Workspace) (path text : Text) : Workspace :=
  ⟨⟨path, text⟩ :: w.documents.filter (·.path != path)⟩

/-- The text of an open document. -/
def text? (w : Workspace) (path : Text) : Except OsError Text :=
  match w.documents.find? (·.path == path) with
  | some d => .ok d.text
  | none => .error (.missing path)

end Workspace

/-- What an editor asks about a document. -/
inductive Question where
  | symbols
  | hover (p : Position)
  | complete (p : Position)
  deriving DecidableEq, Repr

/-- The answer to a question. -/
inductive Answer where
  | symbols (found : List Symbol)
  | hover (shown : Option Hover)
  | complete (offered : List Completion)
  deriving DecidableEq, Repr

/-- Answers a question about a text. -/
def answer (source : Text) : Question → Answer
  | .symbols => .symbols (symbols source)
  | .hover p => .hover (hover source p)
  | .complete p => .complete (complete source p)

/-- Answers a question about an open document. -/
def Workspace.ask (w : Workspace) (path : Text) (q : Question) : Except OsError Answer :=
  (w.text? path).map (answer · q)

/-- What starting the language server does, in order. -/
inductive StartStep where
  | logFrom (level : LogLevel)
  | record (r : LogRecord)
  | serve
  deriving DecidableEq, Repr

/-- Starts the language server. -/
def startServer : List StartStep :=
  [.logFrom .info, .record (.info "starting flowc-lsp 2.0.0".toList), .serve]

end FlowLang.Editor
