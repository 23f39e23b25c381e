import FlowLang.Service.Basic

/-!
# Conversations

A client that stays connected and sends programs, one in each text frame. It is welcomed, then every program is answered
in order; blank and binary frames are passed over. A conversation ends when the client leaves, a reply does not reach it,
or an error is raised.
-/

namespace FlowLang.Service

open Text

/-- What a client sends. -/
inductive Frame where
  | text (t : Text)
  | binary
  | disconnect
  deriving DecidableEq, Repr

/-- What the service sends. -/
inductive Message where
  /-- the first message, with the number of the last compilation -/
  | welcome (compilations : Int)
  /-- the outcome of a program -/
  | compiled (flow : Text) (reply : Reply)
  deriving DecidableEq, Repr

/-- What the welcome says. -/
def welcomeText : Text := "FLOW COMPILER v2.0 - Flow-to-C++17. Type Flow code.".toList

/-- How many more messages reach the client; all of them if there is no number. -/
abbrev Deliverable := Option Nat

/-- What came of receiving frames: the service then, the messages that were sent, the number of frames that were not
received, and the error that was raised, if any. -/
structure Exchange where
  service : Service
  sent : List Message
  unread : Nat
  raised : Option RunFault
  effects : Effects

/-- Receives frames until the client leaves. -/
def exchange (s : Service) (clock : Clock) (outside : Outside) : Deliverable → List Frame → Exchange
  | _, [] => ⟨s, [], 0, none, .none⟩
  | _, .disconnect :: rest => ⟨s, [], rest.length, none, .none⟩
  | left, .binary :: rest => s.exchange clock outside left rest
  | left, .text t :: rest =>
    let source := trim t
    if source.isEmpty then s.exchange clock outside left rest
    else
      match s.compile clock outside source with
      | (after, .error fault, effects) => ⟨after, [], rest.length, some fault, effects⟩
      | (after, .ok record, effects) =>
        match left with
        | some 0 => ⟨after, [], rest.length, none, effects⟩
        | _ =>
          let more := after.exchange clock outside (left.map (· - 1)) rest
          { more with sent := .compiled source record.reply :: more.sent, effects := effects.append more.effects }

/-- The message about a compilation. -/
def Message.about (r : CompilationRecord) : Message :=
  .compiled r.flow r.reply

section

variable {s after : Service} {clock : Clock} {outside : Outside} {left : Deliverable} {t : Text} {rest : List Frame}
  {effects : Effects}

theorem exchange_of_blank (h : trim t = []) :
    s.exchange clock outside left (.text t :: rest) = s.exchange clock outside left rest := by
  simp [exchange, h]

theorem exchange_of_raised {fault : RunFault} (h : trim t ≠ [])
    (hcompile : s.compile clock outside (trim t) = (after, .error fault, effects)) :
    s.exchange clock outside left (.text t :: rest) = ⟨after, [], rest.length, some fault, effects⟩ := by
  simp [exchange, h, hcompile]

theorem exchange_of_lost {r : CompilationRecord} (h : trim t ≠ [])
    (hcompile : s.compile clock outside (trim t) = (after, .ok r, effects)) :
    s.exchange clock outside (some 0) (.text t :: rest) = ⟨after, [], rest.length, none, effects⟩ := by
  simp [exchange, h, hcompile]

theorem exchange_of_answered {r : CompilationRecord} (h : trim t ≠ [])
    (hcompile : s.compile clock outside (trim t) = (after, .ok r, effects)) (hleft : left ≠ some 0) :
    s.exchange clock outside left (.text t :: rest) =
      let more := after.exchange clock outside (left.map (· - 1)) rest
      { more with sent := .compiled (trim t) r.reply :: more.sent, effects := effects.append more.effects } := by
  simp [exchange, h, hcompile]

end

end FlowLang.Service
