import FlowLang.Proofs.Service.Session

/-!
# What a conversation brings about

Among all that comes to a service stand the frames of one client. Those of them that are programs are compiled and answered in
order, until the client leaves or a reply does not reach it. Nothing else of the client takes a number, whatever comes from
others between its frames. A program whose processes cannot be waited for is not answered, and ends the conversation.
-/

namespace FlowLang.Service

open Text History

/-- As many of a list as messages reach the client. -/
def Deliverable.cap {α : Type} : Deliverable → List α → List α
  | none, xs => xs
  | some n, xs => xs.take n

theorem cap_cons {α : Type} (left : Deliverable) (a : α) (xs : List α) :
    Deliverable.cap (left.map (· + 1)) (a :: xs) = a :: left.cap xs := by
  cases left with
  | none => rfl
  | some n => rfl

theorem cap_nil {α : Type} (left : Deliverable) : left.cap ([] : List α) = [] := by
  cases left with
  | none => rfl
  | some n => exact List.take_nil

namespace Session

variable {x : Session} {c : Nat} {e : Event} {left : Deliverable}

/-! ## The steps of a client -/

section

variable {f : Frame} {source : Text} {after : Service} {effects : Effects}

end

/-- Programs and what happened to them: one more is compiled than replies reach the client, and those that do come in order. -/
structure Served (left : Deliverable) (programs : List Text) (outcomes : List Outcome) (messages : List Message) : Prop where
  returned : outcomes = (recordsOf outcomes).map .ok
  flows : (recordsOf outcomes).map CompilationRecord.flow = Deliverable.cap (left.map (· + 1)) programs
  messages : messages = (left.cap (recordsOf outcomes)).map .about

namespace Served

variable {programs : List Text} {outcomes : List Outcome} {messages : List Message}

theorem nothing (left : Deliverable) : Served left [] [] [] :=
  ⟨rfl, (cap_nil _).symm, by rw [recordsOf, List.filterMap_nil, cap_nil]; rfl⟩

theorem reached (h : Served left programs outcomes messages) (r : CompilationRecord) :
    Served (left.map (· + 1)) (r.flow :: programs) (.ok r :: outcomes) (.about r :: messages) where
  returned := congrArg (Except.ok r :: ·) h.returned
  flows := (congrArg (r.flow :: ·) h.flows).trans (cap_cons _ _ _).symm
  messages := by
    rw [show recordsOf (.ok r :: outcomes) = r :: recordsOf outcomes from rfl, cap_cons, List.map_cons, ← h.messages]

end Served

/-! ## Frames -/

/-- The client does not connect again. -/
def Once (c : Nat) (events : List Event) : Prop :=
  ∀ e ∈ events, ∀ d, e.arrival ≠ .connect c d

theorem Once.tail {events : List Event} (h : Once c (e :: events)) : Once c events :=
  fun e' he' => h e' (List.mem_cons_of_mem _ he')

end Session

end FlowLang.Service
