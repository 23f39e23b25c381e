import FlowLang.Text.Basic

/-!
# The history of compilations

The most recent compilations, oldest first; beyond a limit the oldest are forgotten.
-/

namespace FlowLang.Service

/-- One compilation as it is remembered. -/
structure CompilationRecord where
  id : Int
  flow : Text
  cpp : Text
  success : Bool
  output : Text
  timestamp : Text
  /-- the program holds halves of surrogate pairs, for which the replacement character stands here -/
  loose : Bool := false
  deriving DecidableEq, Repr

/-- The remembered compilations and how many there may be. -/
structure History where
  limit : Nat
  records : List CompilationRecord
  deriving DecidableEq, Repr

namespace History

/-- Why a number is no limit: it is below zero, or it does not fit in 64 bits with a sign. -/
inductive LimitFault where
  | negative
  | tooLarge
  deriving DecidableEq, Repr

/-- Nothing remembered yet. -/
def empty (limit : Nat) : History :=
  ⟨limit, []⟩

/-- An empty history with a limit, if the number can be one. -/
def ofLimit (limit : Int) : Except LimitFault History :=
  if limit < -Int.pow 2 63 ∨ Int.pow 2 63 ≤ limit then .error .tooLarge
  else if limit < 0 then .error .negative
  else .ok (empty limit.toNat)

/-- The last `n` of a list. -/
def lastOf {α : Type} (n : Nat) (xs : List α) : List α :=
  xs.drop (xs.length - n)

/-- Remembers one more compilation. -/
def add (h : History) (r : CompilationRecord) : History :=
  { h with records := lastOf h.limit (h.records ++ [r]) }

/-- How many compilations are remembered. -/
def length (h : History) : Nat :=
  h.records.length

/-- The last `count` compilations; none for a count that is not above zero. -/
def recent (h : History) (count : Int) : List CompilationRecord :=
  lastOf count.toNat h.records

/-- How many compilations are shown if nothing else is asked for. -/
def usualCount : Int := 50

@[simp] theorem length_lastOf {α : Type} (n : Nat) (xs : List α) : (lastOf n xs).length = min n xs.length := by
  simp [lastOf]
  omega

end History

end FlowLang.Service
