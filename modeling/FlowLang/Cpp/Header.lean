import FlowLang.Text.Basic

/-!
# Headers

The standard headers that generated code can need. A program's headers are listed in one fixed order, whatever the
order in which its statements ask for them.
-/

namespace FlowLang.Cpp

/-- The headers that some code needs. -/
structure Headers where
  iostream : Bool := false
  string : Bool := false
  cmath : Bool := false
  deriving DecidableEq, Repr

namespace Headers

/-- No header. -/
def none : Headers := {}

/-- The headers that either of two pieces of code needs. -/
def union (a b : Headers) : Headers :=
  ⟨a.iostream || b.iostream, a.string || b.string, a.cmath || b.cmath⟩

/-- One line for each header, in the fixed order. -/
def lines (h : Headers) : List Text :=
  (if h.iostream then ["#include <iostream>".toList] else [])
    ++ (if h.string then ["#include <string>".toList] else [])
    ++ (if h.cmath then ["#include <cmath>".toList] else [])

@[simp] theorem union_none (h : Headers) : h.union none = h := by
  cases h; simp [union, none]

@[simp] theorem none_union (h : Headers) : none.union h = h := by
  cases h; simp [union, none]

theorem union_assoc (a b c : Headers) : (a.union b).union c = a.union (b.union c) := by
  simp [union, Bool.or_assoc]

theorem union_comm (a b : Headers) : a.union b = b.union a := by
  simp [union, Bool.or_comm]

@[simp] theorem union_self (h : Headers) : h.union h = h := by
  simp [union]

end Headers

/-- Code with the headers that it needs. -/
structure Code where
  text : Text
  headers : Headers := .none
  deriving DecidableEq, Repr

end FlowLang.Cpp
