/-!
# Counters

Compilations are numbered one after another. A counter holds the last number that was given out.
-/

namespace FlowLang.Service

/-- The last number that was given out. -/
structure Counter where
  current : Int := 0
  deriving DecidableEq, Repr

/-- Gives out the next number, which is then the current one. -/
def Counter.next (c : Counter) : Counter :=
  ⟨c.current + 1⟩

@[simp] theorem Counter.current_next (c : Counter) : c.next.current = c.current + 1 := rfl

end FlowLang.Service
