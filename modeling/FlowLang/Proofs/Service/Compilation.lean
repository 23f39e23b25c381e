import FlowLang.Proofs.Service.History
import FlowLang.Proofs.Verdict
import FlowLang.Service.Basic

/-!
# Compilations one after another

A compilation takes a number, and is remembered unless an error is raised. None is raised for a program that is a text if its
processes can be waited for. So a service that goes on from another by compilations alone tells how many there were, and the
last of what they brought about.
-/

namespace FlowLang.Service

open Text History

/-- What comes of a compilation: what is remembered of it, or the error that was raised. -/
abbrev Outcome := Except RunFault CompilationRecord

/-- What is remembered of compilations. -/
def recordsOf (outcomes : List Outcome) : List CompilationRecord :=
  outcomes.filterMap Except.toOption

theorem recordsOf_append (os ps : List Outcome) : recordsOf (os ++ ps) = recordsOf os ++ recordsOf ps :=
  List.filterMap_append

theorem recordsOf_map_ok (rs : List CompilationRecord) : recordsOf (rs.map .ok) = rs := by
  rw [recordsOf, List.filterMap_map]
  exact List.filterMap_some

/-! ## One compilation -/

/-- The service after a compilation, and what comes of it. -/
inductive Compiles (s : Service) (clock : Clock) (outside : Outside) (source : Source) : Service → Outcome → Prop where
  | remembered {v : Verdict} (hreport : (source.report s.begin.counter.current s.settings outside).result = .ok v) :
      Compiles s clock outside source (s.begin.finish (recordOf s.begin.counter.current source clock v))
        (.ok (recordOf s.begin.counter.current source clock v))
  | raised {fault : RunFault}
      (hreport : (source.report s.begin.counter.current s.settings outside).result = .error fault) :
      Compiles s clock outside source s.begin (.error fault)

section

variable {s after : Service} {clock : Clock} {outside : Outside} {source : Source} {outcome : Outcome} {effects : Effects}

theorem compiles (h : s.compile clock outside source = (after, outcome, effects)) :
    Compiles s clock outside source after outcome := by
  cases hreport : (source.report s.begin.counter.current s.settings outside).result with
  | ok v =>
      rw [compile_of_ok hreport] at h
      cases h
      exact .remembered hreport
  | error fault =>
      rw [compile_of_error hreport] at h
      cases h
      exact .raised hreport

theorem Compiles.of_ok {r : CompilationRecord} (h : Compiles s clock outside source after (.ok r)) :
    r.flow = source.shown ∧ r.cpp = transpile source.shown ∧ r.loose = source.isLoose := by
  cases h with
  | remembered => exact ⟨rfl, rfl, rfl⟩

/-- No error is raised for a program that is a text, if its processes can be waited for. -/
theorem exists_compile_eq_ok (h : outside.Awaitable s.settings) (clock : Clock) (t : Text) :
    ∃ after r effects, s.compile clock outside t = (after, .ok r, effects) := by
  obtain ⟨v, hv⟩ := (Runner.course (transpile t) s.begin.counter.current s.settings outside).returns h
  have hreport : ((t : Source).report s.begin.counter.current s.settings outside).result = .ok v := hv
  exact ⟨_, _, _, compile_of_ok hreport⟩

end

/-! ## Any number of them -/

/-- One service goes on from another: all outcomes since then have taken a number, and those without an error are remembered. -/
structure Continues (s : Service) (outcomes : List Outcome) (t : Service) : Prop where
  settings : t.settings = s.settings
  current : t.counter.current = s.counter.current + outcomes.length
  ids : ∀ (i : Nat) (r : CompilationRecord), outcomes[i]? = some (.ok r) → r.id = s.counter.current + i + 1
  translated : ∀ r ∈ recordsOf outcomes, r.cpp = transpile r.flow
  history : t.history = ⟨s.history.limit, lastOf s.history.limit (s.history.records ++ recordsOf outcomes)⟩

namespace Continues

variable {s t u : Service} {os ps : List Outcome}

theorem refl (h : s.history.Bounded) : Continues s [] s where
  settings := rfl
  current := (Int.add_zero _).symm
  ids := by simp
  translated := by simp [recordsOf]
  history := by rw [recordsOf, List.filterMap_nil, List.append_nil, lastOf_eq_self h]

theorem bounded (h : Continues s os t) : t.history.Bounded := by
  rw [History.Bounded, h.history, length_lastOf]
  exact Nat.min_le_left _ _

theorem trans (h : Continues s os t) (h' : Continues t ps u) : Continues s (os ++ ps) u where
  settings := h'.settings.trans h.settings
  current := by
    rw [h'.current, h.current, List.length_append]
    omega
  ids := by
    intro i r hi
    by_cases hlt : i < os.length
    · rw [List.getElem?_append_left hlt] at hi
      exact h.ids i r hi
    · rw [List.getElem?_append_right (by omega)] at hi
      rw [h'.ids _ r hi, h.current]
      omega
  translated := by
    intro r hr
    rw [recordsOf_append] at hr
    rcases List.mem_append.mp hr with hr | hr
    · exact h.translated r hr
    · exact h'.translated r hr
  history := by
    rw [h'.history, h.history]
    simp only [lastOf_append_lastOf (Nat.le_refl _), recordsOf_append, List.append_assoc]

theorem of_compiles {clock : Clock} {outside : Outside} {source : Source} {outcome : Outcome} (hbounded : s.history.Bounded)
    (h : Compiles s clock outside source t outcome) : Continues s [outcome] t := by
  cases h with
  | remembered =>
      refine ⟨rfl, rfl, ?_, ?_, rfl⟩
      · intro i r hi
        cases i with
        | zero =>
            cases hi
            simp [recordOf, begin]
        | succ i => simp at hi
      · intro r hr
        rw [List.mem_singleton.mp hr]
        rfl
  | raised =>
      refine ⟨rfl, rfl, ?_, ?_, (refl hbounded).history⟩
      · intro i r hi
        cases i <;> simp at hi
      · intro r hr
        cases hr

/-- Without errors the numbers are consecutive. -/
theorem map_id {rs : List CompilationRecord} (h : Continues s (rs.map .ok) t) :
    rs.map CompilationRecord.id = numbers s.counter.current rs.length := by
  apply List.ext_getElem
  · simp
  · intro i hi _
    rw [List.length_map] at hi
    have hid := h.ids i rs[i] (by simp [hi])
    simp only [List.getElem_map, hid, numbers, List.getElem_range]
    omega

end Continues

end FlowLang.Service
