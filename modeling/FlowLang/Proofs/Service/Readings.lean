import FlowLang.Proofs.Service.Interleaving
import FlowLang.Service.Http

/-!
# Readings while compilations go on

A request that asks how the service is reads the shared state twice, first the number of the last compilation or the recent
compilations, then the length of the history. Each reading is one step, and compilations take any steps between the two. So
an answer belongs to two systems, of which the second comes out of the first. What the two numbers of an answer have to do
with each other depends on what was begun and what was remembered in between.
-/

namespace FlowLang.Service

open Text History

/-- What is asked about the service. -/
inductive Inquiry where
  | health
  | ideas
  deriving DecidableEq, Repr

/-- The known path that the question comes to. -/
def Inquiry.route : Inquiry → Route
  | .health => .health
  | .ideas => .ideas

/-- What the first of the two readings gave. -/
inductive Reading where
  | counted (compilations : Int)
  | listed (recent : List CompilationRecord)
  deriving DecidableEq, Repr

/-- The first reading. -/
def Inquiry.read (s : Service) : Inquiry → Reading
  | .health => .counted s.counter.current
  | .ideas => .listed (s.history.recent History.usualCount)

/-- The second reading, and the answer from both. -/
def Reading.answer (s : Service) (clock : Clock) : Reading → Body
  | .counted n => .health ⟨n, s.uptime clock, s.history.length⟩
  | .listed recent => (Response.sendable (recent.any CompilationRecord.loose) (.ideas recent s.history.length)).body

theorem eq_of_answer_listed {s : Service} {clock : Clock} {shown recent : List CompilationRecord} {total : Nat}
    (h : (Reading.listed shown).answer s clock = .ideas recent total) : recent = shown ∧ total = s.history.length := by
  rw [Reading.answer, Response.sendable] at h
  split at h
  · cases h
  · cases h
    exact ⟨rfl, rfl⟩

/-- With nothing between the two readings the answer is that of a request which is served on its own. -/
theorem answer_read (s : Service) (framework : Framework) (clock : Clock) (outside : Outside) (r : Request) (q : Inquiry) :
    (q.read s).answer s clock = (s.serve framework clock outside r q.route).2.1.body := by
  cases q with
  | health => rfl
  | ideas => rfl

/-- A request after its first reading, with the system as it was then. -/
structure Pending where
  reading : Reading
  first : System

/-- An answer, with the system at the first reading and at the second. -/
structure Observation where
  body : Body
  first : System
  last : System

namespace Observation

/-- How many compilations were begun and remembered between the two readings. -/
def newlyFinished (a : Observation) : Nat :=
  (a.last.finished.map CompilationRecord.id).countP (· ∉ a.first.started.map Ticket.id)

/-- How many compilations were begun before the first reading and are not remembered at the second. -/
def stillRunning (a : Observation) : Nat :=
  (a.last.running.map Ticket.id).countP (· ∈ a.first.started.map Ticket.id)

end Observation

/-! ## Steps -/

/-- A system and the questions that were asked about it. -/
structure Watch where
  system : System
  pending : List Pending := []
  answered : List Observation := []

namespace Watch

/-- One step of a compilation or a client, or one reading. -/
inductive Step : Watch → Watch → Prop where
  | work {w : Watch} {y : System} (hstep : System.Step w.system y) : Step w { w with system := y }
  | read (w : Watch) (q : Inquiry) :
      Step w { w with pending := w.pending ++ [⟨q.read w.system.service, w.system⟩] }
  | answer {w : Watch} {p : Pending} {before behind : List Pending} (hpending : w.pending = before ++ p :: behind)
      (clock : Clock) :
      Step w { w with
        pending := before ++ behind
        answered := w.answered ++ [⟨p.reading.answer w.system.service clock, p.first, w.system⟩] }

/-- Any number of steps in any order. -/
inductive Reaches (v : Watch) : Watch → Prop where
  | refl : Reaches v v
  | step {w x : Watch} (hreaches : Reaches v w) (hstep : Step w x) : Reaches v x

/-- The readings of a request were made in this order on the way from `start`. -/
structure Traced (start : System) (w : Watch) : Prop where
  system : System.Reaches start w.system
  pending : ∀ p ∈ w.pending, System.Reaches start p.first ∧ System.Reaches p.first w.system ∧
    ∃ q : Inquiry, p.reading = q.read p.first.service
  answered : ∀ a ∈ w.answered, System.Reaches start a.first ∧ System.Reaches a.first a.last ∧
    ∃ (q : Inquiry) (clock : Clock), a.body = (q.read a.first.service).answer a.last.service clock

theorem Traced.step {start : System} {w x : Watch} (h : Traced start w) (hstep : Step w x) : Traced start x := by
  cases hstep with
  | work hstep =>
      refine ⟨h.system.step hstep, ?_, h.answered⟩
      intro p hp
      obtain ⟨hfirst, hlast, hread⟩ := h.pending p hp
      exact ⟨hfirst, hlast.step hstep, hread⟩
  | read q =>
      refine ⟨h.system, ?_, h.answered⟩
      intro p hp
      rcases List.mem_append.mp hp with hp | hp
      · exact h.pending p hp
      · obtain rfl := List.mem_singleton.mp hp
        exact ⟨h.system, .refl, q, rfl⟩
  | @answer p before behind hpending clock =>
      refine ⟨h.system, ?_, ?_⟩
      · intro p' hp'
        apply h.pending p'
        rw [hpending]
        exact ((List.sublist_cons_self p behind).append_left before).subset hp'
      · intro a ha
        rcases List.mem_append.mp ha with ha | ha
        · exact h.answered a ha
        · obtain rfl := List.mem_singleton.mp ha
          obtain ⟨hfirst, hlast, q, hread⟩ := h.pending p (by simp [hpending])
          exact ⟨hfirst, hlast, q, clock, by rw [hread]⟩

theorem Reaches.traced {start : System} {w : Watch} (hreaches : Reaches { system := start } w) : Traced start w := by
  induction hreaches with
  | refl => exact ⟨.refl, by simp, by simp⟩
  | step _ hstep ih => exact ih.step hstep

end Watch

/-! ## Between two readings -/

namespace System

variable {settings : Settings} {s : Int} {x y : System}

theorem Step.isPrefix (hstep : Step x y) : x.started <+: y.started ∧ x.finished <+: y.finished := by
  cases hstep with
  | request source => exact ⟨List.prefix_append _ _, List.prefix_rfl⟩
  | frame hlistening hprogram => exact ⟨List.prefix_append _ _, List.prefix_rfl⟩
  | finish hrunning hmakes => exact ⟨List.prefix_rfl, List.prefix_append _ _⟩
  | send hunsent => exact ⟨List.prefix_rfl, List.prefix_rfl⟩
  | lose hunsent => exact ⟨List.prefix_rfl, List.prefix_rfl⟩
  | leave hlistening => exact ⟨List.prefix_rfl, List.prefix_rfl⟩

/-- What has begun or is finished remains so, in its order. -/
theorem Reaches.isPrefix (hreaches : Reaches x y) : x.started <+: y.started ∧ x.finished <+: y.finished := by
  induction hreaches with
  | refl => exact ⟨List.prefix_rfl, List.prefix_rfl⟩
  | step _ hstep ih => exact ⟨ih.1.trans hstep.isPrefix.1, ih.2.trans hstep.isPrefix.2⟩

theorem Inv.length_history (h : Inv settings s y) :
    y.service.history.length = min settings.historyLimit y.finished.length := by
  rw [h.remembers.history, History.length, length_lastOf]

theorem Inv.length_recent (h : Inv settings s y) :
    (y.service.history.recent History.usualCount).length = min 50 (min settings.historyLimit y.finished.length) := by
  rw [h.remembers.history, History.recent, length_lastOf, length_lastOf]
  rfl

/-- Of the compilations that have begun up to `y`, those that had begun at `x` are as many as there were. -/
theorem Inv.countP_started (h : Inv settings s y) (hreaches : Reaches x y) :
    (y.started.map Ticket.id).countP (· ∈ x.started.map Ticket.id) = x.started.length := by
  obtain ⟨later, hlater⟩ := hreaches.isPrefix.1
  have hnodup := h.counts.pairwise_ids.imp Int.ne_of_lt
  rw [← hlater, List.map_append] at hnodup ⊢
  have hold : (x.started.map Ticket.id).countP (· ∈ x.started.map Ticket.id) = x.started.length := by
    rw [List.countP_eq_length.mpr (by simp), List.length_map]
  have hnew : (later.map Ticket.id).countP (· ∈ x.started.map Ticket.id) = 0 := by
    rw [List.countP_eq_zero]
    intro i hi hmem
    exact (List.nodup_append.mp hnodup).2.2 i (of_decide_eq_true hmem) i hi rfl
  rw [List.countP_append, hold, hnew, Nat.add_zero]

end System

namespace Observation

variable {settings : Settings} {s : Int} {a : Observation}

/-- What is remembered at the second reading had begun at the first, unless it is new or still running. -/
theorem length_finished_add (h : System.Inv settings s a.last) (hreaches : System.Reaches a.first a.last) :
    a.last.finished.length + a.stillRunning = a.first.started.length + a.newlyFinished := by
  have hbegun := (h.remembers.parts.countP_eq (· ∈ a.first.started.map Ticket.id)).trans (h.countP_started hreaches)
  have hfinished := (a.last.finished.map CompilationRecord.id).length_eq_countP_add_countP
    (· ∈ a.first.started.map Ticket.id)
  simp only [List.length_map, decide_eq_true_eq] at hfinished
  rw [List.countP_append] at hbegun
  rw [stillRunning, newlyFinished]
  omega

/-- Compilations that are remembered between the two readings are missing in the list, unless it was full. -/
theorem length_listed (hfirst : System.Inv settings s a.first) (hlast : System.Inv settings s a.last)
    (hreaches : System.Reaches a.first a.last) {recent : List CompilationRecord} {total : Nat}
    (hrecent : recent = a.first.service.history.recent History.usualCount)
    (htotal : total = a.last.service.history.length) :
    recent.length ≤ min 50 total ∧
      (recent.length = min 50 total ↔
        a.first.finished.length = a.last.finished.length ∨ min 50 settings.historyLimit ≤ a.first.finished.length) := by
  have hgrows := hreaches.isPrefix.2.length_le
  rw [hrecent, htotal, hfirst.length_recent, hlast.length_history]
  omega

/-- Compilations that are begun and remembered between the two readings are not counted. -/
theorem length_counted (hfirst : System.Inv settings 0 a.first) (hlast : System.Inv settings 0 a.last)
    (hreaches : System.Reaches a.first a.last) {h : Health}
    (hcompilations : h.compilations = a.first.service.counter.current)
    (hideas : h.ideas = a.last.service.history.length) :
    (h.ideas : Int) ≤ h.compilations + a.newlyFinished ∧
      ((h.ideas : Int) ≤ h.compilations ↔
        settings.historyLimit ≤ h.compilations ∨ a.newlyFinished ≤ a.stillRunning) := by
  have hbalance := length_finished_add hlast hreaches
  rw [hcompilations, hideas, hfirst.counts.current, hlast.length_history]
  omega

end Observation

/-- However questions about the service and compilations are interleaved, an answer comes from two readings, the first
before the second. A list of recent compilations has at most as many as the total allows, and as many unless one was
remembered between the readings while the list was not full. There are at most as many compilations in the history as the
counter tells and as were begun and remembered between the readings; there are more than it tells if these are more than
those which were running at both readings and the history has room for them. With nothing between the readings the answer is
that of a request which is served on its own. -/
theorem status_answers {settings : Settings} {startedAt : Binary64} {service : Service} {w : Watch}
    (hcreate : Service.create settings ⟨0⟩ startedAt = .ok service)
    (hreaches : Watch.Reaches { system := { service } } w) :
    ∀ a ∈ w.answered,
      (System.Reaches { service } a.first ∧ System.Reaches a.first a.last ∧
        ∃ (q : Inquiry) (clock : Clock), a.body = (q.read a.first.service).answer a.last.service clock ∧
          (a.first.service = a.last.service → ∀ framework outside r,
            a.body = (a.last.service.serve framework clock outside r q.route).2.1.body)) ∧
      (∀ recent total, a.body = .ideas recent total →
        recent.length ≤ min 50 total ∧
          (recent.length = min 50 total ↔ a.first.finished.length = a.last.finished.length ∨
            min 50 settings.historyLimit ≤ a.first.finished.length)) ∧
      ∀ h, a.body = .health h →
        (h.ideas : Int) ≤ h.compilations + a.newlyFinished ∧
          ((h.ideas : Int) ≤ h.compilations ↔
            settings.historyLimit ≤ h.compilations ∨ a.newlyFinished ≤ a.stillRunning) := by
  intro a ha
  obtain ⟨hfirst, hlast, q, clock, hbody⟩ := hreaches.traced.answered a ha
  have hinv := hfirst.inv (System.inv_create hcreate)
  refine ⟨⟨hfirst, hlast, q, clock, hbody, ?_⟩, ?_, ?_⟩
  · intro hsame framework outside r
    rw [hbody, hsame, answer_read]
  · intro recent total hideas
    rw [hbody] at hideas
    cases q with
    | health => cases hideas
    | ideas =>
        obtain ⟨rfl, rfl⟩ := eq_of_answer_listed hideas
        exact Observation.length_listed hinv (hlast.inv hinv) hlast rfl rfl
  · intro h hhealth
    rw [hbody] at hhealth
    cases q with
    | ideas =>
        rw [Inquiry.read, Reading.answer, Response.sendable] at hhealth
        split at hhealth <;> cases hhealth
    | health =>
        cases hhealth
        exact Observation.length_counted hinv (hlast.inv hinv) hlast rfl rfl

/-- A compilation that begins after the first reading overtakes one that is running, and the answer does not show it. -/
theorem status_answers_overtaken :
    ∃ (service : Service) (w : Watch) (a : Observation) (h : Health),
      Service.create {} ⟨0⟩ (.ofInt 0) = .ok service ∧ Watch.Reaches { system := { service } } w ∧ w.answered = [a] ∧
        a.body = .health h ∧ a.newlyFinished = 1 ∧ a.stillRunning = 1 ∧ (h.ideas : Int) ≤ h.compilations := by
  let clock : Clock := ⟨.ofInt 0, ⟨2024, 1, 1, 0, 0, 0, 0⟩⟩
  let outside : Outside := { scratch := .refused ⟨28, [], none⟩, build := .timedOut, run := .timedOut }
  have hcreate : Service.create {} ⟨0⟩ (.ofInt 0) = .ok ⟨{}, ⟨0⟩, .empty 500, .ofInt 0⟩ := rfl
  let start : Watch := { system := { service := ⟨{}, ⟨0⟩, .empty 500, .ofInt 0⟩ } }
  have hstart := (Watch.Reaches.refl : start.Reaches start).step (.work (.request _ "say 1".toList))
  have hread := hstart.step (.read _ .health)
  have hlater := hread.step (.work (.request _ "say 2".toList))
  have hfinish := hlater.step (.work (@System.Step.finish _ _ [_] [] rfl clock outside _ ⟨_, rfl, rfl⟩))
  have hanswer := hfinish.step (@Watch.Step.answer _ _ [] [] rfl clock)
  refine ⟨_, _, _, _, hcreate, hanswer, rfl, rfl, rfl, rfl, ?_⟩
  exact ((status_answers hcreate hanswer _ (List.mem_singleton_self _)).2.2 _ rfl).2.mpr (.inr (Nat.le_refl 1))

/-- A compilation begins after the first readings of two requests and is remembered before their second readings. The one
tells of a compilation that it does not list, the other of more compilations than there were. -/
theorem readings_torn :
    ∃ (service : Service) (w : Watch),
      Service.create {} ⟨0⟩ (.ofInt 0) = .ok service ∧ Watch.Reaches { system := { service } } w ∧
        (∃ a ∈ w.answered, ∃ recent total, a.body = .ideas recent total ∧ recent.length ≠ min 50 total) ∧
        ∃ a ∈ w.answered, ∃ h, a.body = .health h ∧ ¬(h.ideas : Int) ≤ h.compilations := by
  let clock : Clock := ⟨.ofInt 0, ⟨2024, 1, 1, 0, 0, 0, 0⟩⟩
  let outside : Outside := { scratch := .refused ⟨28, [], none⟩, build := .timedOut, run := .timedOut }
  let start : Watch := { system := { service := ⟨{}, ⟨0⟩, .empty 500, .ofInt 0⟩ } }
  have hlist := (Watch.Reaches.refl : start.Reaches start).step (.read _ .ideas)
  have hcount := hlist.step (.read _ .health)
  have hstart := hcount.step (.work (.request _ "say 1".toList))
  have hfinish := hstart.step (.work (@System.Step.finish _ _ [] [] rfl clock outside _ ⟨_, rfl, rfl⟩))
  have hideas := hfinish.step (@Watch.Step.answer _ _ [] [_] rfl clock)
  have hhealth := hideas.step (@Watch.Step.answer _ _ [] [] rfl clock)
  refine ⟨_, _, rfl, hhealth, ?_, ?_⟩
  · exact ⟨_, .head _, _, _, rfl, by decide⟩
  · exact ⟨_, .tail _ (.head _), _, rfl, by decide⟩

end FlowLang.Service
