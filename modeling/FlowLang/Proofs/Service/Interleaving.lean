import FlowLang.Proofs.Service.Compilation
import FlowLang.Proofs.Text.Basic
import FlowLang.Service.Conversation

/-!
# Compilations at the same time

A compilation touches the service twice: at its start it takes a number, and when it has been built and run it is
remembered. Between the two any time passes, and any steps of other compilations. A client that stays connected is served by
one loop, so its next program is not received before the last one has been answered. However these steps are interleaved, no
number is given twice, no compilation is forgotten before its turn, and a client sees its numbers grow.
-/

namespace FlowLang.Service

open Text History

/-- Where a compilation comes from. -/
inductive Origin where
  | request
  | client (c : Nat)
  deriving DecidableEq, Repr

/-- A compilation that has taken its number. -/
structure Ticket where
  origin : Origin
  id : Int
  source : Source
  deriving DecidableEq, Repr

namespace Ticket

/-- What comes of building and running the program. -/
def report (t : Ticket) (settings : Settings) (outside : Outside) : RunReport :=
  t.source.report t.id settings outside

/-- The compilation comes to a verdict, and this is what is remembered of it. -/
def Makes (t : Ticket) (settings : Settings) (clock : Clock) (outside : Outside) (r : CompilationRecord) : Prop :=
  ∃ v, (t.report settings outside).result = .ok v ∧ r = recordOf t.id t.source clock v

def key (t : Ticket) : Origin × Int :=
  (t.origin, t.id)

/-- The outside may give the name to the directory that is asked for: it goes on in any way behind the stem. -/
def MayUse (t : Ticket) (settings : Settings) (name : Text) : Prop :=
  ∃ outside stem parent rest,
    Call.makeDirectory stem parent ∈ (t.report settings outside).effects.calls ∧ name = stem ++ rest

theorem mem_calls_iff (t : Ticket) (settings : Settings) (outside : Outside) (stem : Text) (parent : Option Text) :
    Call.makeDirectory stem parent ∈ (t.report settings outside).effects.calls ↔
      Call.makeDirectory stem parent = Runner.makeDirectory settings t.id := by
  have hrun (cpp : Text) : Call.makeDirectory stem parent ∈ (Runner.compileAndRun cpp t.id settings outside).effects.calls ↔
      Call.makeDirectory stem parent = Runner.makeDirectory settings t.id :=
    (Runner.course cpp t.id settings outside).makeDirectory_mem_iff
  rw [report]
  cases t.source with
  | text program => exact hrun _
  | loose program =>
      rw [Source.report, Runner.compileAndRunLoose]
      split
      · exact List.mem_singleton
      · exact hrun _

theorem mayUse_iff (t : Ticket) (settings : Settings) (name : Text) :
    t.MayUse settings name ↔ ∃ rest, name = "flowc_".toList ++ (ofInt t.id ++ '_' :: rest) := by
  have hstem (rest : Text) : "flowc_".toList ++ ofInt t.id ++ "_".toList ++ rest =
      "flowc_".toList ++ (ofInt t.id ++ '_' :: rest) := by
    rw [List.append_assoc, List.append_assoc]
    rfl
  constructor
  · rintro ⟨outside, stem, parent, rest, hcall, rfl⟩
    rw [mem_calls_iff, Runner.makeDirectory] at hcall
    cases hcall
    exact ⟨rest, hstem rest⟩
  · rintro ⟨rest, rfl⟩
    exact ⟨⟨.refused ⟨0, [], none⟩, .timedOut, .timedOut, none⟩, _, _, rest, (mem_calls_iff t settings _ _ _).mpr rfl,
      (hstem rest).symm⟩

/-- The digits of a number end at the underscore, so the directories of different numbers have different names. -/
theorem id_eq_of_mayUse {t u : Ticket} {settings : Settings} {name : Text} (ht : t.MayUse settings name)
    (hu : u.MayUse settings name) : t.id = u.id := by
  obtain ⟨rest, rfl⟩ := (mayUse_iff t settings name).mp ht
  obtain ⟨rest', hname⟩ := (mayUse_iff u settings _).mp hu
  have hdigits := congrArg (List.takeWhile (· != '_')) (List.append_cancel_left hname)
  rw [takeWhile_ne_append (underscore_not_mem_ofInt _), takeWhile_ne_append (underscore_not_mem_ofInt _)] at hdigits
  exact ofInt_inj.mp hdigits

end Ticket

/-! ## Steps -/

/-- A service and what has been asked of it. -/
structure System where
  service : Service
  /-- the compilations that have taken a number, in the order of their numbers -/
  started : List Ticket := []
  /-- those of them that are not remembered yet -/
  running : List Ticket := []
  /-- what was remembered, in the order in which the compilations were finished -/
  finished : List CompilationRecord := []
  /-- outcomes that are still to be sent to where the program came from -/
  unsent : List (Origin × CompilationRecord) := []
  /-- outcomes that were sent, in order -/
  sent : List (Origin × CompilationRecord) := []
  /-- the clients whose conversation is over -/
  gone : List Nat := []

/-- The origin of an outcome and its number. -/
def answerKey (a : Origin × CompilationRecord) : Origin × Int :=
  (a.1, a.2.id)

namespace System

/-- The compilations that are not answered yet. -/
def outstanding (y : System) : List (Origin × Int) :=
  y.unsent.map answerKey ++ y.running.map Ticket.key

/-- The next frame of the client is received: nothing of what it sent before is still to be answered. -/
def Listening (y : System) (c : Nat) : Prop :=
  c ∉ y.gone ∧ ∀ p ∈ y.outstanding, p.1 ≠ .client c

/-- The outcomes that a client was sent. -/
def repliesTo (y : System) (c : Nat) : List CompilationRecord :=
  (y.sent.filter fun a => a.1 = .client c).map Prod.snd

/-- A compilation takes its number. -/
def start (y : System) (origin : Origin) (source : Source) : System :=
  let t : Ticket := ⟨origin, y.service.begin.counter.current, source⟩
  { y with service := y.service.begin, started := y.started ++ [t], running := y.running ++ [t] }

/-- A running compilation is remembered; the compilations `rest` go on. -/
def remember (y : System) (t : Ticket) (rest : List Ticket) (r : CompilationRecord) : System :=
  { y with
    service := y.service.finish r
    running := rest
    finished := y.finished ++ [r]
    unsent := y.unsent ++ [(t.origin, r)] }

/-- One step of one compilation or of one client. -/
inductive Step : System → System → Prop where
  | request (y : System) (source : Source) : Step y (y.start .request source)
  | frame {y : System} {c : Nat} {text : Text} (hlistening : y.Listening c) (hprogram : trim text ≠ []) :
      Step y (y.start (.client c) (trim text))
  | finish {y : System} {t : Ticket} {before behind : List Ticket} (hrunning : y.running = before ++ t :: behind)
      {clock : Clock} {outside : Outside} {r : CompilationRecord} (hmakes : t.Makes y.service.settings clock outside r) :
      Step y (y.remember t (before ++ behind) r)
  | send {y : System} {a : Origin × CompilationRecord} {before behind : List (Origin × CompilationRecord)}
      (hunsent : y.unsent = before ++ a :: behind) :
      Step y { y with unsent := before ++ behind, sent := y.sent ++ [a] }
  /-- the client left before the outcome reached it -/
  | lose {y : System} {c : Nat} {r : CompilationRecord} {before behind : List (Origin × CompilationRecord)}
      (hunsent : y.unsent = before ++ (.client c, r) :: behind) :
      Step y { y with unsent := before ++ behind, gone := c :: y.gone }
  | leave {y : System} {c : Nat} (hlistening : y.Listening c) : Step y { y with gone := c :: y.gone }

/-- Any number of steps in any order. -/
inductive Reaches (x : System) : System → Prop where
  | refl : Reaches x x
  | step {y z : System} (hreaches : Reaches x y) (hstep : Step y z) : Reaches x z

/-! ## Numbers -/

/-- The numbers that were given out are those behind `s`, in order. -/
structure Counts (s : Int) (y : System) : Prop where
  current : y.service.counter.current = s + y.started.length
  ids : y.started.map Ticket.id = numbers s y.started.length

theorem Counts.start {s : Int} {y : System} (h : Counts s y) (origin : Origin) (source : Source) :
    Counts s (y.start origin source) := by
  have hnext : y.service.begin.counter.current = s + y.started.length + 1 := congrArg (· + 1) h.current
  constructor
  · simp only [System.start, List.length_append, List.length_singleton, hnext]
    omega
  · simp only [System.start, List.map_append, List.map_singleton, List.length_append, List.length_singleton, numbers_succ,
      h.ids, hnext]

theorem Counts.step {s : Int} {y z : System} (h : Counts s y) (hstep : Step y z) : Counts s z := by
  cases hstep with
  | request source => exact h.start .request source
  | frame hlistening hprogram => exact h.start _ _
  | finish hrunning hmakes => exact ⟨h.current, h.ids⟩
  | send hunsent => exact ⟨h.current, h.ids⟩
  | lose hunsent => exact ⟨h.current, h.ids⟩
  | leave hlistening => exact ⟨h.current, h.ids⟩

theorem Counts.pairwise_ids {s : Int} {y : System} (h : Counts s y) : (y.started.map Ticket.id).Pairwise (· < ·) := by
  rw [h.ids]
  exact pairwise_numbers _ _

/-! ## What is remembered -/

/-- What has started is running or finished, and the history holds the last of what is finished. -/
structure Remembers (settings : Settings) (y : System) : Prop where
  configured : y.service.settings = settings
  history : y.service.history = ⟨settings.historyLimit, lastOf settings.historyLimit y.finished⟩
  parts : (y.running.map Ticket.id ++ y.finished.map CompilationRecord.id).Perm (y.started.map Ticket.id)
  running : ∀ t ∈ y.running, t ∈ y.started
  records : ∀ r ∈ y.finished, ∃ t ∈ y.started, ∃ clock outside, t.Makes settings clock outside r
  answers : ∀ a ∈ y.unsent ++ y.sent, a.2 ∈ y.finished

variable {settings : Settings} {y z : System}

theorem Remembers.start (h : Remembers settings y) (origin : Origin) (source : Source) :
    Remembers settings (y.start origin source) where
  configured := h.configured
  history := h.history
  parts := by
    simp only [System.start, List.map_append, List.map_singleton, List.append_assoc, List.singleton_append]
    exact List.perm_middle.trans ((h.parts.cons _).trans (List.perm_append_singleton _ _).symm)
  running := by
    intro t ht
    rcases List.mem_append.mp ht with ht | ht
    · exact List.mem_append_left _ (h.running t ht)
    · exact List.mem_append_right _ ht
  records := by
    intro r hr
    obtain ⟨t, ht, hrecord⟩ := h.records r hr
    exact ⟨t, List.mem_append_left _ ht, hrecord⟩
  answers := h.answers

theorem Remembers.finish (h : Remembers settings y) {t : Ticket} {before behind : List Ticket}
    (hrunning : y.running = before ++ t :: behind) {clock : Clock} {outside : Outside} {r : CompilationRecord}
    (hmakes : t.Makes y.service.settings clock outside r) : Remembers settings (y.remember t (before ++ behind) r) where
  configured := h.configured
  history := by
    simp only [remember, Service.finish, h.history, add_lastOf]
  parts := by
    have hids : (y.running.map Ticket.id).Perm (t.id :: (before ++ behind).map Ticket.id) := by
      rw [hrunning]
      exact List.perm_middle.map Ticket.id
    have hid : r.id = t.id := by
      obtain ⟨v, -, rfl⟩ := hmakes
      rfl
    have hlast : (y.remember t (before ++ behind) r).finished.map CompilationRecord.id =
        y.finished.map CompilationRecord.id ++ [t.id] := by
      simp [remember, hid]
    refine List.Perm.trans ?_ ((hids.symm.append_right _).trans h.parts)
    rw [hlast, ← List.append_assoc]
    exact List.perm_append_singleton _ _
  running := by
    intro u hu
    apply h.running
    rw [hrunning]
    exact (List.sublist_cons_self t behind).append_left before |>.subset hu
  records := by
    intro r hr
    rcases List.mem_append.mp hr with hr | hr
    · exact h.records r hr
    · refine ⟨t, h.running t (by simp [hrunning]), clock, outside, ?_⟩
      rw [List.mem_singleton.mp hr, ← h.configured]
      exact hmakes
  answers := by
    intro a ha
    simp only [remember, List.append_assoc, List.mem_append, List.mem_singleton] at ha ⊢
    rcases ha with ha | rfl | ha
    · exact .inl (h.answers a (List.mem_append_left _ ha))
    · exact .inr rfl
    · exact .inl (h.answers a (List.mem_append_right _ ha))

theorem Remembers.step (h : Remembers settings y) (hstep : Step y z) : Remembers settings z := by
  cases hstep with
  | request source => exact h.start .request source
  | frame hlistening hprogram => exact h.start _ _
  | finish hrunning hmakes => exact h.finish hrunning hmakes
  | send hunsent =>
      refine { h with answers := fun a ha => h.answers a ?_ }
      simp only [hunsent, List.mem_append, List.mem_cons, List.not_mem_nil, or_false] at ha ⊢
      grind
  | lose hunsent =>
      refine { h with answers := fun a ha => h.answers a ?_ }
      simp only [hunsent, List.mem_append, List.mem_cons] at ha ⊢
      grind
  | leave hlistening => exact { h with }

/-! ## Clients -/

/-- The numbers that belong to a client, in order. -/
def idsOf (c : Nat) (keys : List (Origin × Int)) : List Int :=
  (keys.filter fun p => p.1 = .client c).map Prod.snd

theorem idsOf_nil (c : Nat) : idsOf c [] = [] := rfl

theorem idsOf_append (c : Nat) (ps qs : List (Origin × Int)) : idsOf c (ps ++ qs) = idsOf c ps ++ idsOf c qs := by
  rw [idsOf, List.filter_append, List.map_append, idsOf, idsOf]

theorem idsOf_cons_of_eq {c : Nat} {p : Origin × Int} (h : p.1 = .client c) (ps : List (Origin × Int)) :
    idsOf c (p :: ps) = p.2 :: idsOf c ps := by
  simp [idsOf, h]

theorem idsOf_cons_of_ne {c : Nat} {p : Origin × Int} (h : p.1 ≠ .client c) (ps : List (Origin × Int)) :
    idsOf c (p :: ps) = idsOf c ps := by
  simp [idsOf, h]

theorem idsOf_eq_nil {c : Nat} {ps : List (Origin × Int)} (h : ∀ p ∈ ps, p.1 ≠ .client c) : idsOf c ps = [] := by
  simpa [idsOf, List.filter_eq_nil_iff] using fun o i hp => h (o, i) hp

theorem exists_mem_of_mem_idsOf {c : Nat} {i : Int} {ps : List (Origin × Int)} (h : i ∈ idsOf c ps) :
    ∃ p ∈ ps, p.2 = i := by
  obtain ⟨p, hp, rfl⟩ := List.mem_map.mp h
  exact ⟨p, (List.mem_filter.mp hp).1, rfl⟩

theorem idsOf_perm {ps qs : List (Origin × Int)} (h : ps.Perm qs) (c : Nat) : (idsOf c ps).Perm (idsOf c qs) :=
  (h.filter _).map _

/-- Of every client at most one compilation is not answered yet, and its number is above those of all answers before. -/
structure Orderly (last : Int) (sent outstanding : List (Origin × Int)) : Prop where
  known : ∀ p ∈ sent ++ outstanding, p.2 ≤ last
  single : ∀ c, (idsOf c outstanding).length ≤ 1
  below : ∀ c, ∀ i ∈ idsOf c sent, ∀ j ∈ idsOf c outstanding, i < j
  rising : ∀ c, (idsOf c sent).Pairwise (· < ·)

namespace Orderly

variable {last : Int} {sent ps qs : List (Origin × Int)} {p : Origin × Int}

theorem perm (h : Orderly last sent ps) (hperm : ps.Perm qs) : Orderly last sent qs where
  known := fun p hp => h.known p ((hperm.append_left sent).mem_iff.mpr hp)
  single := fun c => (idsOf_perm hperm c).length_eq ▸ h.single c
  below := fun c i hi j hj => h.below c i hi j ((idsOf_perm hperm c).mem_iff.mpr hj)
  rising := h.rising

/-- A new compilation gets a number above all others. -/
theorem start (h : Orderly last sent ps) (origin : Origin) (hidle : ∀ c, origin = .client c → ∀ q ∈ ps, q.1 ≠ .client c) :
    Orderly (last + 1) sent ((origin, last + 1) :: ps) where
  known := by
    intro q hq
    rcases List.mem_cons.mp (List.perm_middle.mem_iff.mp hq) with rfl | hq
    · exact Int.le_refl _
    · exact Int.le_of_lt (Int.lt_add_one_of_le (h.known q hq))
  single := by
    intro c
    by_cases horigin : origin = .client c
    · rw [idsOf_cons_of_eq horigin, idsOf_eq_nil (hidle c horigin)]
      exact Nat.le_refl 1
    · rw [idsOf_cons_of_ne horigin]
      exact h.single c
  below := by
    intro c i hi j hj
    by_cases horigin : origin = .client c
    · rw [idsOf_cons_of_eq horigin, idsOf_eq_nil (hidle c horigin)] at hj
      obtain ⟨q, hq, rfl⟩ := exists_mem_of_mem_idsOf hi
      rw [List.mem_singleton.mp hj]
      exact Int.lt_add_one_of_le (h.known q (List.mem_append_left _ hq))
    · rw [idsOf_cons_of_ne horigin] at hj
      exact h.below c i hi j hj
  rising := h.rising

/-- An answer is lost. -/
theorem lose (h : Orderly last sent (p :: ps)) : Orderly last sent ps := by
  have hsub (c : Nat) : (idsOf c ps).Sublist (idsOf c (p :: ps)) := ((List.sublist_cons_self p ps).filter _).map _
  refine ⟨fun q hq => h.known q ?_, fun c => Nat.le_trans (hsub c).length_le (h.single c), ?_, h.rising⟩
  · exact ((List.sublist_cons_self p ps).append_left sent).subset hq
  · exact fun c i hi j hj => h.below c i hi j ((hsub c).subset hj)

/-- An answer is sent. -/
theorem send (h : Orderly last sent (p :: ps)) : Orderly last (sent ++ [p]) ps where
  known := by
    rw [List.append_assoc]
    exact h.known
  single := h.lose.single
  below := by
    intro c i hi j hj
    rw [idsOf_append, List.mem_append] at hi
    rcases hi with hi | hi
    · exact h.lose.below c i hi j hj
    · -- the client of this answer has no other compilation
      by_cases hclient : p.1 = .client c
      · have hsingle := h.single c
        rw [idsOf_cons_of_eq hclient, List.length_cons] at hsingle
        have hpositive := List.length_pos_of_mem hj
        omega
      · rw [idsOf_cons_of_ne hclient] at hi
        cases hi
  rising := by
    intro c
    rw [idsOf_append]
    by_cases hclient : p.1 = .client c
    · rw [idsOf_cons_of_eq hclient]
      refine List.pairwise_append.mpr ⟨h.rising c, List.pairwise_singleton _ _, ?_⟩
      intro i hi j hj
      rw [List.mem_singleton.mp hj]
      exact h.below c i hi p.2 (by simp [idsOf_cons_of_eq hclient])
    · rw [idsOf_cons_of_ne hclient, idsOf_nil, List.append_nil]
      exact h.rising c

end Orderly

/-- Every client is answered in the order of its numbers. -/
def Answers (y : System) : Prop :=
  Orderly y.service.counter.current (y.sent.map answerKey) y.outstanding

theorem outstanding_start (y : System) (origin : Origin) (source : Source) :
    (y.start origin source).outstanding.Perm ((origin, y.service.counter.current + 1) :: y.outstanding) := by
  simp only [outstanding, System.start, List.map_append, List.map_singleton, ← List.append_assoc]
  exact List.perm_append_singleton _ _

theorem outstanding_remember {t : Ticket} {before behind : List Ticket} (hrunning : y.running = before ++ t :: behind)
    {clock : Clock} {outside : Outside} {r : CompilationRecord} (hmakes : t.Makes y.service.settings clock outside r) :
    (y.remember t (before ++ behind) r).outstanding.Perm y.outstanding := by
  have hkeys : (y.running.map Ticket.key).Perm (t.key :: (before ++ behind).map Ticket.key) := by
    rw [hrunning]
    exact List.perm_middle.map Ticket.key
  have hlast : (y.remember t (before ++ behind) r).unsent.map answerKey = y.unsent.map answerKey ++ [t.key] := by
    obtain ⟨v, -, rfl⟩ := hmakes
    exact List.map_append
  refine List.Perm.trans ?_ (hkeys.symm.append_left _)
  rw [outstanding, hlast, List.append_assoc]
  exact .refl _

theorem outstanding_of_unsent {a : Origin × CompilationRecord} {before behind : List (Origin × CompilationRecord)}
    (hunsent : y.unsent = before ++ a :: behind) :
    y.outstanding.Perm (answerKey a :: ((before ++ behind).map answerKey ++ y.running.map Ticket.key)) := by
  rw [outstanding, hunsent, ← List.cons_append, ← List.map_cons]
  exact (List.perm_middle.map answerKey).append_right _

theorem Answers.start (h : Answers y) (origin : Origin) (source : Source)
    (hidle : ∀ c, origin = .client c → ∀ p ∈ y.outstanding, p.1 ≠ .client c) : Answers (y.start origin source) :=
  (Orderly.start h origin hidle).perm (outstanding_start y origin source).symm

theorem Answers.step (h : Answers y) (hstep : Step y z) : Answers z := by
  cases hstep with
  | request source => exact h.start .request source fun c hc => by cases hc
  | frame hlistening hprogram =>
      refine h.start _ _ ?_
      rintro c ⟨⟩
      exact hlistening.2
  | finish hrunning hmakes => exact h.perm (outstanding_remember hrunning hmakes).symm
  | send hunsent =>
      have hsent := (h.perm (outstanding_of_unsent hunsent)).send
      rw [← List.map_singleton, ← List.map_append] at hsent
      exact hsent
  | lose hunsent => exact (h.perm (outstanding_of_unsent hunsent)).lose
  | leave hlistening => exact h

theorem Answers.pairwise_repliesTo (h : Answers y) (c : Nat) :
    (y.repliesTo c).Pairwise fun r r' => r.id < r'.id := by
  have hids : idsOf c (y.sent.map answerKey) = (y.repliesTo c).map CompilationRecord.id := by
    rw [idsOf, repliesTo, List.filter_map, List.map_map, List.map_map]
    rfl
  exact List.pairwise_map.mp (hids ▸ h.rising c)

/-! ## Runs -/

/-- What holds however the steps were interleaved. -/
structure Inv (settings : Settings) (s : Int) (y : System) : Prop where
  counts : Counts s y
  remembers : Remembers settings y
  answers : Answers y

theorem Inv.step {s : Int} (h : Inv settings s y) (hstep : Step y z) : Inv settings s z :=
  ⟨h.counts.step hstep, h.remembers.step hstep, h.answers.step hstep⟩

theorem inv_create {s : Int} {startedAt : Binary64} {service : Service}
    (h : Service.create settings ⟨s⟩ startedAt = .ok service) : Inv settings s { service } := by
  obtain rfl := eq_of_create h
  refine ⟨⟨(Int.add_zero s).symm, rfl⟩, ⟨rfl, ?_, .refl _, by simp, by simp, by simp⟩, ?_⟩
  · rw [lastOf_nil, History.empty]
  · exact ⟨by simp [outstanding], fun c => Nat.zero_le 1, by simp [idsOf_nil], fun c => .nil⟩

theorem Reaches.inv {s : Int} (hreaches : Reaches y z) (h : Inv settings s y) : Inv settings s z := by
  induction hreaches with
  | refl => exact h
  | step _ hstep ih => exact ih.step hstep

theorem Reaches.trans {x : System} (hxy : Reaches x y) (hyz : Reaches y z) : Reaches x z := by
  induction hyz with
  | refl => exact hxy
  | step _ hstep ih => exact ih.step hstep

section

variable {c : Nat} {text : Text} {clock : Clock} {outside : Outside} {after : Service} {effects : Effects}

/-- A program of a client is compiled before anything else happens, and its outcome is the last that is to be sent. -/
theorem reaches_unsent {r : CompilationRecord} (hlistening : y.Listening c) (hprogram : trim text ≠ [])
    (hcompile : y.service.compile clock outside (trim text) = (after, .ok r, effects)) :
    ∃ z, Reaches y z ∧ z.service = after ∧ z.unsent = y.unsent ++ (.client c, r) :: [] ∧
      z.running = y.running ∧ z.sent = y.sent ∧ z.gone = y.gone := by
  cases compiles hcompile with
  | @remembered v hreport =>
      have hframe := Reaches.refl.step (.frame hlistening hprogram)
      have hmakes : Ticket.Makes ⟨.client c, y.service.begin.counter.current, trim text⟩ y.service.settings clock outside _ :=
        ⟨v, hreport, rfl⟩
      exact ⟨_, hframe.step (@Step.finish _ _ y.running [] rfl _ _ _ hmakes), rfl, rfl, List.append_nil _, rfl, rfl⟩

theorem reaches_answered {r : CompilationRecord} (hlistening : y.Listening c) (hprogram : trim text ≠ [])
    (hcompile : y.service.compile clock outside (trim text) = (after, .ok r, effects)) :
    ∃ z, Reaches y z ∧ z.Listening c ∧ z.service = after ∧ z.repliesTo c = y.repliesTo c ++ [r] := by
  obtain ⟨z, hreaches, hservice, hunsent, hrunning, hsent, hgone⟩ := reaches_unsent hlistening hprogram hcompile
  refine ⟨_, hreaches.step (.send hunsent), ?_, hservice, ?_⟩
  · simpa only [Listening, outstanding, List.append_nil, hrunning, hgone] using hlistening
  · simp [repliesTo, hsent]

/-- A compilation in which an error is raised goes on running. -/
theorem reaches_raised {fault : RunFault} (hlistening : y.Listening c) (hprogram : trim text ≠ [])
    (hcompile : y.service.compile clock outside (trim text) = (after, .error fault, effects)) :
    ∃ z, Reaches y z ∧ z.service = after ∧ z.sent = y.sent := by
  cases compiles hcompile with
  | raised => exact ⟨_, Reaches.refl.step (.frame hlistening hprogram), rfl, rfl⟩

end

/-- A conversation that is served on its own is one way of interleaving its steps. -/
theorem reaches_exchange (clock : Clock) (outside : Outside) {c : Nat} (left : Deliverable) (frames : List Frame)
    {y : System} (hlistening : y.Listening c) :
    ∃ z, Reaches y z ∧ z.service = (y.service.exchange clock outside left frames).service ∧
      (z.repliesTo c).map Message.about =
        (y.repliesTo c).map Message.about ++ (y.service.exchange clock outside left frames).sent := by
  induction frames generalizing y left with
  | nil => exact ⟨y, .refl, rfl, (List.append_nil _).symm⟩
  | cons frame rest ih =>
      cases frame with
      | disconnect => exact ⟨y, .refl, rfl, (List.append_nil _).symm⟩
      | binary => exact ih left hlistening
      | text t =>
          by_cases hprogram : trim t = []
          · rw [exchange_of_blank hprogram]
            exact ih left hlistening
          rcases hcompile : y.service.compile clock outside (trim t) with ⟨after, result, effects⟩
          cases result with
          | error fault =>
              obtain ⟨z, hreaches, hafter, hsent⟩ := reaches_raised hlistening hprogram hcompile
              rw [exchange_of_raised hprogram hcompile]
              exact ⟨z, hreaches, hafter, by simp [repliesTo, hsent]⟩
          | ok r =>
              by_cases hleft : left = some 0
              · -- the outcome is lost, and the conversation with it
                obtain ⟨z, hreaches, hafter, hunsent, -, hsent, -⟩ := reaches_unsent hlistening hprogram hcompile
                rw [hleft, exchange_of_lost hprogram hcompile]
                exact ⟨_, hreaches.step (.lose hunsent), hafter, by simp [repliesTo, hsent]⟩
              · obtain ⟨z, hreaches, hlistens, hafter, hreplies⟩ := reaches_answered hlistening hprogram hcompile
                obtain ⟨w, hend, hlast, hsent⟩ := ih (left.map (· - 1)) hlistens
                rw [hafter] at hlast hsent
                rw [exchange_of_answered hprogram hcompile hleft]
                refine ⟨w, hreaches.trans hend, hlast, ?_⟩
                rw [hsent, hreplies, List.map_append, List.append_assoc, List.map_singleton, Message.about,
                  (compiles hcompile).of_ok.1]
                rfl

/-- However compilations are interleaved, their numbers are those behind the first one. The history holds the last of those
that are finished, as they were finished. A client is answered with growing numbers, and no two compilations can come to use
one directory. -/
theorem compilations_safe {s : Int} {startedAt : Binary64} {service : Service}
    (hcreate : Service.create settings ⟨s⟩ startedAt = .ok service) (hreaches : Reaches { service } y) :
    y.started.map Ticket.id = numbers s y.started.length ∧
      (y.started.map Ticket.id).Nodup ∧
      y.service.counter.current = s + y.started.length ∧
      (y.running.map Ticket.id ++ y.finished.map CompilationRecord.id).Perm (y.started.map Ticket.id) ∧
      y.service.history.records = lastOf (min settings.historyLimit y.finished.length) y.finished ∧
      (y.service.history.records.map CompilationRecord.id).Nodup ∧
      (∀ r ∈ y.finished, r.cpp = transpile r.flow ∧
        ∃ t ∈ y.started, ∃ clock outside, t.Makes settings clock outside r) ∧
      (∀ a ∈ y.sent, a.2 ∈ y.finished) ∧
      (∀ c, (y.repliesTo c).Pairwise fun r r' => r.id < r'.id) ∧
      y.started.Pairwise fun t t' => ∀ name, t.MayUse settings name → ¬ t'.MayUse settings name := by
  have hinv := hreaches.inv (inv_create hcreate)
  have hnodup : (y.started.map Ticket.id).Nodup := hinv.counts.pairwise_ids.imp Int.ne_of_lt
  have hfinished : (y.finished.map CompilationRecord.id).Nodup :=
    (List.nodup_append.mp (hinv.remembers.parts.nodup_iff.mpr hnodup)).2.1
  refine ⟨hinv.counts.ids, hnodup, hinv.counts.current, hinv.remembers.parts, ?_, ?_, ?_, ?_,
    hinv.answers.pairwise_repliesTo, ?_⟩
  · rw [lastOf_min_length, hinv.remembers.history]
  · rw [hinv.remembers.history]
    exact ((lastOf_isSuffix _ _).sublist.map _).nodup hfinished
  · intro r hr
    obtain ⟨t, ht, clock, outside, v, hresult, rfl⟩ := hinv.remembers.records r hr
    exact ⟨rfl, t, ht, clock, outside, v, hresult, rfl⟩
  · exact fun a ha => hinv.remembers.answers a (List.mem_append_right _ ha)
  · refine (List.pairwise_map.mp hnodup).imp ?_
    exact fun hne name ht ht' => hne (Ticket.id_eq_of_mayUse ht ht')

/-- Two compilations are finished in the other order, and a history for one remembers the one that was finished last. -/
theorem compilations_safe_overtaken :
    ∃ (settings : Settings) (service : Service) (y : System),
      Service.create settings ⟨41⟩ (.ofInt 0) = .ok service ∧ Reaches { service } y ∧
        y.started.map Ticket.id = [42, 43] ∧ y.finished.map CompilationRecord.id = [43, 42] ∧
        y.service.history.records.map CompilationRecord.id = [42] ∧ (y.repliesTo 7).map CompilationRecord.id = [43] ∧
        y.service.history.records = lastOf (min settings.historyLimit y.finished.length) y.finished := by
  let settings : Settings := { historyLimit := 1 }
  let clock : Clock := ⟨.ofInt 0, ⟨2024, 1, 1, 0, 0, 0, 0⟩⟩
  let outside : Outside := { scratch := .refused ⟨28, [], none⟩, build := .timedOut, run := .timedOut }
  have hcreate : Service.create settings ⟨41⟩ (.ofInt 0) = .ok ⟨settings, ⟨41⟩, .empty 1, .ofInt 0⟩ := rfl
  have hprogram : trim "say 2".toList ≠ [] := by decide
  have hstart := Reaches.refl.step (.request { service := ⟨settings, ⟨41⟩, .empty 1, .ofInt 0⟩ } "say 1".toList)
  have hframe := hstart.step (.frame (c := 7) ⟨by decide, by decide⟩ hprogram)
  have hfirst := hframe.step (@Step.finish _ _ [_] [] rfl clock outside _ ⟨_, rfl, rfl⟩)
  have hsecond := hfirst.step (@Step.finish _ _ [] [] rfl clock outside _ ⟨_, rfl, rfl⟩)
  have hsend := hsecond.step (@Step.send _ _ [] _ rfl)
  exact ⟨_, _, _, hcreate, hsend, rfl, rfl, rfl, rfl, (compilations_safe hcreate hsend).2.2.2.2.1⟩

end System

end FlowLang.Service
