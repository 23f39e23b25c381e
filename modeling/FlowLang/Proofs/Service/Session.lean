import FlowLang.Proofs.Json
import FlowLang.Proofs.Service.Compilation
import FlowLang.Service.Conversation
import FlowLang.Service.Http

/-!
# Sessions

What comes to a service one thing after another: requests, clients that connect, and their frames. Every program among it takes
a number, and is remembered unless an error is raised. No error is raised as long as programs are texts and processes can be
waited for. Then it can be told from the arrivals alone which of them are programs, and what the service reports at any time
follows from the programs so far: how many there were, and the last of them with the replies that they got.
-/

namespace FlowLang.Service

open Text History

/-! ## The web framework -/

def Response.reply? (r : Response) : Option Reply :=
  match r.body with
  | .compiled reply => some reply
  | _ => none

/-- The body of a request to compile a program. -/
def sourceBody (t : Text) : Bytes :=
  Utf8.encode (Json.object [("source".toList, .text t)]).write

/-- What is assumed of the web framework: its own pages are at none of the known paths and are no replies, and a program in a
body of JSON is read as it is. -/
structure Framework.Sound (framework : Framework) : Prop where
  known : ∀ {r : Request} {route : Route}, route? r.target.path = some route → framework.page? r = none
  page : ∀ {r : Request} {response : Response}, framework.page? r = some response → response.reply? = none
  source : ∀ {r : Request} {t : Text}, r.declaresJson = true → r.body = sourceBody t → framework.read r = .ok (.text t)

theorem requestSource_sourceBody {r : Request} {t : Text} (hjson : r.declaresJson = true) (hbody : r.body = sourceBody t) :
    requestSource r = .ok (.text t) := by
  have hne : r.body.isEmpty = false := by
    rw [hbody, sourceBody, Json.write_single]
    rfl
  have hparse : Json.parseBytes r.body = .ok (.object [("source".toList, .text t)]) := by
    rw [hbody, sourceBody, Json.parseBytes_write]
  simp only [requestSource, hne, hjson, hparse]
  rfl

theorem Framework.sound_usual (manual : Text → Text) : (Framework.usual manual).Sound where
  known := by
    intro r route hroute
    have hnone : ∀ path ∈ Framework.manualPaths, route? path = none := by decide
    refine if_neg ?_
    rintro ⟨-, hpath⟩
    rw [hnone _ hpath] at hroute
    cases hroute
  page := by
    intro r response hpage
    dsimp only [Framework.usual] at hpage
    split at hpage
    · cases hpage
      rfl
    · cases hpage
  source := requestSource_sourceBody

/-! ## Arrivals -/

/-- What comes to a service. -/
inductive Arrival where
  | request (r : Request)
  /-- a client, and how many messages will reach it -/
  | connect (c : Nat) (deliverable : Deliverable)
  | frame (c : Nat) (f : Frame)
  deriving DecidableEq, Repr

/-- An arrival, and what the service finds around it. -/
structure Event where
  arrival : Arrival
  site : Option Site
  clock : Clock
  outside : Outside
  deriving DecidableEq, Repr

/-- The connected clients, and how many more messages reach each. -/
abbrev Clients := Nat → Option Deliverable

/-- What is left when one more message is sent; nothing if it does not reach the client. -/
def sendOne : Deliverable → Option Deliverable
  | none => some none
  | some 0 => none
  | some (n + 1) => some (some n)

/-- The program that is to be compiled for a frame. -/
def Frame.program? : Frame → Option Text
  | .text t => if (trim t).isEmpty then none else some (trim t)
  | .binary => none
  | .disconnect => none

/-- The program that is to be compiled for a request. -/
def Request.program? (framework : Framework) (r : Request) : Option Source :=
  if r.method = .post ∧ route? r.target.path = some .compile then (framework.read r).toOption else none

/-- The client after a frame; none if it is gone. -/
def Frame.remaining (f : Frame) (left : Deliverable) : Option Deliverable :=
  if f = .disconnect then none else if f.program?.isSome then sendOne left else some left

namespace Clients

/-- No client is connected. -/
def empty : Clients :=
  fun _ => none

def set (clients : Clients) (c : Nat) (left : Option Deliverable) : Clients :=
  fun d => if d = c then left else clients d

/-- The program that is to be compiled for an arrival. -/
def program? (framework : Framework) (clients : Clients) : Arrival → Option Source
  | .request r => r.program? framework
  | .connect _ _ => none
  | .frame c f => (clients c).bind fun _ => f.program?.map .text

/-- The clients after an arrival for which no error is raised. -/
def next (clients : Clients) : Arrival → Clients
  | .request _ => clients
  | .connect c deliverable => clients.set c (sendOne deliverable)
  | .frame c f => clients.set c ((clients c).bind f.remaining)

/-- The programs among arrivals for which no error is raised, in order. -/
def programs (framework : Framework) (clients : Clients) : List Arrival → List Source
  | [] => []
  | a :: rest => (clients.program? framework a).toList ++ (clients.next a).programs framework rest

end Clients

/-! ## Steps -/

/-- What is answered to an arrival. -/
inductive Answer where
  | response (r : Response)
  | message (m : Message) (reached : Bool)
  /-- an error was raised, and with it the conversation is over -/
  | broken (fault : RunFault)
  | silence
  deriving DecidableEq, Repr

namespace Answer

/-- The reply to a program that the answer is. -/
def reply? : Answer → Option Reply
  | .response r => r.reply?
  | .message (.compiled _ reply) _ => some reply
  | _ => none

end Answer

/-- What happened to one arrival: what came of its program, if it has one, and what was answered. -/
structure Turn where
  arrival : Arrival
  outcome? : Option Outcome
  answer : Answer

/-- A service, the framework that it relies on, and its clients. -/
structure Session where
  framework : Framework
  service : Service
  clients : Clients

namespace Session

/-- The program that is to be compiled for an arrival. -/
def program? (x : Session) (a : Arrival) : Option Source :=
  x.clients.program? x.framework a

/-- What comes of the program of an arrival. -/
def outcome? (x : Session) (e : Event) : Option Outcome :=
  (x.program? e.arrival).map fun source => (x.service.compile e.clock e.outside source).2.1

/-- The service after an arrival, and what is answered. -/
def answer (x : Session) (e : Event) : Service × Answer :=
  match e.arrival with
  | .request r =>
    let (after, response, _) := x.service.handle x.framework e.site e.clock e.outside r
    (after, .response response)
  | .connect _ deliverable =>
    (x.service, .message (.welcome x.service.counter.current) (sendOne deliverable).isSome)
  | .frame c f =>
    match x.clients c, f.program? with
    | some left, some source =>
      match x.service.compile e.clock e.outside source with
      | (after, .ok record, _) => (after, .message (.compiled source record.reply) (sendOne left).isSome)
      | (after, .error fault, _) => (after, .broken fault)
    | _, _ => (x.service, .silence)

/-- The clients after an arrival. One whose program raised an error is gone. -/
def clientsAfter (x : Session) (e : Event) : Clients :=
  match (x.answer e).2, e.arrival with
  | .broken _, .frame c _ => x.clients.set c none
  | _, a => x.clients.next a

/-- Takes one arrival. -/
def step (x : Session) (e : Event) : Session × Turn :=
  ({ x with service := (x.answer e).1, clients := x.clientsAfter e }, ⟨e.arrival, x.outcome? e, (x.answer e).2⟩)

/-- Takes arrivals one after another. -/
def run (x : Session) : List Event → Session × List Turn
  | [] => (x, [])
  | e :: rest => (((x.step e).1.run rest).1, (x.step e).2 :: ((x.step e).1.run rest).2)

/-- What comes of the programs among the arrivals. -/
def outcomes (x : Session) (events : List Event) : List Outcome :=
  (x.run events).2.filterMap Turn.outcome?

/-- The replies to the programs among the arrivals. -/
def replies (x : Session) (events : List Event) : List Reply :=
  (x.run events).2.filterMap fun t => t.answer.reply?

theorem run_cons (x : Session) (e : Event) (rest : List Event) :
    x.run (e :: rest) = (((x.step e).1.run rest).1, (x.step e).2 :: ((x.step e).1.run rest).2) := rfl

theorem outcomes_cons (x : Session) (e : Event) (rest : List Event) :
    x.outcomes (e :: rest) = (x.outcome? e).toList ++ (x.step e).1.outcomes rest := by
  rw [outcomes, run_cons, List.filterMap_cons, outcomes]
  cases h : x.outcome? e <;> simp [step, h]

theorem replies_cons (x : Session) (e : Event) (rest : List Event) :
    x.replies (e :: rest) = (x.step e).2.answer.reply?.toList ++ (x.step e).1.replies rest := by
  rw [replies, run_cons, List.filterMap_cons, replies]
  cases (x.step e).2.answer.reply? <;> rfl

end Session

/-! ## Requests -/

theorem Site.reply?_respond (files : Site) (r : Request) : (files.respond r).reply? = none := by
  have hmissing : files.missing.reply? = none := by
    rw [Site.missing]
    split <;> rfl
  rw [Site.respond]
  split
  · rfl
  split
  · exact hmissing
  split
  · rfl
  split
  · rfl
  · split
    · split <;> rfl
    · exact hmissing
  · exact hmissing

theorem reply?_unrouted (r : Request) : (unrouted r).reply? = none := by
  rw [unrouted]
  split
  · rfl
  · split <;> rfl

/-- The reply to a program. It cannot be sent if the C++ is no text. -/
def replyOf (source : Source) : Outcome → Option Reply
  | .ok r => if source.hasLooseCode then none else some r.reply
  | .error _ => none

/-- Compiles a program if there is one: the service then, and the reply. -/
def compile? (s : Service) (clock : Clock) (outside : Outside) : Option Source → Service × Option Reply
  | none => (s, none)
  | some source => ((s.compile clock outside source).1, replyOf source (s.compile clock outside source).2.1)

theorem serve_compile (s : Service) (framework : Framework) (clock : Clock) (outside : Outside) (r : Request) :
    ((s.serve framework clock outside r .compile).1, (s.serve framework clock outside r .compile).2.1.reply?) =
      s.compile? clock outside (framework.read r).toOption := by
  rw [serve]
  cases framework.read r with
  | error fault => cases fault <;> rfl
  | ok source =>
      simp only [Except.toOption, compile?]
      rcases s.compile clock outside source with ⟨after, outcome, effects⟩
      cases outcome with
      | error fault => rfl
      | ok record =>
          simp only [replyOf, Response.sendable]
          cases source.hasLooseCode <;> rfl

theorem serve_of_error {s : Service} {framework : Framework} {clock : Clock} {outside : Outside} {r : Request}
    {source : Source} {fault : RunFault} (hread : framework.read r = .ok source)
    (h : (source.report s.begin.counter.current s.settings outside).result = .error fault) :
    s.serve framework clock outside r .compile =
      (s.begin, .failed (.run fault), (source.report s.begin.counter.current s.settings outside).effects) := by
  simp only [serve, hread, compile_of_error h]

section

variable {framework : Framework} {r : Request}

/-- What no route answers is not compiled. -/
theorem handle_unrouted (hframework : framework.Sound) (h : (route? r.target.path).filter (·.method == r.method) = none)
    (s : Service) (site : Option Site) (clock : Clock) (outside : Outside) :
    ((s.handle framework site clock outside r).1, (s.handle framework site clock outside r).2.1.reply?) = (s, none) := by
  rw [handle]
  cases hpage : framework.page? r with
  | some response => exact congrArg _ (hframework.page hpage)
  | none =>
      rw [h]
      cases site.filter fun _ => Site.covers r.target.path with
      | some files => exact congrArg _ (files.reply?_respond r)
      | none => exact congrArg _ (reply?_unrouted r)

theorem handle_of_route (hframework : framework.Sound) {route : Route} (hroute : route? r.target.path = some route)
    (hmethod : route.method = r.method) (s : Service) (site : Option Site) (clock : Clock) (outside : Outside) :
    s.handle framework site clock outside r = s.serve framework clock outside r route := by
  rw [handle, hframework.known hroute, hroute, Option.filter_some, if_pos (beq_iff_eq.mpr hmethod)]

theorem handle_eq (hframework : framework.Sound) (s : Service) (site : Option Site) (clock : Clock) (outside : Outside)
    (r : Request) :
    ((s.handle framework site clock outside r).1, (s.handle framework site clock outside r).2.1.reply?) =
      s.compile? clock outside (r.program? framework) := by
  rw [Request.program?]
  cases hrouted : (route? r.target.path).filter (·.method == r.method) with
  | none =>
      rw [handle_unrouted hframework hrouted, if_neg]
      · rfl
      · rintro ⟨hmethod, hroute⟩
        simp [hmethod, hroute, Route.method] at hrouted
  | some route =>
      obtain ⟨hroute, hmethod⟩ := Option.filter_eq_some_iff.mp hrouted
      rw [handle_of_route hframework hroute (eq_of_beq hmethod), hroute, ← eq_of_beq hmethod]
      cases route with
      | health => rfl
      | ideas =>
          simp only [serve, Response.sendable]
          split <;> rfl
      | compile => exact s.serve_compile framework clock outside r

end

namespace Session

variable {x : Session} {e : Event}

/-- A step compiles the program of the arrival, if it has one, and else leaves the service as it is. -/
theorem step_eq (hframework : x.framework.Sound) (e : Event) :
    ((x.step e).1.service, (x.step e).2.answer.reply?) =
      x.service.compile? e.clock e.outside (x.program? e.arrival) := by
  rw [step, answer, program?]
  cases e.arrival with
  | request r => exact handle_eq hframework x.service e.site e.clock e.outside r
  | connect c deliverable => rfl
  | frame c f =>
      simp only [Clients.program?]
      cases x.clients c with
      | none => rfl
      | some left =>
          cases f.program? with
          | none => rfl
          | some source =>
              simp only [Option.bind_some, Option.map_some, compile?]
              rcases x.service.compile e.clock e.outside source with ⟨after, outcome, effects⟩
              cases outcome <;> rfl

theorem service_step (hframework : x.framework.Sound) (e : Event) :
    (x.step e).1.service = (x.service.compile? e.clock e.outside (x.program? e.arrival)).1 :=
  congrArg Prod.fst (step_eq hframework e)

theorem reply?_step (hframework : x.framework.Sound) (e : Event) :
    (x.step e).2.answer.reply? = (x.service.compile? e.clock e.outside (x.program? e.arrival)).2 :=
  congrArg Prod.snd (step_eq hframework e)

theorem continues_step (hframework : x.framework.Sound) (h : x.service.history.Bounded) (e : Event) :
    Continues x.service (x.outcome? e).toList (x.step e).1.service := by
  rw [service_step hframework, outcome?]
  cases x.program? e.arrival with
  | none => exact .refl h
  | some source => exact .of_compiles h (compiles rfl)

theorem continues_run (hframework : x.framework.Sound) (h : x.service.history.Bounded) (events : List Event) :
    Continues x.service (x.outcomes events) (x.run events).1.service := by
  induction events generalizing x with
  | nil => exact .refl h
  | cons e rest ih =>
      have hstep := continues_step hframework h e
      rw [outcomes_cons]
      exact hstep.trans (ih (x := (x.step e).1) hframework hstep.bounded)

theorem framework_run (x : Session) (events : List Event) : (x.run events).1.framework = x.framework := by
  induction events generalizing x with
  | nil => rfl
  | cons e rest ih => exact ih (x.step e).1

end Session

/-! ## Sessions without errors -/

/-- The program of a request is a text, and processes can be waited for. -/
structure Event.Sound (framework : Framework) (settings : Settings) (e : Event) : Prop where
  text : ∀ r source, e.arrival = .request r → framework.read r = .ok source → ∃ t, source = .text t
  awaitable : e.outside.Awaitable settings

namespace Session

variable {x : Session} {e : Event}

theorem exists_text (h : e.Sound x.framework x.service.settings) {source : Source}
    (hprogram : x.program? e.arrival = some source) : ∃ t, source = .text t := by
  rw [program?] at hprogram
  cases harrival : e.arrival with
  | request r =>
      rw [harrival, Clients.program?, Request.program?] at hprogram
      split at hprogram
      · cases hread : x.framework.read r with
        | error fault => simp [hread, Except.toOption] at hprogram
        | ok read =>
            obtain rfl : read = source := by simpa [hread, Except.toOption] using hprogram
            exact h.text r read harrival hread
      · cases hprogram
  | connect c deliverable =>
      rw [harrival] at hprogram
      cases hprogram
  | frame c f =>
      rw [harrival, Clients.program?] at hprogram
      obtain ⟨left, -, hmap⟩ := Option.bind_eq_some_iff.mp hprogram
      obtain ⟨t, -, rfl⟩ := Option.map_eq_some_iff.mp hmap
      exact ⟨t, rfl⟩

/-- The program of an arrival without an error is remembered and answered. -/
inductive Remembers (x : Session) (e : Event) : Option Source → Option CompilationRecord → Prop where
  | nothing (houtcome : x.outcome? e = none) (hreply : (x.step e).2.answer.reply? = none) : Remembers x e none none
  | program {t : Text} {r : CompilationRecord} (houtcome : x.outcome? e = some (.ok r)) (hflow : r.flow = t)
      (hloose : r.loose = false) (hreply : (x.step e).2.answer.reply? = some r.reply) :
      Remembers x e (some (.text t)) (some r)

theorem remembers (hframework : x.framework.Sound) (h : e.Sound x.framework x.service.settings) :
    ∃ r?, Remembers x e (x.program? e.arrival) r? := by
  have hreply := reply?_step hframework e
  cases hprogram : x.program? e.arrival with
  | none =>
      rw [hprogram] at hreply
      exact ⟨none, .nothing (by rw [outcome?, hprogram]; rfl) hreply⟩
  | some source =>
      obtain ⟨t, rfl⟩ := exists_text h hprogram
      obtain ⟨after, r, effects, hcompile⟩ := exists_compile_eq_ok h.awaitable e.clock t
      obtain ⟨hflow, -, hloose⟩ := (compiles hcompile).of_ok
      rw [hprogram, compile?, hcompile] at hreply
      exact ⟨some r, .program (by rw [outcome?, hprogram, Option.map_some, hcompile]) hflow hloose hreply⟩

/-- A client is gone after its frame only if it leaves, or a message does not reach it. -/
theorem clients_step (h : e.Sound x.framework x.service.settings) : (x.step e).1.clients = x.clients.next e.arrival := by
  have hunbroken : ∀ fault, (x.answer e).2 ≠ .broken fault := by
    intro fault hbroken
    rw [answer] at hbroken
    split at hbroken
    · cases hbroken
    · cases hbroken
    · split at hbroken
      · rename_i left source _ _
        obtain ⟨after, r, effects, hcompile⟩ := exists_compile_eq_ok h.awaitable e.clock source
        rw [hcompile] at hbroken
        cases hbroken
      · cases hbroken
  rw [step]
  dsimp only
  rw [clientsAfter]
  split
  · rename_i fault c f hanswer harrival
    exact absurd hanswer (hunbroken fault)
  · rfl

/-- All programs were compiled without an error and answered. -/
structure Answered (programs : List Source) (outcomes : List Outcome) (replies : List Reply) : Prop where
  returned : outcomes = (recordsOf outcomes).map .ok
  flows : (recordsOf outcomes).map (fun r => Source.text r.flow) = programs
  texts : ∀ r ∈ recordsOf outcomes, r.loose = false
  replied : replies = (recordsOf outcomes).map CompilationRecord.reply

theorem Answered.cons {programs : List Source} {outcomes : List Outcome} {replies : List Reply}
    (h : Answered programs outcomes replies) {r : CompilationRecord} (hloose : r.loose = false) :
    Answered (.text r.flow :: programs) (.ok r :: outcomes) (r.reply :: replies) where
  returned := congrArg (Except.ok r :: ·) h.returned
  flows := congrArg (Source.text r.flow :: ·) h.flows
  texts := by
    intro q hq
    rcases List.mem_cons.mp hq with rfl | hq
    · exact hloose
    · exact h.texts q hq
  replied := congrArg (r.reply :: ·) h.replied

theorem answered_run (hframework : x.framework.Sound) (hbounded : x.service.history.Bounded) {events : List Event}
    (h : ∀ e ∈ events, e.Sound x.framework x.service.settings) :
    Answered (x.clients.programs x.framework (events.map Event.arrival)) (x.outcomes events) (x.replies events) := by
  induction events generalizing x with
  | nil => exact ⟨rfl, rfl, fun r hr => (nomatch hr), rfl⟩
  | cons e rest ih =>
      have hstep := continues_step hframework hbounded e
      have hrest := ih (x := (x.step e).1) hframework hstep.bounded fun e' he' =>
        hstep.settings ▸ h e' (List.mem_cons_of_mem _ he')
      rw [clients_step (h e List.mem_cons_self)] at hrest
      rw [outcomes_cons, replies_cons, List.map_cons, Clients.programs]
      obtain ⟨r?, hremembers⟩ := remembers hframework (h e List.mem_cons_self)
      rw [program?] at hremembers
      generalize x.clients.program? x.framework e.arrival = program at hremembers
      cases hremembers with
      | nothing houtcome hreply =>
          rw [houtcome, hreply]
          exact hrest
      | program houtcome hflow hloose hreply =>
          rw [houtcome, hreply, ← hflow]
          exact hrest.cons hloose

/-! ## Reports -/

theorem step_request (x : Session) (r : Request) (site : Option Site) (clock : Clock) (outside : Outside) :
    (x.step ⟨.request r, site, clock, outside⟩).2.answer =
      .response (x.service.handle x.framework site clock outside r).2.1 := rfl

theorem step_connect (x : Session) (c : Nat) (deliverable : Deliverable) (site : Option Site) (clock : Clock)
    (outside : Outside) :
    x.step ⟨.connect c deliverable, site, clock, outside⟩ =
      ({ x with clients := x.clients.set c (sendOne deliverable) },
        ⟨.connect c deliverable, none, .message (.welcome x.service.counter.current) (sendOne deliverable).isSome⟩) := rfl

theorem isSome_sendOne (left : Deliverable) : (sendOne left).isSome = decide (left ≠ some 0) := by
  cases left with
  | none => rfl
  | some n => cases n <;> simp [sendOne]

/-- The service has compiled the programs with these records, and nothing else. -/
structure Reports (settings : Settings) (s : Int) (records : List CompilationRecord) (service : Service) : Prop where
  current : service.counter.current = s + records.length
  history : service.history = ⟨settings.historyLimit, lastOf settings.historyLimit records⟩
  ids : records.map CompilationRecord.id = numbers s records.length

section

variable {settings : Settings} {s : Int} {service t : Service} {records : List CompilationRecord}

theorem reports_of_continues {startedAt : Binary64} (hcreate : Service.create settings ⟨s⟩ startedAt = .ok service)
    (h : Continues service (records.map .ok) t) : Reports settings s records t := by
  obtain rfl := eq_of_create hcreate
  have hhistory := h.history
  rw [recordsOf_map_ok] at hhistory
  exact ⟨by simpa using h.current, hhistory, h.map_id⟩

theorem bounded_create {startedAt : Binary64} (hcreate : Service.create settings ⟨s⟩ startedAt = .ok service) :
    service.history.Bounded := by
  obtain rfl := eq_of_create hcreate
  exact Nat.zero_le _

theorem Reports.health_eq (h : Reports settings s records service) (clock : Clock) :
    service.health clock =
      ⟨s + records.length, service.uptime clock, min settings.historyLimit records.length⟩ := by
  rw [health, h.current, History.length, h.history, length_lastOf]

theorem Reports.recent_eq (h : Reports settings s records service) :
    service.history.recent usualCount = lastOf (min 50 (min settings.historyLimit records.length)) records := by
  rw [recent, h.history, lastOf_lastOf, ← lastOf_min_length, Nat.min_assoc]
  rfl

theorem Reports.ids_lastOf (h : Reports settings s records service) {k : Nat} (hk : k ≤ records.length) :
    (lastOf k records).map CompilationRecord.id = numbers (s + records.length - k) k := by
  rw [map_lastOf, h.ids, lastOf_numbers s hk]

end

/-- What a step does to the service: nothing without a program. A program takes a number, and is remembered unless an error is
raised. -/
inductive Changes (x : Session) : Option Source → Option Outcome → Service → Prop where
  | nothing : Changes x none none x.service
  | remembered (source : Source) (r : CompilationRecord) :
      Changes x (some source) (some (.ok r))
        { x.service with counter := ⟨x.service.counter.current + 1⟩, history := x.service.history.add r }
  | raised (source : Source) (fault : RunFault) :
      Changes x (some source) (some (.error fault)) { x.service with counter := ⟨x.service.counter.current + 1⟩ }

theorem changes_step (hframework : x.framework.Sound) (e : Event) :
    Changes x (x.program? e.arrival) (x.outcome? e) (x.step e).1.service := by
  rw [service_step hframework, outcome?]
  cases x.program? e.arrival with
  | none => exact .nothing
  | some source =>
      rw [Option.map_some, compile?]
      rcases hcompile : x.service.compile e.clock e.outside source with ⟨after, outcome, effects⟩
      cases compiles hcompile with
      | remembered => exact .remembered source _
      | raised => exact .raised source _

/-- What the service reports after any arrivals without an error follows from the programs among them, and each program has got
the reply that is remembered. A program in a body of JSON is compiled as it is. In any case a program takes a number and is
remembered unless an error is raised, and all that is no program leaves the service as it is. -/
theorem reports_follow_programs {settings : Settings} {s : Int} {service : Service} {startedAt : Binary64}
    (hcreate : Service.create settings ⟨s⟩ startedAt = .ok service) {framework : Framework} (hframework : framework.Sound)
    {events : List Event} (hsound : ∀ e ∈ events, e.Sound framework settings) :
    let x : Session := ⟨framework, service, .empty⟩
    let y := (x.run events).1
    let records := recordsOf (x.outcomes events)
    let n := records.length
    let kept := min settings.historyLimit n
    records.map (fun r => Source.text r.flow) = Clients.empty.programs framework (events.map Event.arrival) ∧
      x.replies events = records.map (fun r => ⟨r.cpp, r.output, r.success, r.id⟩) ∧
      records.map CompilationRecord.id = numbers s n ∧
      (∀ path ∈ ["/health".toList, "/status".toList], ∀ origin query body kind site clock outside,
        (y.step ⟨.request ⟨.get, origin, ⟨path, query⟩, body, kind⟩, site, clock, outside⟩).2.answer =
          .response { status := 200, body := .health ⟨s + n, y.service.uptime clock, kept⟩ }) ∧
      (∀ c deliverable site clock outside,
        (y.step ⟨.connect c deliverable, site, clock, outside⟩).2.answer =
          .message (.welcome (s + n)) (decide (deliverable ≠ some 0))) ∧
      (∀ origin query body kind site clock outside,
        (y.step ⟨.request ⟨.get, origin, ⟨"/ideas".toList, query⟩, body, kind⟩, site, clock, outside⟩).2.answer =
          .response { status := 200, body := .ideas (lastOf (min 50 kept) records) kept }) ∧
      (lastOf (min 50 kept) records).map CompilationRecord.id =
        numbers (s + n - (min 50 kept : Nat)) (min 50 kept) ∧
      (∀ origin query t kind, Request.declaresJson ⟨.post, origin, ⟨"/api/compile".toList, query⟩, sourceBody t, kind⟩ = true →
        y.program? (.request ⟨.post, origin, ⟨"/api/compile".toList, query⟩, sourceBody t, kind⟩) = some (.text t)) ∧
      ∀ (z : Session) (e : Event), z.framework.Sound →
        Changes z (z.program? e.arrival) (z.outcome? e) (z.step e).1.service := by
  intro x y records n kept
  have hbounded : x.service.history.Bounded := bounded_create hcreate
  have hsettings : x.service.settings = settings := congrArg Service.settings (eq_of_create hcreate)
  have hanswered : Answered _ (x.outcomes events) (x.replies events) :=
    answered_run (x := x) hframework hbounded (hsettings.symm ▸ hsound)
  have hreports : Reports settings s records y.service := by
    apply reports_of_continues hcreate
    rw [← hanswered.returned]
    exact continues_run (x := x) hframework hbounded events
  have hrelies : y.framework = framework := x.framework_run events
  refine ⟨hanswered.flows, hanswered.replied, hreports.ids, ?_, ?_, ?_, hreports.ids_lastOf (by omega), ?_,
    fun z e hz => changes_step hz e⟩
  · intro path hpath origin query body kind site clock outside
    have hroute : route? path = some .health := by
      revert path
      decide
    rw [step_request, hrelies, handle_of_route hframework hroute rfl, serve, hreports.health_eq]
  · intro c deliverable site clock outside
    rw [step_connect, hreports.current, isSome_sendOne]
  · intro origin query body kind site clock outside
    have hroute : route? "/ideas".toList = some .ideas := by decide
    have htexts : (lastOf (min 50 kept) records).any CompilationRecord.loose = false := by
      rw [List.any_eq_false]
      intro r hr
      simp [hanswered.texts r ((lastOf_isSuffix _ _).subset hr)]
    have hlength : y.service.history.length = kept := by rw [History.length, hreports.history, length_lastOf]
    rw [step_request, hrelies, handle_of_route hframework hroute rfl, serve]
    dsimp only
    rw [hreports.recent_eq, hlength, htexts]
    rfl
  · intro origin query t kind hjson
    have hroute : route? "/api/compile".toList = some .compile := by decide
    rw [program?, hrelies, Clients.program?, Request.program?, if_pos ⟨rfl, hroute⟩, hframework.source hjson rfl]
    rfl

/-- A request to compile with this body. -/
def postOf (body : Bytes) : Request :=
  ⟨.post, [], ⟨"/api/compile".toList, none⟩, body, some "application/json".toList⟩

/-- Two clients: one that leaves before the reply to its program, and one that is answered. -/
def twoClients : List Arrival :=
  [.connect 7 (some 1), .frame 7 .binary, .frame 7 (.text " say 1 ".toList), .frame 7 (.text "say 3".toList),
    .connect 8 none, .frame 8 (.text "say 2".toList)]

/-- A body that is missing, a program in a body, and the programs of two clients. -/
def mixedEvents : List Event :=
  (.request (postOf []) :: .request (postOf (Utf8.encode "\x7b\"source\":\"say 0\"\x7d".toList)) :: twoClients).map
    fun a => ⟨a, none, ⟨.ofInt 0, ⟨2024, 1, 1, 0, 0, 0, 0⟩⟩,
      { scratch := .refused ⟨28, [], none⟩, build := .timedOut, run := .timedOut, longestWait := some 2147483647 }⟩

/-- The last of the programs pushes the first one out of a history for two. -/
theorem reports_follow_programs_evicted :
    let settings : Settings := { historyLimit := 2 }
    let framework : Framework := .usual fun _ => []
    let service : Service := ⟨settings, ⟨41⟩, .empty 2, .ofInt 0⟩
    let x : Session := ⟨framework, service, .empty⟩
    Service.create settings ⟨41⟩ (.ofInt 0) = .ok service ∧ framework.Sound ∧
      (∀ e ∈ mixedEvents, e.Sound framework settings) ∧
      Clients.empty.programs framework (mixedEvents.map Event.arrival) =
        [.text "say 0".toList, .text "say 1".toList, .text "say 2".toList] ∧
      (x.replies mixedEvents).map Reply.id = [42, 43, 44] ∧
      ∀ clock outside,
        ((x.run mixedEvents).1.step
          ⟨.request ⟨.get, [], ⟨"/health".toList, none⟩, [], none⟩, none, clock, outside⟩).2.answer =
            .response { status := 200, body := .health ⟨44, (x.run mixedEvents).1.service.uptime clock, 2⟩ } := by
  intro settings framework service x
  have hcreate : Service.create settings ⟨41⟩ (.ofInt 0) = .ok service := rfl
  have hframework : framework.Sound := Framework.sound_usual _
  have hread : framework.read (postOf (Utf8.encode "\x7b\"source\":\"say 0\"\x7d".toList)) = .ok (.text "say 0".toList) :=
    hframework.source (by decide) (by decide +kernel)
  have hsound : ∀ e ∈ mixedEvents, e.Sound framework settings := by
    intro e he
    obtain ⟨a, ha, rfl⟩ := List.mem_map.mp he
    refine ⟨?_, Runner.canWait_iff.mpr rfl, Runner.canWait_iff.mpr rfl⟩
    rintro r source rfl hok
    rcases List.mem_cons.mp ha with hr | ha
    · cases hr
      cases hok
    rcases List.mem_cons.mp ha with hr | ha
    · cases hr
      exact ⟨_, Except.ok.inj (hok.symm.trans hread)⟩
    · simp [twoClients] at ha
  have hprograms : Clients.empty.programs framework (mixedEvents.map Event.arrival) =
      [.text "say 0".toList, .text "say 1".toList, .text "say 2".toList] := by
    have hposted : (postOf (Utf8.encode "\x7b\"source\":\"say 0\"\x7d".toList)).program? framework =
        some (.text "say 0".toList) := by
      rw [Request.program?, if_pos (by decide), hread]
      rfl
    have hclients : Clients.empty.programs framework twoClients = [.text "say 1".toList, .text "say 2".toList] := by
      decide +kernel
    have hsplit : Clients.empty.programs framework (mixedEvents.map Event.arrival) =
        ((postOf (Utf8.encode "\x7b\"source\":\"say 0\"\x7d".toList)).program? framework).toList ++
          Clients.empty.programs framework twoClients := rfl
    rw [hsplit, hposted, hclients]
    rfl
  obtain ⟨hflows, hreplies, hids, hhealth, -⟩ := reports_follow_programs hcreate hframework hsound
  have hcount := congrArg List.length (hflows.trans hprograms)
  rw [List.length_map] at hcount
  refine ⟨hcreate, hframework, hsound, hprograms, ?_, fun clock outside => ?_⟩
  · rw [hreplies, List.map_map]
    exact hids.trans (by rw [hcount]; rfl)
  · have hanswer := hhealth "/health".toList (by decide) [] none [] none none clock outside
    rw [hcount] at hanswer
    exact hanswer

/-- A program that is half of a surrogate pair takes a number, cannot be written, and is forgotten. -/
theorem loose_program_forgotten :
    ∃ (service : Service) (e : Event),
      let x : Session := ⟨.usual fun _ => [], service, .empty⟩
      Service.create {} ⟨0⟩ (.ofInt 0) = .ok service ∧
        e.arrival = .request (postOf (Utf8.encode "\x7b\"source\":\"\\ud800\"\x7d".toList)) ∧
        (∃ fault, (x.step e).2.answer = .response { status := 500, body := .failed (.run fault) }) ∧
        (x.step e).1.service.counter.current = 1 ∧ (x.step e).1.service.history.records = [] := by
  let clock : Clock := ⟨.ofInt 0, ⟨2024, 1, 1, 0, 0, 0, 0⟩⟩
  let outside : Outside := { scratch := .ready "/tmp/flowc_1_a".toList, build := .exited 0 [] [], run := .exited 0 [] [] }
  let service : Service := ⟨{}, ⟨0⟩, .empty 500, .ofInt 0⟩
  let half : LooseText := ⟨[.half 0xD800]⟩
  let r : Request := postOf (Utf8.encode "\x7b\"source\":\"\\ud800\"\x7d".toList)
  have hliteral : Json.Spells "\\ud800".toList [0xD800] := fun opening rest => by
    simp [Json.units, Json.hexNumber?, Json.hexValue?, Except.map]
  have hbody : r.body = Utf8.encode (Json.single ("source".toList.flatMap Json.writeChar) "\\ud800".toList) :=
    congrArg Utf8.encode (by decide)
  have hparse : Json.parseBytes r.body = .ok (.object [("source".toList, .loose half)]) := by
    rw [hbody, Json.parseBytes_single (Json.spells_write "source".toList) hliteral]
    rfl
  have hread : requestSource r = .ok (.loose half) := by
    simp only [requestSource, show r.body.isEmpty = false from rfl, show r.declaresJson = true by decide, hparse]
    rfl
  have hraised : (Source.report (.loose half) service.begin.counter.current service.settings outside).result =
      .error (.unencodable (transpileLoose half)) := by
    have hcode : (transpileLoose half).text? = none := by decide +kernel
    rw [Source.report, Runner.compileAndRunLoose, hcode]
  have hhandle := handle_of_route (r := r) (Framework.sound_usual fun _ => [])
    (show route? r.target.path = some .compile by decide) rfl service none clock outside
  rw [serve_of_error hread hraised] at hhandle
  have hcreate : Service.create {} ⟨0⟩ (.ofInt 0) = .ok service := rfl
  refine ⟨service, ⟨.request r, none, clock, outside⟩, hcreate, rfl, ⟨.unencodable (transpileLoose half), ?_⟩, ?_, ?_⟩
  · exact (step_request _ r none clock outside).trans (congrArg (fun h => Answer.response h.2.1) hhandle)
  · exact congrArg (fun h => h.1.counter.current) hhandle
  · exact congrArg (fun h => h.1.history.records) hhandle

end Session

end FlowLang.Service
