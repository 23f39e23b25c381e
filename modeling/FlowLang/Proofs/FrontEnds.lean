import FlowLang.Proofs.CommandLine
import FlowLang.Proofs.Cpp.Layout
import FlowLang.Proofs.Service.Session

/-!
# Ways into the compiler

A program reaches the compiler in a request, in a frame of a conversation, or in a file. A request hands it over as it is, a
frame without the blanks around it, and a file with line feeds for line ends. The translation is the same, and the service
replies with it unless an error is raised.
-/

namespace FlowLang

open Text CommandLine Service

/-! ## The service -/

namespace Service

section

variable {service : Service} {framework : Framework} {clock : Clock} {outside : Outside}

/-- A reply to a request has the translation of the program in it. -/
theorem cpp_reply (hframework : framework.Sound) {site : Option Site} {r : Request} {reply : Reply}
    (h : (service.handle framework site clock outside r).2.1.reply? = some reply) :
    ∃ source, r.program? framework = some source ∧ reply.cpp = transpile source.shown := by
  have heq := congrArg Prod.snd (handle_eq hframework service site clock outside r)
  rw [show (service.handle framework site clock outside r).2.1.reply? = _ from heq] at h
  cases hprogram : r.program? framework with
  | none => simp [hprogram, compile?] at h
  | some source =>
      rw [hprogram, compile?] at h
      refine ⟨source, rfl, ?_⟩
      rcases hcompile : service.compile clock outside source with ⟨after, outcome, effects⟩
      rw [hcompile] at h
      cases outcome with
      | error fault => cases h
      | ok record =>
          rw [replyOf] at h
          split at h
          · cases h
          · obtain rfl := Option.some.inj h
            exact (compiles hcompile).of_ok.2.1

/-- A request with a program that is a text gets a reply. -/
theorem exists_reply (hframework : framework.Sound) (hwait : outside.Awaitable service.settings) {r : Request} {t : Text}
    (hprogram : r.program? framework = some (.text t)) (site : Option Site) (clock : Clock) :
    ∃ reply, (service.handle framework site clock outside r).2.1.reply? = some reply ∧ reply.cpp = transpile t := by
  have heq := congrArg Prod.snd (handle_eq hframework service site clock outside r)
  obtain ⟨after, record, effects, hcompile⟩ := exists_compile_eq_ok hwait clock t
  rw [hprogram, compile?, hcompile] at heq
  exact ⟨record.reply, heq, (compiles hcompile).of_ok.2.1⟩

/-- A message about a frame has the translation of the program in it. -/
theorem cpp_sent {s : Text} {m : Message} (h : m ∈ (service.exchange clock outside none [.text s]).sent) :
    ∃ reply, m = .compiled (trim s) reply ∧ reply.cpp = transpile s := by
  by_cases hprogram : trim s = []
  · rw [exchange_of_blank hprogram] at h
    cases h
  rcases hcompile : service.compile clock outside (trim s) with ⟨after, outcome, effects⟩
  cases outcome with
  | error fault =>
      rw [exchange_of_raised hprogram hcompile] at h
      cases h
  | ok record =>
      rw [exchange_of_answered hprogram hcompile (Option.some_ne_none 0).symm] at h
      refine ⟨record.reply, List.mem_singleton.mp h, ?_⟩
      exact (compiles hcompile).of_ok.2.1.trans (transpile_trim s)

theorem exists_sent (hwait : outside.Awaitable service.settings) {s : Text} (h : trim s ≠ []) (clock : Clock) :
    ∃ m, (service.exchange clock outside none [.text s]).sent = [m] := by
  obtain ⟨after, record, effects, hcompile⟩ := exists_compile_eq_ok hwait clock (trim s)
  exact ⟨_, by rw [exchange_of_answered h hcompile (Option.some_ne_none 0).symm]; rfl⟩

end

end Service

/-! ## The command line -/

theorem translates_of_encoded {w : World} {args : List Text} {a : Arguments} {s : Text}
    (hargs : parseArguments args = .ok (.work a)) (hlisted : a.emitStatements = false)
    (hread : w.files.read a.input = .ok (Utf8.encode s)) : Translates w args a (unifyNewlines s) :=
  ⟨hargs, hlisted, _, s, hread, Utf8.decode_encode s, rfl⟩

/-- A program is translated the same on all ways into the compiler: as the text of a request, without the blanks around it in a
reply to a frame, and with line feeds for line ends in the output for a file. More generally the lines that count, without the
blanks around them, tell what it is translated to. -/
theorem front_ends_translate_alike (s : Text) :
    (PairedReturns s →
      transpile (trim s) = transpile s ∧
      transpile (replaceAll "\r\n".toList "\n".toList s) = transpile s ∧
      ∀ (w : World) (args : List Text) (a : Arguments) (place : Place), parseArguments args = .ok (.work a) →
        a.emitStatements = false → w.files.read a.input = .ok (Utf8.encode s) →
        w.files.filePlace? (outputPath a) = some place →
        ∃ bytes, (run w args).files.read (outputPath a) = .ok bytes ∧ Utf8.decode bytes = .ok (transpile s)) ∧
    (∀ (service : Service) (clock : Clock) (outside : Outside),
      (∀ m ∈ (service.exchange clock outside none [.text s]).sent,
        ∃ reply, m = .compiled (trim s) reply ∧ reply.cpp = transpile s) ∧
      (trim s ≠ [] → outside.Awaitable service.settings →
        ∃ m, (service.exchange clock outside none [.text s]).sent = [m])) ∧
    (∀ (service : Service) (framework : Framework) (site : Option Site) (clock : Clock) (outside : Outside) (r : Request),
      framework.Sound →
      (∀ reply, (service.handle framework site clock outside r).2.1.reply? = some reply →
        ∃ source, r.program? framework = some source ∧ reply.cpp = transpile source.shown) ∧
      (r.program? framework = some (.text s) → outside.Awaitable service.settings →
        ∃ reply, (service.handle framework site clock outside r).2.1.reply? = some reply ∧ reply.cpp = transpile s)) ∧
    ∀ t, significantLines t = significantLines s → transpile t = transpile s := by
  refine ⟨fun hreturns => ⟨transpile_trim s, ?_, fun w args a place hargs hlisted hread hplace => ?_⟩,
    fun service clock outside => ⟨fun m => cpp_sent, fun hne hwait => exists_sent hwait hne clock⟩,
    fun service framework site clock outside r hframework =>
      ⟨fun reply => cpp_reply hframework, fun hprogram hwait => exists_reply hframework hwait hprogram site clock⟩,
    fun t => transpile_congr⟩
  · rw [replaceAll_eq_unifyNewlines hreturns, transpile_unifyNewlines hreturns]
  · obtain ⟨bytes, houtput, hdecode⟩ := ((translates_of_encoded hargs hlisted hread).written hplace).output
    exact ⟨bytes, houtput, hdecode.trans (congrArg Except.ok (transpile_unifyNewlines hreturns))⟩

theorem front_ends_translate_alike_say :
    PairedReturns "say 1\r\nend".toList ∧
      (∃ bytes, (run oneProgram ["p/a.b.flow".toList]).files.read "p/a.b.cpp".toList = .ok bytes ∧
        Utf8.decode bytes = .ok (transpile "say 1\r\nend".toList)) ∧
      trim "say 1\r\nend".toList ≠ [] ∧
      (∀ (service : Service) (clock : Clock) (outside : Outside), outside.Awaitable service.settings → ∃ reply,
        (service.exchange clock outside none [.text "say 1\r\nend".toList]).sent = [.compiled "say 1\r\nend".toList reply] ∧
          reply.cpp = transpile "say 1\r\nend".toList) ∧
      significantLines "\n let x \n\tsay 1\n\nend\u00a0".toList = significantLines "say 1\r\nend".toList ∧
      transpile "\n let x \n\tsay 1\n\nend\u00a0".toList = transpile "say 1\r\nend".toList := by
  have hreturns : PairedReturns "say 1\r\nend".toList := by decide
  have hne : trim "say 1\r\nend".toList ≠ [] := by decide
  have hlines : significantLines "\n let x \n\tsay 1\n\nend\u00a0".toList = significantLines "say 1\r\nend".toList := by
    decide +kernel
  have hplace : oneProgram.files.filePlace? "p/a.b.cpp".toList = some ["p".toList, "a.b.cpp".toList] := by decide +kernel
  obtain ⟨htext, hframe, -, hlayout⟩ := front_ends_translate_alike "say 1\r\nend".toList
  obtain ⟨-, -, hfile⟩ := htext hreturns
  refine ⟨hreturns, hfile oneProgram ["p/a.b.flow".toList] ⟨"p/a.b.flow".toList, none, false, false⟩ _ rfl rfl rfl hplace,
    hne, fun service clock outside hwait => ?_, hlines, hlayout _ hlines⟩
  obtain ⟨htranslated, hsent⟩ := hframe service clock outside
  obtain ⟨m, hm⟩ := hsent hne hwait
  obtain ⟨reply, rfl, hcpp⟩ := htranslated m (hm ▸ List.mem_singleton_self m)
  exact ⟨reply, hm, hcpp⟩

end FlowLang
