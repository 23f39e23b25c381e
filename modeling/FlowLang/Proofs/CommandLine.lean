import FlowLang.CommandLine.Basic
import FlowLang.Proofs.FileTree
import FlowLang.Proofs.Text.Utf8
import FlowLang.Proofs.Verdict

/-!
# What the command line touches

A call that has nothing to translate touches nothing. Every other call writes one file, and the program that it builds is
what that file holds. Unless its name says that it is C++ already, the input is not what is written.
-/

namespace FlowLang

open Text

namespace CommandLine

open FileTree

/-! ## Extensions -/

/-- A path is a root with an extension, which is a dot in its last part and what stands behind the dot. The last part has
more before it than dots, and no dot behind it; without such a dot the extension is empty. -/
inductive HasExtension : Text → Text → Text → Prop
  | plain {directory dots rest : Text} (hdirectory : IsDirectory directory) (hdots : ∀ c ∈ dots, c = '.')
      (hrest : '.' ∉ rest ∧ '/' ∉ rest) :
      HasExtension (directory ++ (dots ++ rest)) (directory ++ (dots ++ rest)) []
  | dotted {directory dots stem letters : Text} (hdirectory : IsDirectory directory) (hdots : ∀ c ∈ dots, c = '.')
      (hne : stem ≠ []) (hstem : stem.head? ≠ some '.' ∧ '/' ∉ stem) (hletters : '.' ∉ letters ∧ '/' ∉ letters) :
      HasExtension (directory ++ (dots ++ (stem ++ '.' :: letters))) (directory ++ (dots ++ stem)) ('.' :: letters)

variable {path root extension directory dots rest : Text}

theorem reverse_dropWhile_slash (hdirectory : IsDirectory directory) (hrest : '/' ∉ rest) :
    ((directory ++ rest).reverse.dropWhile (· != '/')).reverse = directory := by
  have hpass : ∀ c ∈ rest.reverse, (c != '/') = true := by
    intro c hc
    exact bne_iff_ne.mpr fun hslash => hrest (hslash ▸ List.mem_reverse.mp hc)
  rw [List.reverse_append, List.dropWhile_append_of_pos hpass]
  rcases hdirectory with rfl | hlast
  · rfl
  · obtain ⟨above, rfl⟩ := List.getLast?_eq_some_iff.mp hlast
    simp

theorem withoutExtension_append (hdirectory : IsDirectory directory) (hdots : ∀ c ∈ dots, c = '.')
    (hslash : '/' ∉ rest) (hrest : rest.head? ≠ some '.') :
    withoutExtension (directory ++ (dots ++ rest)) =
      if rest.contains '.' then directory ++ dots ++ ((rest.reverse.dropWhile (· != '.')).drop 1).reverse
      else directory ++ (dots ++ rest) := by
  have hname : '/' ∉ dots ++ rest := by
    intro hmem
    rcases List.mem_append.mp hmem with hmem | hmem
    · exact absurd (hdots _ hmem) (by decide)
    · exact hslash hmem
  have htake : (dots ++ rest).takeWhile (· == '.') = dots := by
    rw [List.takeWhile_append_of_pos fun c hc => by simp [hdots c hc]]
    cases rest with
    | nil => simp
    | cons c rest =>
        have hc : ¬(c == '.') = true := by simpa using hrest
        rw [List.takeWhile_cons, if_neg hc, List.append_nil]
  unfold withoutExtension
  simp only [reverse_dropWhile_slash hdirectory hname, List.drop_left, htake]

theorem HasExtension.withoutExtension_eq (h : HasExtension path root extension) : withoutExtension path = root := by
  cases h with
  | @plain directory dots rest hdirectory hdots hrest =>
      have hhead : rest.head? ≠ some '.' := fun hhead => hrest.1 (List.mem_of_head? hhead)
      have hdot : ¬rest.contains '.' = true := by simpa using hrest.1
      rw [withoutExtension_append hdirectory hdots hrest.2 hhead, if_neg hdot]
  | @dotted directory dots stem letters hdirectory hdots hne hstem hletters =>
      obtain ⟨c, stem, rfl⟩ := List.exists_cons_of_ne_nil hne
      have hslash : '/' ∉ (c :: stem) ++ '.' :: letters := by
        intro hmem
        rcases List.mem_append.mp hmem with hmem | hmem
        · exact hstem.2 hmem
        · exact hletters.2 ((List.mem_cons.mp hmem).resolve_left (by decide))
      have hreverse : '.' ∉ letters.reverse := fun hmem => hletters.1 (List.mem_reverse.mp hmem)
      have hback : (c :: stem ++ '.' :: letters).reverse = letters.reverse ++ '.' :: (c :: stem).reverse := by simp
      rw [withoutExtension_append hdirectory hdots hslash (by simpa using hstem.1), if_pos (by simp), hback,
        dropWhile_ne_append hreverse]
      simp

theorem HasExtension.append_eq (h : HasExtension path root extension) : root ++ extension = path := by
  cases h with
  | plain => exact List.append_nil _
  | dotted => simp

theorem exists_isDirectory (path : Text) : ∃ directory name, path = directory ++ name ∧ IsDirectory directory ∧ '/' ∉ name := by
  by_cases h : '/' ∈ path
  · obtain ⟨above, name, rfl, hname⟩ := exists_append_cons_of_mem h
    exact ⟨above ++ ['/'], name, by simp, Or.inr (by simp), hname⟩
  · exact ⟨[], path, rfl, Or.inl rfl, h⟩

theorem exists_hasExtension (path : Text) : ∃ root extension, HasExtension path root extension := by
  obtain ⟨directory, name, rfl, hdirectory, hname⟩ := exists_isDirectory path
  have hdots : ∀ c ∈ name.takeWhile (· == '.'), c = '.' := fun c hc => by
    simpa using List.all_eq_true.mp List.all_takeWhile c hc
  have hsplit : name.takeWhile (· == '.') ++ name.dropWhile (· == '.') = name := List.takeWhile_append_dropWhile
  have hhead : (name.dropWhile (· == '.')).head? ≠ some '.' := by
    intro hhead
    have hnot := List.head?_dropWhile_not (· == '.') name
    rw [hhead] at hnot
    exact absurd hnot (by decide)
  generalize name.takeWhile (· == '.') = dots at hdots hsplit
  generalize name.dropWhile (· == '.') = rest at hhead hsplit
  subst hsplit
  have hslash : '/' ∉ rest := fun hmem => hname (List.mem_append_right dots hmem)
  by_cases hdot : '.' ∈ rest
  · obtain ⟨stem, letters, rfl, hletters⟩ := exists_append_cons_of_mem hdot
    cases stem with
    | nil => exact absurd rfl hhead
    | cons c stem =>
        exact ⟨_, _, .dotted hdirectory hdots (by simp) ⟨hhead, fun hmem => hslash (List.mem_append_left _ hmem)⟩
          ⟨hletters, fun hmem => hslash (List.mem_append_right _ (List.mem_cons_of_mem _ hmem))⟩⟩
  · exact ⟨_, _, .plain hdirectory hdots ⟨hdot, hslash⟩⟩

/-- Root and extension lie in the same directory. -/
theorem HasExtension.exists_directory (h : HasExtension path root extension) :
    ∃ directory name stem, IsDirectory directory ∧ path = directory ++ name ∧ root = directory ++ stem ∧ '/' ∉ name ∧
      '/' ∉ stem := by
  have hdot : ∀ {dots : Text}, (∀ c ∈ dots, c = '.') → '/' ∉ dots := fun hdots hmem => absurd (hdots _ hmem) (by decide)
  cases h with
  | plain hdirectory hdots hrest =>
      have hname : '/' ∉ _ ++ _ := List.not_mem_append (hdot hdots) hrest.2
      exact ⟨_, _, _, hdirectory, rfl, rfl, hname, hname⟩
  | dotted hdirectory hdots _ hstem hletters =>
      have hletters' : '/' ∉ '.' :: _ := List.not_mem_cons_of_ne_of_not_mem (by decide) hletters.2
      exact ⟨_, _, _, hdirectory, rfl, rfl, List.not_mem_append (hdot hdots) (List.not_mem_append hstem.2 hletters'),
        List.not_mem_append (hdot hdots) hstem.2⟩

/-! ## The output -/

variable {w : World} {args : List Text} {a : Arguments} {source : Text} {place : Place}

/-- No output is given, or an empty one. -/
def Arguments.DefaultOutput (a : Arguments) : Prop :=
  a.output = none ∨ a.output = some []

theorem outputPath_of_default (h : a.DefaultOutput) : outputPath a = withoutExtension a.input ++ ".cpp".toList := by
  unfold outputPath
  rcases h with h | h <;> rw [h]

theorem outputPath_eq_input_iff (h : a.DefaultOutput) :
    outputPath a = a.input ↔ ∃ root, HasExtension a.input root ".cpp".toList := by
  rw [outputPath_of_default h]
  constructor
  · intro heq
    obtain ⟨root, extension, hextension⟩ := exists_hasExtension a.input
    have happend := hextension.append_eq
    rw [hextension.withoutExtension_eq, ← happend] at heq
    exact ⟨root, List.append_cancel_left heq ▸ hextension⟩
  · rintro ⟨root, hextension⟩
    rw [hextension.withoutExtension_eq, hextension.append_eq]

/-- The output is not written over an input that is not C++ by its name. -/
theorem filePlace?_input_ne (h : a.DefaultOutput) (hcpp : ¬∃ root, HasExtension a.input root ".cpp".toList) {t : FileTree}
    (houtput : t.filePlace? (outputPath a) = some place) : t.filePlace? a.input ≠ some place := by
  intro hinput
  obtain ⟨root, extension, hextension⟩ := exists_hasExtension a.input
  obtain ⟨directory, name, stem, hdirectory, hpath, rfl, hname, hstem⟩ := hextension.exists_directory
  have hcppName : '/' ∉ stem ++ ".cpp".toList := List.not_mem_append hstem (by decide)
  have hout : outputPath a = directory ++ (stem ++ ".cpp".toList) := by
    rw [outputPath_of_default h, hextension.withoutExtension_eq, List.append_assoc]
  rw [hpath] at hinput
  rw [hout] at houtput
  obtain rfl := eq_of_filePlace?_eq hdirectory hname hcppName hinput houtput
  exact hcpp ((outputPath_eq_input_iff h).mp (hout.trans hpath.symm))

/-! ## The call -/

/-- The program `source` is to be translated. -/
structure Translates (w : World) (args : List Text) (a : Arguments) (source : Text) : Prop where
  arguments : parseArguments args = .ok (.work a)
  not_listed : a.emitStatements = false
  decoded : ∃ content text, w.files.read a.input = .ok content ∧ Utf8.decode content = .ok text ∧ unifyNewlines text = source

/-- No file is changed and nothing is asked of the outside. -/
def Outcome.Untouched (w : World) (o : Outcome) : Prop :=
  o.files = w.files ∧ o.effects = .none

theorem Translates.run_eq (h : Translates w args a source) : run w args = translateSource w a source := by
  obtain ⟨content, text, hread, hdecode, rfl⟩ := h.decoded
  simp only [run, h.arguments, work, hread, hdecode]

theorem files_buildAndRun (w : World) (files : FileTree) (cpp printed : Text) :
    (buildAndRun w files cpp printed).files = files := by
  unfold buildAndRun
  split
  · rfl
  · dsimp only
    split <;> rfl

theorem Translates.files_run (h : Translates w args a source) (hplace : w.files.filePlace? (outputPath a) = some place) :
    (run w args).files = w.files.put place (.file (Utf8.encode (transpile source))) := by
  rw [h.run_eq, translateSource, if_neg (by simp [h.not_listed])]
  simp only [write_of_filePlace? hplace]
  split
  · exact files_buildAndRun ..
  · rfl

/-- The program is in the output's place, and all else is as it was. -/
structure Written (w : World) (a : Arguments) (source : Text) (place : Place) (o : Outcome) : Prop where
  output : ∃ bytes, o.files.read (outputPath a) = .ok bytes ∧ Utf8.decode bytes = .ok (transpile source)
  entry : o.files.get? place = some (.file (Utf8.encode (transpile source)))
  frame : ∀ p, p ≠ place → o.files.get? p = w.files.get? p
  input : a.DefaultOutput → (¬∃ root, HasExtension a.input root ".cpp".toList) →
    o.files.read a.input = w.files.read a.input

theorem Translates.written (h : Translates w args a source) (hplace : w.files.filePlace? (outputPath a) = some place) :
    Written w a source place (run w args) := by
  obtain ⟨-, -, -, -, hdirectory⟩ := exists_leads hplace
  obtain ⟨content, -, hread, -⟩ := h.decoded
  constructor
  case output => exact ⟨_, by rw [h.files_run hplace, read_put_self hplace], Utf8.decode_encode _⟩
  case entry => rw [h.files_run hplace, get?_put_self hdirectory]
  case frame => intro p hp; rw [h.files_run hplace, get?_put_of_ne hp]
  case input =>
    intro hdefault hcpp
    rw [h.files_run hplace, hread, read_put_of_ne hread hdirectory (filePlace?_input_ne hdefault hcpp hplace)]

/-- A program in a directory of its own, and a compiler that accepts what it is given. -/
def oneProgram : World where
  files := ⟨[(["p".toList], .directory), (["p".toList, "a.b.flow".toList], .file (Utf8.encode "say 1\r\nend".toList))]⟩
  environment := []
  outside := { scratch := .ready "/tmp/d".toList, build := .exited 0 [] [], run := .exited 3 [] [] }
  process := 7

end CommandLine

end FlowLang
