import FlowLang.CommandLine.Basic
import FlowLang.Proofs.Text.Blank
import FlowLang.Proofs.Text.Quoted
import FlowLang.Proofs.Text.Utf8

/-!
# Reading records

The record of a statement can be read from left to right. The name of the kind tells which fields follow, every quoted text
tells where it ends, and the number of the line is the last field. So a statement is known from its record, and a program's
statements from what is printed for them, one on each line.
-/

namespace FlowLang

open Text

/-! ## Values -/

/-- Reads members with commas between them up to the closing parenthesis, which may have a comma before it. -/
def readMembers : Nat → Text → Option (List Text × Text)
  | 0, _ => none
  | most + 1, t =>
    match unquote? t with
    | some (m, ',' :: ' ' :: rest) => (readMembers most rest).map fun p => (m :: p.1, p.2)
    | some (m, ',' :: ')' :: rest) => some ([m], rest)
    | some (m, ')' :: rest) => some ([m], rest)
    | _ => none

/-- Reads a sequence whose opening parenthesis is gone. -/
def readSequence? (t : Text) : Option (List Text × Text) :=
  match after? [')'] t with
  | some rest => some ([], rest)
  | none => readMembers t.length t

def readValue? (t : Text) : Option (FieldValue × Text) :=
  match after? ['('] t with
  | some members => (readSequence? members).map fun p => (.texts p.1, p.2)
  | none => (unquote? t).map fun p => (.text p.1, p.2)

theorem after?_append (w t : Text) : after? w (w ++ t) = some t :=
  after?_eq_some_iff.mpr rfl

theorem after?_quoted {x : Char} (h : ¬IsMark x) (t rest : Text) : after? [x] (quoted t ++ rest) = none := by
  have hx : x ≠ quoteMark t := fun heq => h (heq ▸ isMark_quoteMark t)
  rw [quoted, List.cons_append, List.cons_append, after?, if_neg hx]

/-- The members behind the first one, each behind a comma. -/
def laterMembers (ms : List Text) : Text :=
  ms.flatMap fun m => ", ".toList ++ quoted m

/-- Only a single member has a comma behind it. -/
theorem write_texts_cons (m : Text) (ms : List Text) : ∃ closing : Text, (closing = ",)".toList ∨ closing = ")".toList) ∧
    (FieldValue.texts (m :: ms)).write = '(' :: (quoted m ++ (laterMembers ms ++ closing)) := by
  cases ms with
  | nil => exact ⟨_, .inl rfl, rfl⟩
  | cons n ms =>
      refine ⟨_, .inr rfl, ?_⟩
      have hjoin : joinWith ", ".toList ((m :: n :: ms).map quoted) = quoted m ++ laterMembers (n :: ms) := by
        rw [List.map_cons, joinWith_cons_flatMap, List.flatMap_map, laterMembers]
      rw [← List.append_assoc, ← hjoin]
      rfl

theorem length_le_laterMembers (ms : List Text) : ms.length ≤ (laterMembers ms).length := by
  induction ms with
  | nil => exact Nat.zero_le _
  | cons m ms ih =>
      rw [laterMembers, List.flatMap_cons, List.length_append, List.length_append, List.length_cons]
      have htwo : ", ".toList.length = 2 := rfl
      have hrest : (laterMembers ms).length = (ms.flatMap fun m => ", ".toList ++ quoted m).length := rfl
      omega

section

variable {closing : Text} (hclosing : closing = ",)".toList ∨ closing = ")".toList)
include hclosing

theorem readMembers_written {m : Text} {ms : List Text} {most : Nat} (hmost : ms.length ≤ most) (rest : Text) :
    readMembers (most + 1) (quoted m ++ (laterMembers ms ++ (closing ++ rest))) = some (m :: ms, rest) := by
  induction ms generalizing m most with
  | nil =>
      rw [readMembers, unquote?_quoted]
      rcases hclosing with rfl | rfl <;> rfl
  | cons n ms ih =>
      obtain ⟨most, rfl⟩ := Nat.exists_eq_succ_of_ne_zero (Nat.ne_zero_of_lt hmost)
      have hnext : laterMembers (n :: ms) ++ (closing ++ rest) =
          ',' :: ' ' :: (quoted n ++ (laterMembers ms ++ (closing ++ rest))) := by
        rw [laterMembers, List.flatMap_cons, List.append_assoc, List.append_assoc]
        rfl
      rw [readMembers, unquote?_quoted, hnext]
      simp only [ih (Nat.le_of_succ_le_succ hmost)]
      rfl

theorem readSequence?_written (m : Text) (ms : List Text) (rest : Text) :
    readSequence? (quoted m ++ (laterMembers ms ++ (closing ++ rest))) = some (m :: ms, rest) := by
  -- there are no more members than characters, so the reader does not stop early
  obtain ⟨most, hmost⟩ : ∃ most, (quoted m ++ (laterMembers ms ++ (closing ++ rest))).length = most + 1 := ⟨_, rfl⟩
  have hle : ms.length ≤ most := by
    have hmembers := length_le_laterMembers ms
    have hquoted : 1 ≤ (quoted m).length := Nat.succ_pos _
    simp only [List.length_append] at hmost
    omega
  rw [readSequence?, after?_quoted (by decide), hmost]
  exact readMembers_written hclosing hle rest

end

theorem readValue?_write (v : FieldValue) (rest : Text) : readValue? (v.write ++ rest) = some (v, rest) := by
  cases v with
  | text t =>
      rw [FieldValue.write, readValue?, after?_quoted (by decide), unquote?_quoted]
      rfl
  | texts ts =>
      cases ts with
      | nil => rfl
      | cons m ms =>
          obtain ⟨closing, hclosing, hwrite⟩ := write_texts_cons m ms
          have hopened := after?_append ['('] (quoted m ++ (laterMembers ms ++ (closing ++ rest)))
          rw [List.singleton_append] at hopened
          rw [hwrite, List.cons_append, List.append_assoc, List.append_assoc, readValue?, hopened]
          simp only [readSequence?_written hclosing]
          rfl

/-! ## Fields -/

/-- The fields before the number of the line, each with its comma. -/
def writeFields (fields : List (Text × FieldValue)) : Text :=
  fields.flatMap fun f => f.1 ++ "=".toList ++ f.2.write ++ ", ".toList

/-- Reads fields with the given names. -/
def readFields? : List Text → Text → Option (List FieldValue × Text)
  | [], t => some ([], t)
  | name :: names, t => do
    let value ← after? (name ++ "=".toList) t
    let (v, behind) ← readValue? value
    let next ← after? ", ".toList behind
    let (vs, rest) ← readFields? names next
    some (v :: vs, rest)

theorem readFields?_writeFields (fields : List (Text × FieldValue)) (rest : Text) :
    readFields? (fields.map Prod.fst) (writeFields fields ++ rest) = some (fields.map Prod.snd, rest) := by
  induction fields with
  | nil => rfl
  | cons f fields ih =>
      have hwritten : writeFields (f :: fields) ++ rest =
          f.1 ++ "=".toList ++ (f.2.write ++ (", ".toList ++ (writeFields fields ++ rest))) := by
        simp only [writeFields, List.flatMap_cons, List.append_assoc]
      rw [List.map_cons, readFields?, hwritten, after?_append]
      simp only [Option.bind_eq_bind, Option.bind_some, readValue?_write, after?_append, ih]
      rfl

/-! ## Line numbers -/

def readInt (t : Text) : Int :=
  match after? ['-'] t with
  | some digits => -(Nat.ofDigitChars 10 digits 0 : Int)
  | none => Nat.ofDigitChars 10 t 0

theorem readInt_ofInt (n : Int) : readInt (ofInt n) = n := by
  have hvalue {m : Nat} : Nat.ofDigitChars 10 (ofNat m) 0 = m := Nat.ofDigitChars_toDigits (by decide) (by decide)
  cases n with
  | ofNat n =>
      have hdigits : after? ['-'] (ofNat n) = none := by
        apply Option.eq_none_iff_forall_ne_some.mpr
        intro digits h
        have hminus : '-' ∈ ofNat n := after?_eq_some_iff.mp h ▸ List.mem_cons_self
        exact absurd (isDigit_of_mem_ofNat hminus) (by decide)
      rw [ofInt, readInt, hdigits]
      exact congrArg Int.ofNat hvalue
  | negSucc n =>
      have hminus : after? ['-'] ('-' :: ofNat (n + 1)) = some (ofNat (n + 1)) := after?_append ['-'] _
      rw [ofInt, readInt, hminus]
      exact congrArg (fun m : Nat => -(m : Int)) hvalue

/-! ## Records -/

/-- What the name of a kind tells: the names of the fields, and the statement that has given values in them. -/
structure Shape where
  kind : Text
  names : List Text
  make : List FieldValue → Option Statement

namespace Shape

def bare (kind : String) (s : Statement) : Shape where
  kind := kind.toList
  names := []
  make
    | [] => some s
    | _ => none

def single (kind name : String) (s : Text → Statement) : Shape where
  kind := kind.toList
  names := [name.toList]
  make
    | [.text t] => some (s t)
    | _ => none

end Shape

def shapes : List Shape :=
  [.single "Comment" "text" .comment,
   .bare "End" .blockEnd,
   { kind := "FunctionDef".toList
     names := ["name".toList, "params".toList]
     make := fun
       | [.text name, .texts params] => some (.define ⟨name, params⟩)
       | _ => none },
   .single "Return" "expr" .returnValue,
   .single "Say" "expr" .say,
   { kind := "Let".toList
     names := ["name".toList, "expr".toList]
     make := fun
       | [.text name, .text value] => some (.bind name value)
       | _ => none },
   .single "Dropped" "text" .dropped,
   .single "If" "condition" .ifThen,
   .bare "Else" .elseBranch,
   .single "Loop" "count" .loopTimes,
   .single "While" "condition" .whileDo,
   .single "Grow" "var" .grow,
   .bare "Break" .breakLoop,
   .bare "Continue" .continueLoop,
   .single "ExprStmt" "expr" .expression]

def readRecord? (t : Text) : Option Numbered := do
  let (kind, fields) ← cut? ['('] t
  let shape ← shapes.find? (·.kind == kind)
  let (values, behind) ← readFields? shape.names fields
  let statement ← shape.make values
  let number ← between? "line=".toList ")".toList behind
  some ⟨readInt number, statement⟩

theorem exists_shape (s : Statement) : ∃ shape, shapes.find? (·.kind == s.kind) = some shape ∧
    shape.names = s.fields.map Prod.fst ∧ shape.make (s.fields.map Prod.snd) = some s := by
  cases s <;> exact ⟨_, rfl, rfl, rfl⟩

theorem not_mem_kind (s : Statement) : '(' ∉ s.kind := by
  have hnone : s.kind.contains '(' = false := by cases s <;> rfl
  simpa using hnone

theorem record_eq (s : Numbered) : s.record =
    s.statement.kind ++ '(' :: (writeFields s.statement.fields ++ ("line=".toList ++ (ofInt s.line ++ [')']))) := by
  simp only [Numbered.record, joinWith_concat, writeFields, List.flatMap_map, List.append_assoc]
  rfl

theorem readRecord?_record (s : Numbered) : readRecord? s.record = some s := by
  obtain ⟨shape, hfind, hnames, hmake⟩ := exists_shape s.statement
  have hnumber : between? "line=".toList ")".toList ("line=".toList ++ (ofInt s.line ++ [')'])) = some (ofInt s.line) :=
    between?_eq_some_iff.mpr rfl
  rw [record_eq, readRecord?, cut?_append (not_mem_kind _)]
  simp only [Option.bind_eq_bind, Option.bind_some, hfind, hnames, readFields?_writeFields, hmake, hnumber, readInt_ofInt]

theorem record_injective : Function.Injective Numbered.record := by
  intro s t h
  have hread := congrArg readRecord? h
  rw [readRecord?_record, readRecord?_record] at hread
  exact Option.some.inj hread

/-! ## Characters -/

theorem isPrintable_of_mem_write {c : Char} {v : FieldValue} (h : c ∈ v.write) : isPrintable c = true := by
  cases v with
  | text t => exact isPrintable_of_mem_quoted h
  | texts ts =>
      cases ts with
      | nil => exact isPrintable_of_all rfl c h
      | cons m ms =>
          obtain ⟨closing, hclosing, hwrite⟩ := write_texts_cons m ms
          have hcloses : closing.all isBasic = true := by rcases hclosing with rfl | rfl <;> rfl
          rw [hwrite] at h
          rcases List.mem_cons.mp h with rfl | h
          · exact isPrintable_of_isBasic rfl
          rcases List.mem_append.mp h with h | h
          · exact isPrintable_of_mem_quoted h
          rcases List.mem_append.mp h with h | h
          · obtain ⟨n, -, hn⟩ := List.mem_flatMap.mp h
            rcases List.mem_append.mp hn with hn | hn
            · exact isPrintable_of_all rfl c hn
            · exact isPrintable_of_mem_quoted hn
          · exact isPrintable_of_all hcloses c h

theorem isBasic_of_isDigit {c : Char} (h : c.isDigit = true) : isBasic c = true := by
  simp only [Char.isDigit, Bool.and_eq_true, decide_eq_true_eq] at h
  have hlow : 48 ≤ c.toNat := h.1
  have hhigh : c.toNat ≤ 57 := h.2
  simp only [isBasic, Bool.and_eq_true, decide_eq_true_eq]
  omega

theorem isPrintable_of_mem_ofInt {c : Char} {n : Int} (h : c ∈ ofInt n) : isPrintable c = true := by
  apply isPrintable_of_isBasic
  cases n with
  | ofNat n => exact isBasic_of_isDigit (isDigit_of_mem_ofNat h)
  | negSucc n =>
      rcases List.mem_cons.mp h with rfl | h
      · rfl
      · exact isBasic_of_isDigit (isDigit_of_mem_ofNat h)

theorem all_kind (s : Statement) : s.kind.all isBasic = true := by
  cases s <;> rfl

theorem all_names (s : Statement) : s.fields.all (fun f => f.1.all isBasic) = true := by
  cases s <;> rfl

theorem isPrintable_of_mem_fields {c : Char} {s : Statement} (h : c ∈ writeFields s.fields) : isPrintable c = true := by
  obtain ⟨f, hf, hc⟩ := List.mem_flatMap.mp h
  simp only [List.mem_append, or_assoc] at hc
  rcases hc with hc | hc | hc | hc
  · exact isPrintable_of_all (List.all_eq_true.mp (all_names s) f hf) c hc
  · exact isPrintable_of_all rfl c hc
  · exact isPrintable_of_mem_write hc
  · exact isPrintable_of_all rfl c hc

theorem isPrintable_of_mem_record {c : Char} {s : Numbered} (h : c ∈ s.record) : isPrintable c = true := by
  rw [record_eq] at h
  simp only [List.mem_append, List.mem_cons, List.not_mem_nil, or_false] at h
  rcases h with h | rfl | h | h | h | rfl
  · exact isPrintable_of_all (all_kind _) c h
  · exact isPrintable_of_isBasic rfl
  · exact isPrintable_of_mem_fields h
  · exact isPrintable_of_all rfl c h
  · exact isPrintable_of_mem_ofInt h
  · exact isPrintable_of_isBasic rfl

/-! ## Listings -/

namespace CommandLine

variable {w : World} {args : List Text} {a : Arguments} {source : Text}

def readListing? (t : Text) : Option (List Numbered) :=
  (lines t).dropLast.mapM readRecord?

theorem lines_printLines {ls : List Text} (h : ∀ l ∈ ls, '\n' ∉ l) : lines (printLines ls) = ls ++ [[]] := by
  have hjoin : printLines ls = joinWith ['\n'] (ls ++ [[]]) := by
    rw [joinWith_concat, List.append_nil]
    rfl
  have hlines : ∀ l ∈ ls ++ [[]], '\n' ∉ l := by
    rw [List.forall_mem_append]
    exact ⟨h, by simp⟩
  rw [hjoin, lines, splitOn_joinWith hlines (by simp)]

theorem mapM_readRecord? (ss : List Numbered) : (ss.map Numbered.record).mapM readRecord? = some ss := by
  induction ss with
  | nil => rfl
  | cons s ss ih => simp [readRecord?_record, ih]

theorem readListing?_of_lines {ss : List Numbered} {t : Text} (h : lines t = ss.map Numbered.record ++ [[]]) :
    readListing? t = some ss := by
  rw [readListing?, h, List.dropLast_concat, mapM_readRecord?]

/-- The statements of the program `source` are to be printed. -/
structure Lists (w : World) (args : List Text) (a : Arguments) (source : Text) : Prop where
  arguments : parseArguments args = .ok (.work a)
  listed : a.emitStatements = true
  decoded : ∃ content text, w.files.read a.input = .ok content ∧ Utf8.decode content = .ok text ∧ unifyNewlines text = source

theorem Lists.run_eq (h : Lists w args a source) :
    run w args = { ending := .exit 0, stdout := printLines ((statements source).map Numbered.record), files := w.files } := by
  obtain ⟨content, text, hread, hdecode, rfl⟩ := h.decoded
  simp only [run, h.arguments, work, hread, hdecode, translateSource, if_pos h.listed]

/-- Printing statements loses nothing. Each stands on a line of its own, as a record that has neither a control character nor
a line separator; different statements have different records; and the statements can be read from what is printed. -/
theorem listing_lossless (source : Text) :
    let printed := printLines ((statements source).map Numbered.record)
    lines printed = (statements source).map Numbered.record ++ [[]] ∧
    (∀ s : Numbered, ∀ c ∈ s.record, isPrintable c = true ∧ breaksLine c = false) ∧
    (∀ s t : Numbered, s.record = t.record ↔ s = t) ∧
    readListing? printed = some (statements source) ∧
    ∀ w args a, Lists w args a source → (run w args).ending = .exit 0 ∧ (run w args).stdout = printed := by
  intro printed
  have hprintable (s : Numbered) : ∀ c ∈ s.record, isPrintable c = true ∧ breaksLine c = false := by
    intro c hc
    have h := isPrintable_of_mem_record hc
    exact ⟨h, breaksLine_eq_false h⟩
  have hlines : lines printed = (statements source).map Numbered.record ++ [[]] := by
    apply lines_printLines
    intro l hl hfeed
    obtain ⟨s, -, rfl⟩ := List.mem_map.mp hl
    exact absurd (hprintable s _ hfeed).2 (by decide)
  refine ⟨hlines, hprintable, fun s t => record_injective.eq_iff, readListing?_of_lines hlines, ?_⟩
  intro w args a h
  rw [h.run_eq]
  exact ⟨rfl, rfl⟩

/-- A program whose texts have quotes, a backslash and a tab in them. -/
def quotedProgram : Text :=
  "define f(a)\nlet x = '\\\t\"'\nend".toList

def listingWorld : World where
  files := ⟨[(["a.flow".toList], .file (Utf8.encode quotedProgram))]⟩
  environment := []
  outside := { scratch := .ready "/tmp/d".toList, build := .exited 0 [] [], run := .exited 0 [] [] }
  process := 7

theorem listing_lossless_quotedProgram :
    let args := ["--emit-statements".toList, "a.flow".toList]
    Lists listingWorld args ⟨"a.flow".toList, none, true, false⟩ quotedProgram ∧
      (run listingWorld args).stdout =
        ("FunctionDef(name='f', params=('a',), line=1)\n" ++ "Let(name='x', expr='\\'\\\\\\t\"\\'', line=2)\n" ++
          "End(line=3)\n").toList ∧
      readListing? (run listingWorld args).stdout = some (statements quotedProgram) ∧
      '\t' ∈ quotedProgram ∧ '\\' ∈ (⟨2, .bind "x".toList "'\\\t\"'".toList⟩ : Numbered).record ∧ breaksLine '\t' = true ∧
      breaksLine '\\' = false := by
  intro args
  have hlists : Lists listingWorld args ⟨"a.flow".toList, none, true, false⟩ quotedProgram :=
    ⟨rfl, rfl, _, _, rfl, Utf8.decode_encode _, by decide⟩
  obtain ⟨-, hprintable, -, hread, hrun⟩ := listing_lossless quotedProgram
  have hprinted := (hrun _ _ _ hlists).2
  have hbackslash : '\\' ∈ (⟨2, .bind "x".toList "'\\\t\"'".toList⟩ : Numbered).record := by decide +kernel
  exact ⟨hlists, hprinted.trans (by decide +kernel), hprinted.symm ▸ hread, by decide, hbackslash, rfl,
    (hprintable _ _ hbackslash).2⟩

end CommandLine

end FlowLang
