import FlowLang.Proofs.Statement.Grammar
import FlowLang.Proofs.Statement.Render

/-!
# Ways to write a signature

Blanks may stand around the name and around every parameter, blank entries may stand between the commas, and the closing
parenthesis may be left out. A text with an opening parenthesis is read as a signature exactly if it is written in one of
these ways, unless a closing parenthesis stands in the name.
-/

namespace FlowLang

/-! ## Texts in order -/

namespace Text

/-- The texts stand in another one, each behind those before it. -/
def InOrder : List Text → Text → Prop
  | [], _ => True
  | p :: ps, t => ∃ before rest, t = before ++ (p ++ rest) ∧ InOrder ps rest

variable {ps : List Text} {t rest : Text}

theorem InOrder.prepend (a : Text) (h : InOrder ps t) : InOrder ps (a ++ t) := by
  cases ps with
  | nil => trivial
  | cons p ps =>
      obtain ⟨before, rest, rfl, hrest⟩ := h
      exact ⟨a ++ before, rest, by simp, hrest⟩

theorem InOrder.append (b : Text) (h : InOrder ps t) : InOrder ps (t ++ b) := by
  induction ps generalizing t with
  | nil => trivial
  | cons p ps ih =>
      obtain ⟨before, rest, rfl, hrest⟩ := h
      exact ⟨before, rest ++ b, by simp, ih hrest⟩

theorem InOrder.trim_cons (t : Text) (h : InOrder ps rest) : InOrder (trim t :: ps) (t ++ rest) := by
  obtain ⟨before, after, _, _, ht⟩ := exists_trim t
  refine ⟨before, after ++ rest, ?_, h.prepend after⟩
  conv => lhs; rw [ht]
  simp

/-- What the entries of a list hold stands in the list in their order. -/
theorem inOrder_joinWith (sep : Text) (entries : List Text) :
    InOrder ((entries.map trim).filter (!·.isEmpty)) (joinWith sep entries) := by
  have hentry (e : Text) (es : List Text) (rest : Text) (h : InOrder ((es.map trim).filter (!·.isEmpty)) rest) :
      InOrder (((e :: es).map trim).filter (!·.isEmpty)) (e ++ rest) := by
    rw [List.map_cons, List.filter_cons]
    split
    · exact h.trim_cons e
    · exact h.prepend e
  induction entries with
  | nil => trivial
  | cons e entries ih =>
      cases entries with
      | nil =>
          have hlast := hentry e [] [] trivial
          rw [List.append_nil] at hlast
          rwa [joinWith_singleton]
      | cons f entries =>
          rw [joinWith_cons_cons, List.append_assoc]
          exact hentry e _ _ (ih.prepend sep)

end Text

namespace Signature

open Text

variable {entries params : List Text} {text : Text} {s : Signature}

theorem Written.inOrder (h : Written text s) : InOrder (s.name :: s.params) text := by
  cases h with
  | bare _ =>
      have hname : InOrder [trim text] (text ++ []) := .trim_cons text trivial
      rwa [List.append_nil] at hname
  | @listed name behind entries _ _ _ _ =>
      exact (((inOrder_joinWith ",".toList entries).append behind).prepend ['(']).trim_cons name
  | @closed name rest _ _ => exact .trim_cons name trivial

/-- Before the name stand only blanks. -/
theorem Written.exists_name (h : Written text s) :
    ∃ gap rest, (∀ c ∈ gap, isBlank c = true) ∧ text = gap ++ (s.name ++ rest) := by
  have hstart (name rest : Text) : ∃ gap more, (∀ c ∈ gap, isBlank c = true) ∧ name ++ rest = gap ++ (trim name ++ more) := by
    obtain ⟨gap, after, hgap, _, hname⟩ := exists_trim name
    refine ⟨gap, after ++ rest, hgap, ?_⟩
    conv => lhs; rw [hname]
    simp
  cases h with
  | bare _ =>
      have hname := hstart text []
      rwa [List.append_nil] at hname
  | listed _ _ _ _ => exact hstart _ _
  | closed _ _ => exact hstart _ _

/-! ## Lists of parameters -/

/-- The entries of a list are the parameters in their order, with blanks around each, and any number of blank entries. -/
inductive Entries : List Text → List Text → Prop
  | done : Entries [] []
  | blank {params entries : List Text} {entry : Text} (hentry : ∀ c ∈ entry, isBlank c = true)
      (h : Entries params entries) : Entries params (entry :: entries)
  | param {params entries : List Text} {before p after : Text} (hbefore : ∀ c ∈ before, isBlank c = true)
      (hafter : ∀ c ∈ after, isBlank c = true) (h : Entries params entries) :
      Entries (p :: params) ((before ++ (p ++ after)) :: entries)

theorem Entries.kept_eq (h : Entries params entries) (hparams : ∀ p ∈ params, Trimmed p ∧ p ≠ []) :
    (entries.map trim).filter (!·.isEmpty) = params := by
  induction h with
  | done => rfl
  | blank hentry _ ih => simpa [trim_eq_nil hentry] using ih hparams
  | param hbefore hafter _ ih =>
      obtain ⟨⟨hp, hne⟩, hrest⟩ := List.forall_mem_cons.mp hparams
      simpa [trim_around hbefore hafter hp, hne] using ih hrest

theorem entries_kept (entries : List Text) : Entries ((entries.map trim).filter (!·.isEmpty)) entries := by
  induction entries with
  | nil => exact .done
  | cons e entries ih =>
      obtain ⟨before, after, hbefore, hafter, he⟩ := exists_trim e
      rw [List.map_cons, List.filter_cons]
      split
      · have hparam := Entries.param (p := trim e) hbefore hafter ih
        rwa [← he] at hparam
      · rename_i hempty
        have htrim : trim e = [] := by simpa using hempty
        refine .blank ?_ ih
        rw [he, htrim, List.nil_append]
        exact List.forall_mem_append.mpr ⟨hbefore, hafter⟩

theorem Entries.not_mem {x : Char} (h : Entries params entries) (hx : isBlank x = false) (hparams : ∀ p ∈ params, x ∉ p) :
    ∀ e ∈ entries, x ∉ e := by
  induction h with
  | done => exact List.forall_mem_nil _
  | blank hentry _ ih => exact List.forall_mem_cons.mpr ⟨not_mem_of_blank hx hentry, ih hparams⟩
  | param hbefore hafter _ ih =>
      obtain ⟨hp, hrest⟩ := List.forall_mem_cons.mp hparams
      exact List.forall_mem_cons.mpr ⟨not_mem_around hbefore hafter hx hp, ih hrest⟩

/-! ## Whole signatures -/

/-- The name with blanks around it, and behind an opening parenthesis a list of the parameters. It runs to a closing
parenthesis, behind which anything may stand, or to the end. -/
inductive Spelled (s : Signature) : Text → Prop
  | intro {before after behind : Text} {entries : List Text} (hbefore : ∀ c ∈ before, isBlank c = true)
      (hafter : ∀ c ∈ after, isBlank c = true) (hentries : Entries s.params entries)
      (hbehind : behind = [] ∨ behind.head? = some ')') :
      Spelled s (before ++ (s.name ++ after) ++ '(' :: (joinWith ",".toList entries ++ behind))

theorem Spelled.written (h : Spelled s text) (hs : s.Readable) (hclose : ')' ∉ s.name) : Written text s := by
  obtain ⟨hbefore, hafter, hentries, hbehind⟩ := h
  have hcomma := hentries.not_mem (x := ',') (by decide) fun p hp => (hs.params p hp).2.2.1
  have hinside := hentries.not_mem (x := ')') (by decide) fun p hp => (hs.params p hp).2.2.2
  have hwritten := Written.listed (not_mem_around hbefore hafter (by decide) hs.no_open)
    (not_mem_around hbefore hafter (by decide) hclose) (fun e he => ⟨hcomma e he, hinside e he⟩) hbehind
  rwa [trim_around hbefore hafter hs.name, hentries.kept_eq fun p hp => ⟨(hs.params p hp).1, (hs.params p hp).2.1⟩]
    at hwritten

theorem Written.spelled (h : Written text s) (hopen : '(' ∈ text) (hclose : ')' ∉ s.name) : Spelled s text := by
  cases h with
  | bare hno => exact absurd hopen hno
  | @listed name behind entries _ _ _ hbehind =>
      obtain ⟨before, after, hbefore, hafter, hname⟩ := exists_trim name
      have hspelled := Spelled.intro (s := ⟨trim name, _⟩) hbefore hafter (entries_kept entries) hbehind
      rwa [← hname] at hspelled
  | @closed name rest _ hmem =>
      -- the list is closed before it is opened, so the name has the parenthesis in it
      obtain ⟨before, after, hbefore, hafter, hname⟩ := exists_trim name
      exact absurd (hname ▸ hmem) (not_mem_around hbefore hafter (by decide) hclose)

/-- Every text is read as a signature in which no mark of the list is left, and of which the name and the parameters stand
in the text in this order. And a text with an opening parenthesis is read as a given signature exactly if it spells it. -/
theorem parse_exact (text : Text) :
    (parse text).Readable ∧ InOrder ((parse text).name :: (parse text).params) text ∧
      ∀ s : Signature, s.Readable → ')' ∉ s.name → (Spelled s text ↔ '(' ∈ text ∧ parse text = s) := by
  refine ⟨readable_parse text, (written_iff.mpr rfl).inOrder, fun s hs hclose => ⟨fun h => ⟨?_, ?_⟩, fun h => ?_⟩⟩
  · obtain ⟨_, _, _, _⟩ := h
    simp
  · exact (h.written hs hclose).parse_eq
  · exact (written_iff.mpr h.2).spelled h.1 hclose

/-- Blanks of several kinds, blank entries at both ends and in the middle, a parameter with an opening parenthesis, and text
behind the list. -/
theorem parse_exact_scattered :
    parse " f g\t( ,a b,\n,\t(c , ) -> (d, e)".toList = ⟨"f g".toList, ["a b".toList, "(c".toList]⟩ := by
  have blank {t : Text} (h : t.all isBlank = true) : ∀ c ∈ t, isBlank c = true := List.all_eq_true.mp h
  have hentries : Entries ["a b".toList, "(c".toList]
      [" ".toList, [] ++ ("a b".toList ++ []), "\n".toList, "\t".toList ++ ("(c".toList ++ " ".toList), " ".toList] :=
    .blank (blank rfl) (.param (blank rfl) (blank rfl) (.blank (blank rfl) (.param (blank rfl) (blank rfl)
      (.blank (blank rfl) .done))))
  have hreadable : Readable ⟨"f g".toList, ["a b".toList, "(c".toList]⟩ := ⟨by decide, by decide, by decide, by decide⟩
  have hspelled := @Spelled.intro ⟨"f g".toList, ["a b".toList, "(c".toList]⟩ " ".toList "\t".toList ") -> (d, e)".toList _
    (blank rfl) (blank rfl) hentries (.inr rfl)
  exact (((parse_exact _).2.2 _ hreadable (by decide)).mp hspelled).2

end Signature

end FlowLang
