import FlowLang.Proofs.Text.Blank
import Mathlib.Data.List.Chain

/-!
# Lines that are continued

For a C++ compiler a backslash at the end of a line joins the next line to it, and what stands behind two slashes is a remark.
So a remark that is continued hides the next line (`visible`).
-/

namespace FlowLang.Text

/-- The text with continued lines joined. -/
def splice (t : Text) : Text :=
  replaceAll "\\\n".toList [] t

/-- The next line is joined to the line. -/
def isContinued (line : Text) : Bool :=
  line.getLast? == some '\\'

/-- The first characters of the line that are no spaces are two slashes. -/
def isRemark (line : Text) : Bool :=
  "//".toList.isPrefixOf (line.dropWhile (· == ' '))

/-- What is left when continued lines are joined and lines of remarks are left out. -/
def effective (t : Text) : Text :=
  joinWith "\n".toList ((lines (splice t)).filter (!isRemark ·))

variable {a b line : Text} {ls : List Text}

/-! ## Joining -/

theorem splice_append (ha : '\n' ∉ a) (hb : b.head? ≠ some '\n') : splice (a ++ b) = a ++ splice b := by
  induction a with
  | nil => rfl
  | cons c a ih =>
      obtain ⟨-, ha'⟩ := List.ne_and_not_mem_of_not_mem_cons ha
      have hnext : (a ++ b).head? ≠ some '\n' := by
        cases a with
        | nil => exact hb
        | cons d a => exact fun h => ha' (by simp_all)
      have hafter : after? "\\\n".toList (c :: (a ++ b)) = none := by
        rw [Option.eq_none_iff_forall_ne_some]
        intro rest hrest
        obtain ⟨-, hab⟩ := List.cons.inj (after?_eq_some_iff.mp hrest)
        exact hnext (by rw [hab]; rfl)
      unfold splice at ih ⊢
      rw [List.cons_append, replaceAll_cons _ hafter, ih ha', List.cons_append]

theorem splice_of_not_mem (h : '\n' ∉ a) : splice a = a := by
  have hsplice := splice_append h (b := []) (by simp)
  rwa [List.append_nil, show splice [] = [] from rfl, List.append_nil] at hsplice

theorem splice_continued (h : '\n' ∉ a) (b : Text) : splice (a ++ '\\' :: '\n' :: b) = a ++ splice b := by
  rw [splice_append h (by simp)]
  exact congrArg (a ++ ·) (replaceAll_append [] (by decide) b)

theorem splice_newline (b : Text) : splice ('\n' :: b) = '\n' :: splice b :=
  replaceAll_cons [] rfl

theorem splice_ended (h : '\n' ∉ a) (hended : isContinued a = false) (b : Text) :
    splice (a ++ '\n' :: b) = a ++ '\n' :: splice b := by
  rcases List.eq_nil_or_concat' a with rfl | ⟨start, c, rfl⟩
  · exact splice_newline b
  · have hc : c ≠ '\\' := by simpa [isContinued] using hended
    have hstart : '\n' ∉ start := fun hmem => h (List.mem_append_left _ hmem)
    have hlast : c ≠ '\n' := fun heq => h (by simp [heq])
    have hafter : after? "\\\n".toList (c :: '\n' :: b) = none := if_neg (Ne.symm hc)
    rw [List.append_assoc, List.singleton_append, splice_append hstart (by simpa using hlast), splice,
      replaceAll_cons _ hafter, ← splice, splice_newline]
    simp

/-! ## What is visible -/

/-- The lines that are no remarks and are not joined to the line before. The first one is if `joined`. -/
def visible : Bool → List Text → List Text
  | _, [] => []
  | joined, line :: rest => (if joined || isRemark line then [] else [line]) ++ visible (isContinued line) rest

theorem visible_cons (joined : Bool) (line : Text) (rest : List Text) :
    visible joined (line :: rest) = (if joined || isRemark line then [] else [line]) ++ visible (isContinued line) rest := rfl

theorem exists_visible_append (joined : Bool) (as bs : List Text) :
    ∃ behind, visible joined (as ++ bs) = visible joined as ++ visible behind bs := by
  induction as generalizing joined with
  | nil => exact ⟨joined, rfl⟩
  | cons line as ih =>
      obtain ⟨behind, h⟩ := ih (isContinued line)
      exact ⟨behind, by rw [List.cons_append, visible_cons, visible_cons, h, List.append_assoc]⟩

theorem mem_of_mem_visible {joined : Bool} (h : line ∈ visible joined ls) : line ∈ ls := by
  induction ls generalizing joined with
  | nil => cases h
  | cons first ls ih =>
      rw [visible_cons] at h
      rcases List.mem_append.mp h with h | h
      · split at h
        · cases h
        · rw [List.mem_singleton.mp h]
          exact List.mem_cons_self
      · exact List.mem_cons_of_mem _ (ih h)

theorem isRemark_append (h : isRemark (a ++ ['\\']) = true) (b : Text) : isRemark (a ++ b) = true := by
  unfold isRemark at h ⊢
  rw [List.isPrefixOf_iff_prefix] at h ⊢
  induction a with
  | nil => exact absurd h (by decide)
  | cons c a ih =>
      by_cases hc : c = ' '
      · subst hc
        exact ih h
      · have hne : ¬(c == ' ') = true := by simpa using hc
        rw [List.cons_append, List.dropWhile_cons, if_neg hne] at h ⊢
        obtain ⟨hslash, hrest⟩ := List.cons_prefix_cons.mp h
        refine List.cons_prefix_cons.mpr ⟨hslash, ?_⟩
        cases a with
        | nil => exact absurd hrest (by decide)
        | cons d a =>
            obtain ⟨hslash', -⟩ := List.cons_prefix_cons.mp hrest
            exact List.cons_prefix_cons.mpr ⟨hslash', List.nil_prefix⟩

theorem lines_append (h : '\n' ∉ a) (t : Text) : ∃ first rest, lines t = first :: rest ∧ lines (a ++ t) = (a ++ first) :: rest := by
  obtain ⟨first, rest, ht⟩ := List.exists_cons_of_ne_nil (splitOn_ne_nil '\n' t)
  refine ⟨first, rest, ht, ?_⟩
  induction a with
  | nil => exact ht
  | cons c a ih =>
      obtain ⟨hc, ha⟩ := List.ne_and_not_mem_of_not_mem_cons h
      have hlines := ih ha
      unfold lines at hlines ⊢
      rw [List.cons_append, splitOn, if_neg (Ne.symm hc), hlines]
      rfl

theorem lines_splice_ended (h : '\n' ∉ a) (hended : isContinued a = false) (b : Text) :
    lines (splice (a ++ '\n' :: b)) = a :: lines (splice b) := by
  rw [splice_ended h hended, lines, splitOn_append_cons, splitOn_of_not_mem h]
  rfl

theorem lines_splice_continued (h : '\n' ∉ a) (b : Text) :
    ∃ first rest, lines (splice b) = first :: rest ∧ lines (splice (a ++ '\\' :: '\n' :: b)) = (a ++ first) :: rest := by
  rw [splice_continued h]
  exact lines_append h (splice b)

/-- Where only remarks are continued, the visible lines are what joining leaves. -/
theorem filter_lines_splice (hnewline : ∀ line ∈ ls, '\n' ∉ line)
    (hremark : ∀ line ∈ ls, isContinued line = true → isRemark line = true) (hne : ls ≠ []) :
    (lines (splice (joinWith "\n".toList ls))).filter (!isRemark ·) = visible false ls ∧
      (lines (splice (joinWith "\n".toList ls))).tail.filter (!isRemark ·) = visible true ls := by
  induction ls with
  | nil => exact absurd rfl hne
  | cons line ls ih =>
      obtain ⟨hline, hls⟩ := List.forall_mem_cons.mp hnewline
      obtain ⟨hcontinued, hlsRemark⟩ := List.forall_mem_cons.mp hremark
      cases ls with
      | nil =>
          rw [joinWith_singleton, splice_of_not_mem hline, lines, splitOn_of_not_mem hline]
          cases hr : isRemark line <;> simp [visible, hr]
      | cons next rest =>
          obtain ⟨ihAll, ihTail⟩ := ih hls hlsRemark (by simp)
          have hjoin : joinWith "\n".toList (line :: next :: rest) = line ++ '\n' :: joinWith "\n".toList (next :: rest) := by
            simp [joinWith_cons_cons]
          generalize joinWith "\n".toList (next :: rest) = below at ihAll ihTail hjoin
          rw [hjoin, visible_cons false line, visible_cons true line]
          cases hopen : isContinued line with
          | false =>
              rw [lines_splice_ended hline hopen, List.tail_cons, List.filter_cons, ihAll]
              cases isRemark line <;> exact ⟨rfl, rfl⟩
          | true =>
              have hr : isRemark line = true := hcontinued hopen
              obtain ⟨start, rfl⟩ := List.getLast?_eq_some_iff.mp (eq_of_beq hopen)
              have hstart : '\n' ∉ start := fun hmem => hline (List.mem_append_left _ hmem)
              obtain ⟨first, more, hfirst, hmore⟩ := lines_splice_continued hstart below
              rw [hfirst, List.tail_cons] at ihTail
              -- the start of the remark makes the joined line a remark
              rw [List.append_assoc, List.singleton_append, hmore, List.tail_cons, List.filter_cons, isRemark_append hr,
                ihTail, hr]
              exact ⟨rfl, rfl⟩

theorem length_visible_le (joined : Bool) (ls : List Text) :
    (visible joined ls).length ≤ (ls.filter (!isRemark ·)).length := by
  induction ls generalizing joined with
  | nil => exact Nat.le_refl 0
  | cons line ls ih =>
      have hrest := ih (isContinued line)
      rw [visible_cons, List.length_append, List.filter_cons]
      cases joined <;> cases hr : isRemark line <;> simp <;> omega

/-- A line that is joined to the line before has to be a remark itself, if it is not to be missed. -/
def Covered (before line : Text) : Prop :=
  isContinued before = true → isRemark line = true

/-- Nothing but remarks is hidden exactly if every joined line is a remark. -/
theorem visible_eq_filter_iff (joined : Bool) (ls : List Text) :
    visible joined ls = ls.filter (!isRemark ·) ↔
      (∀ line ∈ ls.head?, joined = true → isRemark line = true) ∧ ls.IsChain Covered := by
  induction ls generalizing joined with
  | nil => simp [visible]
  | cons line ls ih =>
      rw [visible_cons, List.filter_cons, List.isChain_cons]
      cases hr : isRemark line with
      | true => simp [hr, ih, Covered]
      | false =>
          cases joined with
          | false => simp [ih, Covered]
          | true =>
              have hle := length_visible_le (isContinued line) ls
              have hlost : visible (isContinued line) ls ≠ line :: ls.filter (!isRemark ·) := by
                intro heq
                rw [heq, List.length_cons] at hle
                omega
              simpa [hr] using hlost

end FlowLang.Text
