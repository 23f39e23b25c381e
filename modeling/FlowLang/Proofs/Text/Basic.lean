import FlowLang.Text.Basic

/-!
# Pieces of texts

Trimming, cutting and splitting give pieces of the text: each stands somewhere in it unchanged. What they take away, and
what replacing changes, is limited to certain characters, so that a text keeps all of the others.
-/

namespace FlowLang.Text

/-! ## Trimming -/

theorem trimLeft_isSuffix (t : Text) : trimLeft t <:+ t :=
  List.dropWhile_suffix isBlank

theorem trimRight_isPrefix (t : Text) : trimRight t <+: t := by
  have h := (List.dropWhile_suffix (l := t.reverse) isBlank).reverse
  rwa [List.reverse_reverse] at h

theorem isInfix_trim (t : Text) : trim t <:+: t :=
  (trimRight_isPrefix _).isInfix.trans (trimLeft_isSuffix t).isInfix

/-- The trimmed text stands behind the blanks at the start. -/
theorem take_drop_trim (t : Text) :
    (t.drop (t.length - (trimLeft t).length)).take (trim t).length = trim t := by
  rw [← List.suffix_iff_eq_drop.mp (trimLeft_isSuffix t)]
  exact (List.prefix_iff_eq_take.mp (trimRight_isPrefix (trimLeft t))).symm

theorem trimLeft_append_of_blank {a : Text} (h : ∀ c ∈ a, isBlank c = true) (t : Text) :
    trimLeft (a ++ t) = trimLeft t := by
  unfold trimLeft
  rw [List.dropWhile_append_of_pos h]

theorem trim_append_of_blank {a : Text} (h : ∀ c ∈ a, isBlank c = true) (t : Text) : trim (a ++ t) = trim t := by
  rw [trim, trimLeft_append_of_blank h, trim]

/-- Neither the first nor the last character is blank. -/
structure Trimmed (t : Text) : Prop where
  head : t.head?.any isBlank = false
  last : t.getLast?.any isBlank = false

instance (t : Text) : Decidable (Trimmed t) :=
  decidable_of_iff (t.head?.any isBlank = false ∧ t.getLast?.any isBlank = false)
    ⟨fun h => ⟨h.1, h.2⟩, fun h => ⟨h.head, h.last⟩⟩

theorem head?_trimLeft (t : Text) : (trimLeft t).head?.any isBlank = false := by
  have h := List.head?_dropWhile_not isBlank t
  unfold trimLeft
  cases hc : (t.dropWhile isBlank).head? with
  | none => rfl
  | some c =>
      rw [hc] at h
      exact h

theorem getLast?_trimRight (t : Text) : (trimRight t).getLast?.any isBlank = false := by
  rw [trimRight, List.getLast?_reverse]
  exact head?_trimLeft t.reverse

theorem trimmed_trim (t : Text) : Trimmed (trim t) where
  head := by
    have h := head?_trimLeft t
    obtain ⟨blanks, hblanks⟩ := trimRight_isPrefix (trimLeft t)
    rw [← hblanks, List.head?_append] at h
    rw [trim]
    cases hc : (trimRight (trimLeft t)).head? with
    | none => rfl
    | some c =>
        rw [hc] at h
        exact h
  last := getLast?_trimRight _

theorem trimLeft_eq_self {t : Text} (h : t.head?.any isBlank = false) : trimLeft t = t := by
  cases t with
  | nil => rfl
  | cons c cs => exact List.dropWhile_cons_of_neg (by simpa using h)

theorem trimRight_eq_self {t : Text} (h : t.getLast?.any isBlank = false) : trimRight t = t := by
  have hreverse : t.reverse.dropWhile isBlank = t.reverse := trimLeft_eq_self (by rw [List.head?_reverse]; exact h)
  rw [trimRight, hreverse, List.reverse_reverse]

theorem Trimmed.trim_eq {t : Text} (h : Trimmed t) : trim t = t := by
  rw [trim, trimLeft_eq_self h.head, trimRight_eq_self h.last]

theorem getLast?_append_of_ne_nil (a : Text) {b : Text} (hb : b ≠ []) : (a ++ b).getLast? = b.getLast? := by
  rw [List.getLast?_append]
  cases hc : b.getLast? with
  | none => exact absurd (List.getLast?_eq_none_iff.mp hc) hb
  | some c => rfl

theorem trimmed_append {a b : Text} (ha : a ≠ []) (hb : b ≠ []) (hhead : a.head?.any isBlank = false)
    (hlast : b.getLast?.any isBlank = false) : Trimmed (a ++ b) where
  head := by
    obtain ⟨c, cs, rfl⟩ := List.exists_cons_of_ne_nil ha
    exact hhead
  last := by rwa [getLast?_append_of_ne_nil a hb]

/-- Blanks behind a text are trimmed away. -/
theorem Trimmed.trim_append_of_blank {a b : Text} (ha : Trimmed a) (hb : ∀ c ∈ b, isBlank c = true) :
    trim (a ++ b) = a := by
  cases a with
  | nil =>
      have hnil := trimLeft_append_of_blank hb []
      rw [List.append_nil] at hnil
      rw [List.nil_append, trim, hnil]
      rfl
  | cons c cs =>
      have hleft : trimLeft (c :: cs ++ b) = c :: cs ++ b := trimLeft_eq_self ha.head
      have hreverse : ∀ d ∈ b.reverse, isBlank d = true := fun d hd => hb d (List.mem_reverse.mp hd)
      rw [trim, hleft, trimRight, List.reverse_append, List.dropWhile_append_of_pos hreverse]
      exact trimRight_eq_self ha.last

theorem filter_dropWhile {p q : Char → Bool} (h : ∀ c, q c = true → p c = false) (t : Text) :
    (t.dropWhile q).filter p = t.filter p := by
  induction t with
  | nil => rfl
  | cons c cs ih =>
      rw [List.dropWhile_cons]
      split
      · rename_i hc
        rw [ih, List.filter_cons_of_neg (by rw [h c hc]; exact Bool.false_ne_true)]
      · rfl

/-- Trimming keeps everything of a class without blanks. -/
theorem filter_trim {p : Char → Bool} (h : ∀ c, isBlank c = true → p c = false) (t : Text) :
    (trim t).filter p = t.filter p := by
  rw [trim, trimRight, List.filter_reverse, filter_dropWhile h, List.filter_reverse, List.reverse_reverse, trimLeft,
    filter_dropWhile h]

theorem trim_ne_nil {c : Char} {t : Text} (h : c ∈ t) (hc : isBlank c = false) : trim t ≠ [] := by
  intro hnil
  have hfilter := filter_trim (p := fun c => !isBlank c) (by simp) t
  rw [hnil, List.filter_nil] at hfilter
  exact List.filter_eq_nil_iff.mp hfilter.symm c h (by simp [hc])

/-! ## Up to the first occurrence -/

section
variable {α : Type _} [BEq α] [LawfulBEq α]

theorem not_mem_takeWhile_ne (x : α) (l : List α) : x ∉ l.takeWhile (· != x) := by
  intro h
  simpa using List.all_eq_true.mp List.all_takeWhile x h

theorem takeWhile_ne_append {x : α} {as : List α} (h : x ∉ as) (bs : List α) :
    (as ++ x :: bs).takeWhile (· != x) = as := by
  have has : ∀ a ∈ as, (a != x) = true := fun a ha => bne_iff_ne.mpr fun hax => h (hax ▸ ha)
  rw [List.takeWhile_append_of_pos has, List.takeWhile_cons_of_neg (by simp), List.append_nil]

theorem dropWhile_ne_append {x : α} {as : List α} (h : x ∉ as) (bs : List α) :
    (as ++ x :: bs).dropWhile (· != x) = x :: bs := by
  have has : ∀ a ∈ as, (a != x) = true := fun a ha => bne_iff_ne.mpr fun hax => h (hax ▸ ha)
  rw [List.dropWhile_append_of_pos has, List.dropWhile_cons_of_neg (by simp)]

end

/-- The last occurrence of a character splits the text. -/
theorem exists_append_cons_of_mem {c : Char} {t : Text} (h : c ∈ t) : ∃ a b, t = a ++ c :: b ∧ c ∉ b := by
  obtain ⟨b, a, hreverse, hb⟩ := List.eq_append_cons_of_mem (List.mem_reverse.mpr h)
  refine ⟨a.reverse, b.reverse, ?_, fun hc => hb (List.mem_reverse.mp hc)⟩
  rw [← List.reverse_reverse t, hreverse]
  simp

theorem cut?_append {c : Char} {a : Text} (h : c ∉ a) (b : Text) : cut? [c] (a ++ c :: b) = some (a, b) := by
  induction a with
  | nil => simp [cut?, after?]
  | cons d ds ih =>
      have hd : c ≠ d := fun hcd => h (hcd ▸ List.mem_cons_self)
      have hds : c ∉ ds := fun hc => h (List.mem_cons_of_mem d hc)
      simp [cut?, after?, hd, ih hds]

theorem cut?_eq_none {c : Char} {t : Text} (h : c ∉ t) : cut? [c] t = none := by
  cases hcut : cut? [c] t with
  | none => rfl
  | some p =>
      obtain rfl := eq_of_cut? hcut
      exact absurd (by simp) h

theorem not_mem_of_cut? {c : Char} {t a b : Text} (h : cut? [c] t = some (a, b)) : c ∉ a := by
  induction t generalizing a b with
  | nil => cases h
  | cons d ds ih =>
      simp only [cut?] at h
      split at h
      · cases h
        exact List.not_mem_nil
      · rename_i hafter
        obtain ⟨⟨a', b'⟩, hcut, hab⟩ := Option.map_eq_some_iff.mp h
        cases hab
        have hd : c ≠ d := by
          intro hcd
          simp [after?, hcd] at hafter
        exact List.not_mem_cons_of_ne_of_not_mem hd (ih hcut)

/-! ## Splitting and joining -/

theorem splitOn_eq (sep : Char) (t : Text) : splitOn sep t = List.splitOn sep t := by
  induction t with
  | nil => rfl
  | cons c cs ih => simp [splitOn, List.splitOn_cons_eq_if_modifyHead, ih]

theorem joinWith_splitOn (sep : Char) (t : Text) : joinWith [sep] (splitOn sep t) = t := by
  rw [splitOn_eq]
  exact List.intercalate_splitOn sep

theorem joinWith_singleton (sep t : Text) : joinWith sep [t] = t :=
  List.intercalate_singleton

theorem joinWith_cons_cons (sep t u : Text) (ts : List Text) :
    joinWith sep (t :: u :: ts) = t ++ sep ++ joinWith sep (u :: ts) :=
  List.intercalate_cons_cons

theorem joinWith_cons_flatMap (sep t : Text) (ts : List Text) : joinWith sep (t :: ts) = t ++ ts.flatMap (sep ++ ·) := by
  induction ts generalizing t with
  | nil => rw [joinWith_singleton, List.flatMap_nil, List.append_nil]
  | cons u ts ih => rw [joinWith_cons_cons, ih, List.flatMap_cons, List.append_assoc, List.append_assoc]

theorem joinWith_concat (sep : Text) (ts : List Text) (last : Text) :
    joinWith sep (ts ++ [last]) = ts.flatMap (· ++ sep) ++ last := by
  induction ts with
  | nil => exact joinWith_singleton sep last
  | cons t ts ih =>
      obtain ⟨u, us, hrest⟩ := List.exists_cons_of_ne_nil (List.concat_ne_nil last ts)
      rw [List.cons_append, hrest, joinWith_cons_cons, ← hrest, ih, List.flatMap_cons, List.append_assoc (t ++ sep)]

theorem isInfix_joinWith {sep l : Text} {ls : List Text} (h : l ∈ ls) : l <:+: joinWith sep ls := by
  induction ls with
  | nil => cases h
  | cons a ls ih =>
      cases ls with
      | nil =>
          obtain rfl := List.mem_singleton.mp h
          exact (joinWith_singleton sep l).symm ▸ List.infix_rfl
      | cons b ls =>
          rw [joinWith_cons_cons]
          rcases List.mem_cons.mp h with rfl | h
          · exact List.infix_append_of_infix_left List.infix_append_left
          · exact List.infix_append_of_infix_right (ih h)

theorem isInfix_of_mem_splitOn {sep : Char} {l t : Text} (h : l ∈ splitOn sep t) : l <:+: t := by
  have hl : l <:+: joinWith [sep] (splitOn sep t) := isInfix_joinWith h
  rwa [joinWith_splitOn] at hl

theorem splitOn_joinWith {sep : Char} {ls : List Text} (h : ∀ l ∈ ls, sep ∉ l) (hne : ls ≠ []) :
    splitOn sep (joinWith [sep] ls) = ls := by
  rw [splitOn_eq]
  exact List.splitOn_intercalate sep h hne

/-- A separator at the end is followed by one more piece, the empty one. -/
theorem joinWith_append_nil (sep : Char) {ls : List Text} (hne : ls ≠ []) :
    joinWith [sep] (ls ++ [[]]) = joinWith [sep] ls ++ [sep] := by
  induction ls with
  | nil => exact absurd rfl hne
  | cons a ls ih =>
      cases ls with
      | nil => simp [joinWith_cons_cons, joinWith_singleton]
      | cons b ls =>
          have hrest := ih (List.cons_ne_nil b ls)
          rw [List.cons_append] at hrest
          rw [List.cons_append, List.cons_append, joinWith_cons_cons, hrest, joinWith_cons_cons, List.append_assoc (a ++ [sep])]

/-- A separator with a gap behind it separates like the separator alone, with the gap before each further piece. -/
theorem joinWith_cons_gap (sep : Char) (gap p : Text) (ps : List Text) :
    joinWith (sep :: gap) (p :: ps) = joinWith [sep] (p :: ps.map (gap ++ ·)) := by
  induction ps generalizing p with
  | nil => rfl
  | cons q ps ih =>
      have hgap : ∀ rest, joinWith [sep] ((gap ++ q) :: rest) = gap ++ joinWith [sep] (q :: rest) := by
        intro rest
        cases rest <;> simp [joinWith_cons_cons, joinWith_singleton]
      rw [List.map_cons, joinWith_cons_cons, joinWith_cons_cons, ih, hgap]
      simp

/-- Texts that are not empty and have no blanks around them join to one without blanks around it. -/
theorem trimmed_joinWith {sep : Text} {ts : List Text} (h : ∀ t ∈ ts, t ≠ [] ∧ Trimmed t) : Trimmed (joinWith sep ts) := by
  induction ts with
  | nil => exact ⟨rfl, rfl⟩
  | cons t ts ih =>
      obtain ⟨⟨hne, ht⟩, hrest⟩ := List.forall_mem_cons.mp h
      cases ts with
      | nil =>
          rwa [joinWith_singleton]
      | cons u ts =>
          have hjoin : joinWith sep (u :: ts) ≠ [] := fun hnil =>
            (hrest u List.mem_cons_self).1 (List.infix_nil.mp (hnil ▸ isInfix_joinWith List.mem_cons_self))
          have hlast := (ih hrest).last
          rw [joinWith_cons_cons, List.append_assoc]
          refine trimmed_append hne (List.append_ne_nil_of_right_ne_nil sep hjoin) ht.head ?_
          rwa [getLast?_append_of_ne_nil sep hjoin]

theorem not_mem_of_mem_splitOn {sep : Char} {l t : Text} (h : l ∈ splitOn sep t) : sep ∉ l := by
  induction t generalizing l with
  | nil =>
      rw [List.mem_singleton.mp h]
      exact List.not_mem_nil
  | cons c cs ih =>
      simp only [splitOn] at h
      split at h
      · rcases List.mem_cons.mp h with rfl | h
        · exact List.not_mem_nil
        · exact ih h
      · rename_i hc
        obtain ⟨piece, pieces, hpieces⟩ := List.exists_cons_of_ne_nil (splitOn_ne_nil sep cs)
        rw [hpieces] at h ih
        rcases List.mem_cons.mp h with rfl | h
        · exact List.not_mem_cons_of_ne_of_not_mem (Ne.symm hc) (ih List.mem_cons_self)
        · exact ih (List.mem_cons_of_mem _ h)

/-- Around a separator a text falls apart into the pieces before it and the pieces behind it. -/
theorem splitOn_append_cons (sep : Char) (a b : Text) : splitOn sep (a ++ sep :: b) = splitOn sep a ++ splitOn sep b := by
  induction a with
  | nil => simp [splitOn]
  | cons c cs ih =>
      obtain ⟨piece, pieces, hpieces⟩ := List.exists_cons_of_ne_nil (splitOn_ne_nil sep cs)
      by_cases hc : c = sep
      · simp [splitOn, hc, ih]
      · simp [splitOn, hc, ih, hpieces]

theorem splitOn_joinWith_flatMap (sep : Char) {ls : List Text} (hne : ls ≠ []) :
    splitOn sep (joinWith [sep] ls) = ls.flatMap (splitOn sep) := by
  induction ls with
  | nil => exact absurd rfl hne
  | cons l ls ih =>
      cases ls with
      | nil => simp [joinWith]
      | cons k ls =>
          have hrest := ih (List.cons_ne_nil k ls)
          rw [joinWith_cons_cons, List.append_assoc, List.singleton_append,
            splitOn_append_cons, hrest]
          exact List.flatMap_cons.symm

theorem length_splitOn (sep : Char) (t : Text) : (splitOn sep t).length = t.count sep + 1 := by
  induction t with
  | nil => rfl
  | cons c cs ih =>
      by_cases hc : c = sep
      · simp [splitOn, hc, ih]
      · simp [splitOn, hc, ih]

/-- Joining with a separator of which nothing is kept keeps what the pieces keep. -/
theorem filter_joinWith {p : Char → Bool} {sep : Text} (h : sep.filter p = []) (ls : List Text) :
    (joinWith sep ls).filter p = ls.flatten.filter p := by
  induction ls with
  | nil => rfl
  | cons a ls ih =>
      cases ls with
      | nil => simp [joinWith]
      | cons b ls =>
          rw [joinWith_cons_cons, List.filter_append, List.filter_append, h, List.append_nil, ih]
          simp

theorem forall_mem_joinWith {P : Char → Prop} {sep : Text} {ls : List Text} (hsep : ∀ c ∈ sep, P c)
    (h : ∀ l ∈ ls, ∀ c ∈ l, P c) : ∀ c ∈ joinWith sep ls, P c := by
  induction ls with
  | nil => intro c hc; cases hc
  | cons a ls ih =>
      obtain ⟨ha, hls⟩ := List.forall_mem_cons.mp h
      cases ls with
      | nil =>
          rw [joinWith_singleton]
          exact ha
      | cons b ls =>
          rw [joinWith_cons_cons, List.forall_mem_append, List.forall_mem_append]
          exact ⟨⟨ha, hsep⟩, ih hls⟩

theorem not_mem_joinWith {x : Char} {sep : Text} {ls : List Text} (hsep : x ∉ sep) (h : ∀ l ∈ ls, x ∉ l) :
    x ∉ joinWith sep ls := by
  intro hx
  refine forall_mem_joinWith (P := (· ≠ x)) ?_ ?_ x hx rfl
  · exact fun c hc hcx => hsep (hcx ▸ hc)
  · exact fun l hl c hc hcx => h l hl (hcx ▸ hc)

/-! ## Replacing -/

theorem filter_replaceFrom {p : Char → Bool} {old new : Text} (hold : old.filter p = []) (hnew : new.filter p = [])
    (hne : old ≠ []) (skip : Nat) (t : Text) : (replaceFrom old new skip t).filter p = (t.drop skip).filter p := by
  induction t generalizing skip with
  | nil => cases skip <;> rfl
  | cons c cs ih =>
      cases skip with
      | succ skip => exact ih skip
      | zero =>
          unfold replaceFrom
          split
          · rename_i rest hrest
            obtain ⟨d, ds, rfl⟩ := List.exists_cons_of_ne_nil hne
            have heq := after?_eq_some_iff.mp hrest
            have hcs : cs = ds ++ rest := (List.cons.inj heq).2
            rw [List.drop_zero, heq, List.filter_append, List.filter_append, hold, hnew, ih, hcs]
            simp
          · rw [List.drop_zero, List.filter_cons, List.filter_cons, ih, List.drop_zero]

/-- Replacing one word by another keeps everything of a class that meets neither. -/
theorem filter_replaceAll {p : Char → Bool} {old new : Text} (hold : old.filter p = []) (hnew : new.filter p = [])
    (hne : old ≠ []) (t : Text) : (replaceAll old new t).filter p = t.filter p :=
  filter_replaceFrom hold hnew hne 0 t

theorem forall_mem_replaceFrom {P : Char → Prop} {old new : Text} (hnew : ∀ c ∈ new, P c) (skip : Nat) {t : Text}
    (h : ∀ c ∈ t, P c) : ∀ c ∈ replaceFrom old new skip t, P c := by
  induction t generalizing skip with
  | nil => cases skip <;> exact h
  | cons c cs ih =>
      obtain ⟨hc, hcs⟩ := List.forall_mem_cons.mp h
      cases skip with
      | succ skip => exact ih skip hcs
      | zero =>
          unfold replaceFrom
          split
          · exact List.forall_mem_append.mpr ⟨hnew, ih _ hcs⟩
          · exact List.forall_mem_cons.mpr ⟨hc, ih 0 hcs⟩

/-- Every character behind a replacement was there before or belongs to the new word. -/
theorem forall_mem_replaceAll {P : Char → Prop} {old new t : Text} (hnew : ∀ c ∈ new, P c) (h : ∀ c ∈ t, P c) :
    ∀ c ∈ replaceAll old new t, P c :=
  forall_mem_replaceFrom hnew 0 h

end FlowLang.Text
