import FlowLang.Proofs.Text.Occurrence

/-!
# Replacing one word by another

Replacing goes through a text from left to right: it steps over a character where the old word does not start, and over the
old word where it does. So whatever one exchange of the old word for the new one leaves as it is, wherever it is made, replacing
leaves as it is. A character that the old word does not have keeps what stands before it apart from what stands behind.
-/

namespace FlowLang.Text

variable {old new a b t : Text} {c : Char} {p : Char → Bool}

/-- Replacing steps over one character, or over the old word. -/
@[elab_as_elim]
theorem replaceAll_induction {motive : Text → Prop} (hold : old ≠ []) (nil : motive [])
    (skip : ∀ c cs, ¬old <+: c :: cs → motive cs → motive (c :: cs)) (found : ∀ rest, motive rest → motive (old ++ rest))
    (t : Text) : motive t := by
  induction h : t.length using Nat.strongRecOn generalizing t with
  | ind n ih =>
      by_cases hstarts : old <+: t
      · obtain ⟨rest, rfl⟩ := hstarts
        have hlength := List.length_pos_iff.mpr hold
        rw [List.length_append] at h
        exact found rest (ih rest.length (by omega) rest rfl)
      · cases t with
        | nil => exact nil
        | cons c cs => exact skip c cs hstarts (ih cs.length (by simp [← h]) cs rfl)

theorem replaceAll_cons_of_not_isPrefix (new : Text) {cs : Text} (h : ¬old <+: c :: cs) :
    replaceAll old new (c :: cs) = c :: replaceAll old new cs :=
  replaceAll_cons new (after?_eq_none_iff.mpr h)

theorem replaceAll_eq_self (new : Text) (h : ¬old <:+: t) : replaceAll old new t = t := by
  induction t with
  | nil => rfl
  | cons c cs ih =>
      obtain ⟨hstarts, hrest⟩ := not_or.mp (mt List.infix_cons_iff.mpr h)
      rw [replaceAll_cons_of_not_isPrefix new hstarts, ih hrest]

/-- What does not depend on which of the two words stands at a place does not change by replacing. -/
theorem congr_replaceAll {γ : Type _} (F : Text → γ) (hold : old ≠ []) (h : ∀ a b, F (a ++ (new ++ b)) = F (a ++ (old ++ b)))
    (t : Text) : F (replaceAll old new t) = F t := by
  -- the text behind `a` is still to be gone through
  have hbehind : ∀ a, F (a ++ replaceAll old new t) = F (a ++ t) := by
    induction t using replaceAll_induction hold with
    | nil => exact fun a => rfl
    | skip c cs hstarts ih =>
        intro a
        rw [replaceAll_cons_of_not_isPrefix new hstarts, List.append_cons, ih, ← List.append_cons]
    | found rest ih =>
        intro a
        rw [replaceAll_append new hold, ← List.append_assoc, ih, List.append_assoc, h]
  exact hbehind []

/-! ## Characters that the old word does not have -/

theorem isPrefix_append_cons_iff (hc : c ∉ old) : old <+: a ++ c :: b ↔ old <+: a := by
  refine ⟨?_, fun h => h.trans (List.prefix_append a _)⟩
  rintro ⟨rest, hrest⟩
  rcases List.append_eq_append_iff.mp hrest with ⟨more, rfl, _⟩ | ⟨more, rfl, hmore⟩
  · exact List.prefix_append _ _
  · cases more with
    | nil => exact (List.append_nil a).symm ▸ List.prefix_rfl
    | cons d more =>
        obtain ⟨rfl, _⟩ := List.cons.inj hmore
        exact absurd (by simp) hc

theorem replaceAll_append_cons (hold : old ≠ []) (hc : c ∉ old) (a b : Text) :
    replaceAll old new (a ++ c :: b) = replaceAll old new a ++ c :: replaceAll old new b := by
  induction a using replaceAll_induction hold with
  | nil =>
      have hstarts : ¬old <+: [] ++ c :: b := by
        rw [isPrefix_append_cons_iff hc, List.prefix_nil]
        exact hold
      rw [List.nil_append, replaceAll_cons_of_not_isPrefix new hstarts]
      rfl
  | skip d a hstarts ih =>
      have hlonger : ¬old <+: d :: (a ++ c :: b) := mt (isPrefix_append_cons_iff (a := d :: a) hc).mp hstarts
      rw [List.cons_append, replaceAll_cons_of_not_isPrefix new hlonger, ih, replaceAll_cons_of_not_isPrefix new hstarts,
        List.cons_append]
  | found rest ih => rw [List.append_assoc, replaceAll_append new hold, ih, replaceAll_append new hold, List.append_assoc]

theorem replaceAll_joinWith (hold : old ≠ []) (hc : c ∉ old) (pieces : List Text) :
    replaceAll old new (joinWith [c] pieces) = joinWith [c] (pieces.map (replaceAll old new)) := by
  induction pieces with
  | nil => rfl
  | cons piece pieces ih =>
      cases pieces with
      | nil => simp [joinWith]
      | cons next pieces =>
          rw [joinWith_cons_cons, List.append_assoc, List.singleton_append,
            replaceAll_append_cons hold hc, ih]
          simp [joinWith_cons_cons]

/-- The pieces between the occurrences of a character that neither word has are gone through one by one. -/
theorem splitOn_replaceAll (hold : old ≠ []) (hc : c ∉ old) (hnew : c ∉ new) (t : Text) :
    splitOn c (replaceAll old new t) = (splitOn c t).map (replaceAll old new) := by
  have hpieces : ∀ piece ∈ (splitOn c t).map (replaceAll old new), c ∉ piece := by
    intro piece hpiece
    obtain ⟨before, hbefore, rfl⟩ := List.mem_map.mp hpiece
    have hapart : ∀ d ∈ before, d ≠ c := fun d hd hdc => not_mem_of_mem_splitOn hbefore (hdc ▸ hd)
    have hword : ∀ d ∈ new, d ≠ c := fun d hd hdc => hnew (hdc ▸ hd)
    exact fun hmem => forall_mem_replaceAll hword hapart c hmem rfl
  rw [← splitOn_joinWith hpieces (by simp [splitOn_ne_nil]), ← replaceAll_joinWith hold hc, joinWith_splitOn]

/-- The old word starts nowhere in a text without its first character. -/
theorem replaceAll_append_of_not_mem {d : Char} (ds new : Text) (h : d ∉ a) (b : Text) :
    replaceAll (d :: ds) new (a ++ b) = a ++ replaceAll (d :: ds) new b := by
  induction a with
  | nil => rfl
  | cons c a ih =>
      obtain ⟨hd, ha⟩ := not_or.mp (mt List.mem_cons.mpr h)
      have hstarts : ¬d :: ds <+: c :: (a ++ b) := fun hstarts => hd (List.cons_prefix_cons.mp hstarts).1
      rw [List.cons_append, replaceAll_cons_of_not_isPrefix new hstarts, ih ha, List.cons_append]

/-! ## Characters that replacing takes away -/

theorem countP_replaceAll_le (hold : old ≠ []) (h : new.countP p ≤ old.countP p) (t : Text) :
    (replaceAll old new t).countP p ≤ t.countP p := by
  induction t using replaceAll_induction hold with
  | nil => exact Nat.le_refl _
  | skip c cs hstarts ih =>
      rw [replaceAll_cons_of_not_isPrefix new hstarts, List.countP_cons, List.countP_cons]
      omega
  | found rest ih =>
      rw [replaceAll_append new hold, List.countP_append, List.countP_append]
      omega

theorem countP_replaceAll_lt (h : new.countP p < old.countP p) (hoccurs : old <:+: t) :
    (replaceAll old new t).countP p < t.countP p := by
  have hold : old ≠ [] := by
    rintro rfl
    exact absurd h (Nat.not_lt_zero _)
  induction t using replaceAll_induction hold with
  | nil => exact absurd (List.infix_nil.mp hoccurs) hold
  | skip c cs hstarts ih =>
      have hrest := ih ((List.infix_cons_iff.mp hoccurs).resolve_left hstarts)
      rw [replaceAll_cons_of_not_isPrefix new hstarts, List.countP_cons, List.countP_cons]
      omega
  | found rest ih =>
      have hrest := countP_replaceAll_le (p := p) hold (Nat.le_of_lt h) rest
      rw [replaceAll_append new hold, List.countP_append, List.countP_append]
      omega

end FlowLang.Text
