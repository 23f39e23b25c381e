import FlowLang.Proofs.Statement.Lines
import FlowLang.Proofs.Text.Basic

/-!
# The texts of statements

What a statement keeps of its line are pieces of the line.
-/

namespace FlowLang

open Text

namespace Signature

theorem isInfix_name_parse (text : Text) : (parse text).name <:+: text := by
  simp only [parse]
  split
  · exact isInfix_trim text
  · exact (isInfix_trim _).trans ((List.takeWhile_prefix _).isInfix.trans (isInfix_trim text))

theorem isInfix_of_mem_parseParams {p t : Text} (h : p ∈ parseParams t) : p <:+: t := by
  obtain ⟨q, hq, rfl⟩ := List.mem_map.mp (List.mem_filter.mp h).1
  exact (isInfix_trim q).trans (isInfix_of_mem_splitOn hq)

theorem isInfix_of_mem_params {p text : Text} (h : p ∈ (parse text).params) : p <:+: text := by
  simp only [parse] at h
  split at h
  · cases h
  · rename_i c rest hdrop
    have hrest : c :: rest <:+ trim text := hdrop ▸ List.dropWhile_suffix _
    simp only at h
    split at h
    · cases h
    · exact (isInfix_of_mem_parseParams h).trans ((List.takeWhile_prefix _).isInfix.trans
        ((List.suffix_cons c rest).isInfix.trans (hrest.isInfix.trans (isInfix_trim text))))

end Signature

namespace Statement

/-- The texts that a statement keeps. -/
def texts : Statement → List Text
  | .comment t | .returnValue t | .say t | .dropped t | .ifThen t | .loopTimes t | .whileDo t | .grow t
  | .expression t => [t]
  | .bind name value => [name, value]
  | .define signature => signature.name :: signature.params
  | .blockEnd | .elseBranch | .breakLoop | .continueLoop => []

variable {line t : Text} {s : Statement}

/-! ## Forms -/

theorem forall_mem_singleton_isInfix {a : Text} (h : a <:+: line) : ∀ t ∈ [a], t <:+: line := by
  intro t ht
  rw [List.mem_singleton.mp ht]
  exact h

theorem isInfix_of_wholeLine? {word : String} {r : Statement} (hs : wholeLine? word r line = some s)
    (hr : r.texts = []) (h : t ∈ s.texts) : t <:+: line := by
  unfold wholeLine? at hs
  split at hs
  · rw [← Option.some.inj hs, hr] at h
    cases h
  · cases hs

theorem isInfix_of_leading? {lead : String} {make : Text → Statement}
    (hs : leading? lead make line = some s)
    (hmake : ∀ rest, rest <:+: line → ∀ t ∈ (make rest).texts, t <:+: line) (h : t ∈ s.texts) : t <:+: line := by
  obtain ⟨rest, hrest, rfl⟩ := Option.map_eq_some_iff.mp hs
  refine hmake rest ?_ t h
  rw [after?_eq_some_iff.mp hrest]
  exact List.infix_append_right

theorem isInfix_of_enclosed? {lead tail : String} {make : Text → Statement}
    (hs : enclosed? lead tail make line = some s)
    (hmake : ∀ middle, middle <:+: line → ∀ t ∈ (make middle).texts, t <:+: line) (h : t ∈ s.texts) : t <:+: line := by
  obtain ⟨middle, hmiddle, rfl⟩ := Option.map_eq_some_iff.mp hs
  refine hmake (trim middle) ((isInfix_trim middle).trans ?_) t h
  rw [between?_eq_some_iff.mp hmiddle]
  exact List.infix_append _ _ _

theorem isInfix_of_mem_ofBinding {binding : Text} (hb : binding <:+: line) (h : t ∈ (ofBinding line binding).texts) :
    t <:+: line := by
  unfold ofBinding at h
  split at h
  · rename_i name value hcut
    have hbinding := eq_of_cut? hcut
    rcases List.mem_cons.mp h with rfl | h
    · refine (isInfix_trim name).trans (List.IsInfix.trans ?_ hb)
      rw [hbinding, List.append_assoc]
      exact List.infix_append_left
    · rw [List.mem_singleton.mp h]
      refine (isInfix_trim value).trans (List.IsInfix.trans ?_ hb)
      rw [hbinding]
      exact List.infix_append_right
  · obtain rfl := List.mem_singleton.mp h
    exact List.infix_rfl

theorem isInfix_of_mem_forms {form : Text → Option Statement} (hform : form ∈ forms) (hs : form line = some s)
    (h : t ∈ s.texts) : t <:+: line := by
  simp only [forms, List.mem_cons, List.not_mem_nil, or_false] at hform
  have whole : ∀ a, a <:+: line → ∀ t ∈ [a], t <:+: line := fun _ => forall_mem_singleton_isInfix
  have trimmed : ∀ a, a <:+: line → ∀ t ∈ [trim a], t <:+: line :=
    fun a ha => forall_mem_singleton_isInfix ((isInfix_trim a).trans ha)
  rcases hform with rfl | rfl | rfl | rfl | rfl | rfl | rfl | rfl | rfl | rfl | rfl | rfl | rfl
  · exact isInfix_of_leading? hs trimmed h
  · exact isInfix_of_wholeLine? hs rfl h
  · refine isInfix_of_leading? hs (fun rest hrest t ht => ?_) h
    rcases List.mem_cons.mp ht with rfl | ht
    · exact (Signature.isInfix_name_parse rest).trans hrest
    · exact (Signature.isInfix_of_mem_params ht).trans hrest
  · exact isInfix_of_leading? hs whole h
  · exact isInfix_of_leading? hs whole h
  · exact isInfix_of_leading? hs (fun _ hb _ => isInfix_of_mem_ofBinding hb) h
  · exact isInfix_of_enclosed? hs whole h
  · exact isInfix_of_wholeLine? hs rfl h
  · exact isInfix_of_enclosed? hs whole h
  · exact isInfix_of_enclosed? hs whole h
  · exact isInfix_of_leading? hs trimmed h
  · exact isInfix_of_wholeLine? hs rfl h
  · exact isInfix_of_wholeLine? hs rfl h

/-! ## Lines -/

theorem ofLine_cases (line : Text) :
    (∃ form ∈ forms, form line = some (ofLine line)) ∨ ofLine line = .expression line := by
  unfold ofLine
  cases h : forms.findSome? (· line) with
  | none => exact Or.inr rfl
  | some s => exact Or.inl (List.exists_of_findSome?_eq_some h)

theorem isInfix_of_mem_texts (h : t ∈ (ofLine line).texts) : t <:+: line := by
  rcases ofLine_cases line with ⟨form, hform, hs⟩ | hs
  · exact isInfix_of_mem_forms hform hs h
  · rw [hs] at h
    obtain rfl := List.mem_singleton.mp h
    exact List.infix_rfl

end Statement

/-- Every text of a program's statements stands in the program. -/
theorem isInfix_of_mem_statements {source t : Text} {n : Numbered} (hn : n ∈ statements source)
    (h : t ∈ n.statement.texts) : t <:+: source := by
  obtain ⟨i, raw, hi, _, rfl⟩ := exists_line_of_mem_statementsFrom hn
  exact (Statement.isInfix_of_mem_texts h).trans
    ((isInfix_trim raw).trans (isInfix_of_mem_splitOn (List.mem_of_getElem? hi)))

/-- No text of a program's statements runs over the end of a line. -/
theorem newline_not_mem_texts {source t : Text} {n : Numbered} (hn : n ∈ statements source)
    (h : t ∈ n.statement.texts) : '\n' ∉ t := by
  obtain ⟨i, raw, hi, _, rfl⟩ := exists_line_of_mem_statementsFrom hn
  have hraw : '\n' ∉ raw := not_mem_of_mem_splitOn (List.mem_of_getElem? hi)
  exact fun hc => hraw ((isInfix_trim raw).subset ((Statement.isInfix_of_mem_texts h).subset hc))

end FlowLang
