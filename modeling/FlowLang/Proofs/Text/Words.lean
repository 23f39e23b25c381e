import FlowLang.Proofs.Text.Replace
import Mathlib.Data.List.Chain

/-!
# Words with a separator between each two

In words that do not have the separator, a word enclosed by separators occurs exactly where it is one of the words and neither
the first nor the last. Two occurrences share a separator only if they are neighbours. So replacing exchanges whole words, and
a word with one separator behind it is found at the end of words only.
-/

namespace FlowLang.Text

variable {sep : Char} {word symbol w rest : Text} {ws : List Text}

theorem joinWith_cons (sep : Char) (w : Text) (hne : ws ≠ []) :
    joinWith [sep] (w :: ws) = w ++ sep :: joinWith [sep] ws := by
  obtain ⟨v, ws, rfl⟩ := List.exists_cons_of_ne_nil hne
  rw [joinWith_cons_cons, List.append_assoc, List.singleton_append]

/-- The word with a separator on either side. -/
def enclosed (sep : Char) (word : Text) : Text :=
  sep :: (word ++ [sep])

theorem enclosed_ne_nil (sep : Char) (word : Text) : enclosed sep word ≠ [] :=
  List.cons_ne_nil _ _

theorem isPrefix_append_sep_iff (hword : sep ∉ word) (hw : sep ∉ w) : word ++ [sep] <+: w ++ sep :: rest ↔ word = w := by
  refine ⟨?_, fun h => h ▸ (List.prefix_append_right_inj word).mpr ⟨rest, rfl⟩⟩
  rintro ⟨more, hmore⟩
  have htake := congrArg (List.takeWhile (· != sep)) hmore
  rwa [List.append_assoc, List.singleton_append, takeWhile_ne_append hword, takeWhile_ne_append hw] at htake

/-- Behind a separator an enclosed word starts only if it is the next word and not the last. -/
theorem eq_of_enclosed_isPrefix (hword : sep ∉ word) (hws : ∀ w ∈ ws, sep ∉ w)
    (h : enclosed sep word <+: sep :: joinWith [sep] ws) : ∃ rest, ws = word :: rest ∧ rest ≠ [] := by
  have hstarts := (List.cons_prefix_cons.mp h).2
  match ws, hws, hstarts with
  | [], _, hstarts => exact absurd (List.prefix_nil.mp hstarts) (by simp)
  | [w], hws, hstarts =>
      rw [joinWith_singleton] at hstarts
      exact absurd (hstarts.subset (by simp)) (hws w (by simp))
  | w :: v :: rest, hws, hstarts =>
      rw [joinWith_cons sep w (List.cons_ne_nil v rest), isPrefix_append_sep_iff hword (hws w (by simp))] at hstarts
      exact ⟨v :: rest, by rw [hstarts], List.cons_ne_nil v rest⟩

theorem mem_dropLast_of_enclosed_isInfix (hword : sep ∉ word) (hws : ∀ v ∈ w :: ws, sep ∉ v)
    (h : enclosed sep word <:+: joinWith [sep] (w :: ws)) : word ∈ ws.dropLast := by
  induction ws generalizing w with
  | nil =>
      rw [joinWith_singleton, ← List.append_nil w] at h
      exact absurd (List.infix_nil.mp (isInfix_of_isInfix_append (hws w (by simp)) h)) (by simp)
  | cons v ws ih =>
      obtain ⟨hw, hws⟩ := List.forall_mem_cons.mp hws
      rw [joinWith_cons sep w (List.cons_ne_nil v ws)] at h
      rcases List.infix_cons_iff.mp (isInfix_of_isInfix_append hw h) with hstarts | hoccurs
      · obtain ⟨rest, heq, hne⟩ := eq_of_enclosed_isPrefix hword hws hstarts
        rw [heq, List.dropLast_cons_of_ne_nil hne]
        exact List.mem_cons_self
      · have hmem := ih hws hoccurs
        rw [List.dropLast_cons_of_ne_nil (by rintro rfl; cases hmem)]
        exact List.mem_cons_of_mem v hmem

/-! ## All members but the last -/

/-- Changes every member of a list but the last. -/
def mapInit {α : Type} (f : α → α) : List α → List α
  | [] => []
  | [x] => [x]
  | x :: y :: xs => f x :: mapInit f (y :: xs)

section
variable {α : Type} (f g : α → α) {xs : List α}

theorem mapInit_cons (x : α) (hne : xs ≠ []) : mapInit f (x :: xs) = f x :: mapInit f xs := by
  obtain ⟨y, xs, rfl⟩ := List.exists_cons_of_ne_nil hne
  rfl

theorem mapInit_ne_nil (hne : xs ≠ []) : mapInit f xs ≠ [] := by
  match xs with
  | [x] => exact hne
  | x :: y :: xs => exact List.cons_ne_nil _ _

theorem mapInit_mapInit (xs : List α) : mapInit f (mapInit g xs) = mapInit (f ∘ g) xs := by
  induction xs with
  | nil => rfl
  | cons x xs ih =>
      cases xs with
      | nil => rfl
      | cons y xs =>
          have hne := List.cons_ne_nil y xs
          rw [mapInit_cons g x hne, mapInit_cons f _ (mapInit_ne_nil g hne), ih, mapInit_cons _ x hne, Function.comp_apply]

theorem forall_mem_mapInit {P : α → Prop} (hxs : ∀ x ∈ xs, P x) (hf : ∀ x, P x → P (f x)) : ∀ x ∈ mapInit f xs, P x := by
  induction xs with
  | nil => exact hxs
  | cons x xs ih =>
      obtain ⟨hx, hrest⟩ := List.forall_mem_cons.mp hxs
      cases xs with
      | nil => exact hxs
      | cons y xs => exact List.forall_mem_cons.mpr ⟨hf x hx, ih hrest⟩

end

/-! ## Exchanging words -/

/-- The word `symbol` in the place of `word`. -/
def exchange (word symbol w : Text) : Text :=
  if w = word then symbol else w

/-- The word is not its own neighbour. -/
def Apart (word : Text) (ws : List Text) : Prop :=
  ws.IsChain fun v w => v = word → w ≠ word

instance (word : Text) (ws : List Text) : Decidable (Apart word ws) :=
  inferInstanceAs (Decidable (ws.IsChain fun v w => v = word → w ≠ word))

theorem eq_of_exchange_eq {other : Text} (hsymbol : symbol ≠ other) (h : exchange word symbol w = other) : w = other := by
  unfold exchange at h
  split at h
  · exact absurd h hsymbol
  · exact h

/-- An exchange does not bring two of another word together. -/
theorem Apart.mapInit_exchange {other : Text} (hsymbol : symbol ≠ other) :
    {ws : List Text} → Apart other ws → Apart other (mapInit (exchange word symbol) ws)
  | [], h => h
  | [_], h => h
  | [_, _], h => List.isChain_pair.mpr fun hv => List.isChain_pair.mp h (eq_of_exchange_eq hsymbol hv)
  | _ :: _ :: _ :: _, h => by
      obtain ⟨hfirst, hrest⟩ := List.isChain_cons_cons.mp h
      refine List.isChain_cons_cons.mpr ⟨?_, mapInit_exchange hsymbol hrest⟩
      exact fun hv hw => hfirst (eq_of_exchange_eq hsymbol hv) (eq_of_exchange_eq hsymbol hw)

/-- Behind a separator that no enclosed word starts with, replacing goes on with the words. -/
theorem replaceAll_sep_of_ne (hword : sep ∉ word) (hws : ∀ w ∈ ws, sep ∉ w) (hfirst : ∀ rest ≠ [], ws ≠ word :: rest) :
    replaceAll (enclosed sep word) (enclosed sep symbol) (sep :: joinWith [sep] ws) =
      sep :: replaceAll (enclosed sep word) (enclosed sep symbol) (joinWith [sep] ws) := by
  refine replaceAll_cons_of_not_isPrefix _ fun hstarts => ?_
  obtain ⟨rest, heq, hne⟩ := eq_of_enclosed_isPrefix hword hws hstarts
  exact hfirst rest hne heq

theorem replaceAll_sep_joinWith (hword : sep ∉ word) (hne : ws ≠ []) (hws : ∀ w ∈ ws, sep ∉ w) (hapart : Apart word ws) :
    replaceAll (enclosed sep word) (enclosed sep symbol) (sep :: joinWith [sep] ws) =
      sep :: joinWith [sep] (mapInit (exchange word symbol) ws) := by
  induction ws with
  | nil => exact absurd rfl hne
  | cons w ws ih =>
      obtain ⟨hw, hrest⟩ := List.forall_mem_cons.mp hws
      by_cases hlast : ws = []
      · subst hlast
        have hstays := replaceAll_append_of_not_mem (word ++ [sep]) (enclosed sep symbol) hw []
        rw [List.append_nil, replaceAll_nil, List.append_nil] at hstays
        rw [replaceAll_sep_of_ne hword hws fun rest hne h => hne (List.cons.inj h).2.symm, mapInit, joinWith_singleton]
        exact congrArg (sep :: ·) hstays
      · have hbehind := ih hlast hrest hapart.tail
        rw [mapInit_cons _ w hlast, joinWith_cons sep _ (mapInit_ne_nil _ hlast), exchange]
        by_cases heq : w = word
        · -- both separators are taken, and the next word is another one
          have hnext : ∀ rest ≠ [], ws ≠ word :: rest := by
            rintro rest - rfl
            exact (List.isChain_cons_cons.mp hapart).1 heq rfl
          rw [replaceAll_sep_of_ne hword hrest hnext] at hbehind
          have hfound : sep :: joinWith [sep] (w :: ws) = enclosed sep word ++ joinWith [sep] ws := by
            rw [joinWith_cons sep w hlast, heq]
            simp [enclosed]
          rw [hfound, replaceAll_append _ (enclosed_ne_nil sep word), if_pos heq, ← List.tail_eq_of_cons_eq hbehind]
          simp [enclosed]
        · rw [replaceAll_sep_of_ne hword hws fun rest _ h => heq (List.cons.inj h).1, joinWith_cons sep w hlast, if_neg heq,
            ← hbehind]
          exact congrArg (sep :: ·) (replaceAll_append_of_not_mem _ _ hw _)

/-- Replacing a word enclosed by separators exchanges it wherever it is neither the first nor the last. -/
theorem replaceAll_joinWith_enclosed (symbol : Text) (hword : sep ∉ word) (hws : ∀ v ∈ w :: ws, sep ∉ v)
    (hapart : Apart word ws) :
    replaceAll (enclosed sep word) (enclosed sep symbol) (joinWith [sep] (w :: ws)) =
      joinWith [sep] (w :: mapInit (exchange word symbol) ws) := by
  obtain ⟨hw, hrest⟩ := List.forall_mem_cons.mp hws
  have hfirst (t : Text) : replaceAll (enclosed sep word) (enclosed sep symbol) (w ++ t) =
      w ++ replaceAll (enclosed sep word) (enclosed sep symbol) t := replaceAll_append_of_not_mem _ _ hw t
  by_cases hlast : ws = []
  · subst hlast
    have hstays := hfirst []
    rwa [List.append_nil, replaceAll_nil, List.append_nil, ← joinWith_singleton [sep] w] at hstays
  · rw [joinWith_cons sep w hlast, hfirst, replaceAll_sep_joinWith hword hlast hrest hapart,
      joinWith_cons sep w (mapInit_ne_nil _ hlast)]

/-! ## Ends of words -/

/-- A text is one word, or a word with a separator and another text behind it. -/
@[elab_as_elim]
theorem word_induction {motive : Text → Prop} (sep : Char) (last : ∀ w, sep ∉ w → motive w)
    (more : ∀ w rest, sep ∉ w → motive rest → motive (w ++ sep :: rest)) (t : Text) : motive t := by
  induction h : t.length using Nat.strongRecOn generalizing t with
  | ind n ih =>
      by_cases hmem : sep ∈ t
      · obtain ⟨w, rest, rfl, hw⟩ := List.eq_append_cons_of_mem hmem
        rw [List.length_append, List.length_cons] at h
        exact more w rest hw (ih rest.length (by omega) rest rfl)
      · exact last t hmem

theorem isInfix_append_sep_iff (hword : sep ∉ word) (a rest : Text) :
    word ++ [sep] <:+: a ++ sep :: rest ↔ word ++ [sep] <:+: a ++ [sep] ∨ word ++ [sep] <:+: rest := by
  have hends : endsApart (word ++ [sep]) (a ++ [sep]) = true := by simpa [endsApart] using hword
  rw [List.append_cons a, isInfix_append_iff (.inl hends)]

theorem isInfix_last_sep_iff (word : Text) (hw : sep ∉ w) : word ++ [sep] <:+: w ++ [sep] ↔ word <:+ w := by
  rw [List.infix_concat_iff]
  constructor
  · rintro (⟨front, hfront⟩ | hoccurs)
    · rw [← List.append_assoc] at hfront
      exact ⟨front, List.append_cancel_right hfront⟩
    · exact absurd (hoccurs.subset (by simp)) hw
  · rintro ⟨front, rfl⟩
    exact .inl ⟨front, by simp⟩

/-- A word with a separator behind it is not found in a word that does not end with it. -/
theorem replaceAll_append_sep {new : Text} (hword : sep ∉ word) (hw : sep ∉ w) (hends : ¬word <:+ w) (rest : Text) :
    replaceAll (word ++ [sep]) new (w ++ sep :: rest) = w ++ sep :: replaceAll (word ++ [sep]) new rest := by
  have hnot {v : Text} (hv : sep ∉ v) (hends : ¬word <:+ v) : ¬word ++ [sep] <+: v ++ sep :: rest := by
    rw [isPrefix_append_sep_iff hword hv]
    exact fun heq => hends (heq ▸ List.suffix_rfl)
  induction w with
  | nil => exact replaceAll_cons_of_not_isPrefix new (hnot hw hends)
  | cons c w ih =>
      have hshorter := ih (fun hmem => hw (List.mem_cons_of_mem c hmem)) fun h => hends (h.trans (List.suffix_cons c w))
      exact (replaceAll_cons_of_not_isPrefix new (hnot hw hends)).trans (congrArg (c :: ·) hshorter)

/-- In a word that ends with it, it is found at the end and nowhere before. -/
theorem replaceAll_append_word_sep (new : Text) {v : Text} (hword : sep ∉ word) (hv : sep ∉ v) (rest : Text) :
    replaceAll (word ++ [sep]) new (v ++ (word ++ sep :: rest)) = v ++ (new ++ replaceAll (word ++ [sep]) new rest) := by
  induction v with
  | nil =>
      have hfound := replaceAll_append new (by simp : word ++ [sep] ≠ []) rest
      rwa [List.append_assoc] at hfound
  | cons c v ih =>
      obtain ⟨hc, hv⟩ := not_or.mp (mt List.mem_cons.mpr hv)
      have hnot : ¬word ++ [sep] <+: c :: (v ++ (word ++ sep :: rest)) := by
        have hlonger : sep ∉ c :: (v ++ word) := by simp [hc, hv, hword]
        have hwords : ¬word ++ [sep] <+: (c :: (v ++ word)) ++ sep :: rest := by
          rw [isPrefix_append_sep_iff hword hlonger]
          intro heq
          have hlength := congrArg List.length heq
          simp only [List.length_cons, List.length_append] at hlength
          omega
        simpa using hwords
      rw [List.cons_append, replaceAll_cons_of_not_isPrefix new hnot, ih hv, List.cons_append]

end FlowLang.Text
