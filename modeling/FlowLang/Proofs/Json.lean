import FlowLang.Json.Encoding
import FlowLang.Json.Printer
import FlowLang.Proofs.Text.Utf8

/-!
# Reading a text back from JSON

A text that is written between quotes is read back as it was: what is escaped is read as what it stands for, and a character
is never half of a surrogate pair. So an object with one text in it is read back from its bytes.
-/

namespace FlowLang.Json

open Text

/-! ## Texts -/

theorem hexNumber?_hex : ∀ n < 0x20, hexNumber? (hex 4 n) = some n := by
  decide

/-- An escape in base sixteen is read whatever follows it, as long as something does. -/
theorem units_hex (opening n : Nat) (hn : n < 0x20) {t : Text} (ht : t ≠ []) :
    units opening ("\\u".toList ++ hex 4 n ++ t) = (units opening t).map fun r => (n :: r.1, r.2) := by
  cases t with
  | nil => exact absurd rfl ht
  | cons e rest =>
      have hnumber := hexNumber?_hex n hn
      simp only [hex, List.nil_append, List.cons_append] at hnumber ⊢
      simp [units, hnumber]

theorem units_writeChar (opening : Nat) (c : Char) {t : Text} (ht : t ≠ []) :
    units opening (writeChar c ++ t) = (units opening t).map fun r => (c.toNat :: r.1, r.2) := by
  rw [writeChar]
  split
  · rename_i hc
    rcases Bool.or_eq_true_iff.mp hc with hc | hc
    · rw [of_decide_eq_true hc]
      simp [units, escaped?]
    · rw [of_decide_eq_true hc]
      simp [units, escaped?]
  · split
    · exact units_hex opening c.toNat ‹_› ht
    · rename_i hspecial hcontrol
      simp only [Bool.or_eq_true, decide_eq_true_eq, not_or] at hspecial
      simp [units, hspecial, hcontrol]

/-- The units of a text that is written are its code points. -/
theorem units_flatMap_writeChar (opening : Nat) (t rest : Text) :
    units opening (t.flatMap writeChar ++ '"' :: rest) = .ok (t.map Char.toNat, rest) := by
  induction t with
  | nil => simp [units]
  | cons c t ih =>
      rw [List.flatMap_cons, List.append_assoc, units_writeChar opening c (by simp), ih]
      rfl

theorem ofUnit_toNat (c : Char) : Letter.ofUnit c.toNat = .char c := by
  have hvalid : c.toNat < 0xD800 ∨ 0xDFFF < c.toNat ∧ c.toNat < 0x110000 := c.valid
  rw [Letter.ofUnit, if_neg (by omega), Char.ofNat_toNat]

theorem lettersOf_map_toNat (t : Text) : lettersOf (t.map Char.toNat) = t.map .char := by
  induction t with
  | nil => rfl
  | cons c t ih =>
      cases t with
      | nil => simp [lettersOf, ofUnit_toNat]
      | cons d t =>
          have hvalid : c.toNat < 0xD800 ∨ 0xDFFF < c.toNat ∧ c.toNat < 0x110000 := c.valid
          rw [List.map_cons, List.map_cons, lettersOf, if_neg (by omega), ofUnit_toNat, ← List.map_cons, ih, ← List.map_cons]

theorem text?_ofUnits (t : Text) : (ofUnits (t.map Char.toNat)).text? = some t := by
  rw [LooseText.text?, ofUnits, lettersOf_map_toNat]
  induction t with
  | nil => rfl
  | cons c t ih => simp [Letter.char?, ih]

theorem shown_ofUnits (t : Text) : (ofUnits (t.map Char.toNat)).shown = t := by
  rw [LooseText.shown, LooseText.read, ofUnits, lettersOf_map_toNat, List.map_map]
  exact List.map_id t

/-- What stands between two quotes is read as these units. -/
def Spells (literal : Text) (us : List Nat) : Prop :=
  ∀ opening rest, units opening (literal ++ '"' :: rest) = .ok (us, rest)

theorem spells_write (t : Text) : Spells (t.flatMap writeChar) (t.map Char.toNat) :=
  fun opening rest => units_flatMap_writeChar opening t rest

/-! ## An object with one text -/

section

variable {name literal : Text} {us vs : List Nat}

theorem Spells.string (h : Spells literal us) (rest : Text) :
    ∃ h, Json.string (literal ++ '"' :: rest) = .ok ⟨ofUnits us, rest, h⟩ := by
  have hunits := h ((literal ++ '"' :: rest).length + 1) rest
  refine ⟨length_units hunits, ?_⟩
  unfold Json.string
  split
  · rename_i us rest' h
    rw [hunits] at h
    cases h
    rfl
  · rename_i fault h
    rw [hunits] at h
    cases h

theorem Spells.value (h : Spells literal us) (room : Nat) (rest : Text) :
    ∃ h, Json.value room ('"' :: (literal ++ '"' :: rest)) = .ok ⟨.ofLoose (ofUnits us), rest, h⟩ := by
  obtain ⟨h, hstring⟩ := h.string rest
  refine ⟨Nat.lt_succ_of_lt h, ?_⟩
  rw [Json.value]
  simp only [hstring]

theorem skipGap_of_head {c : Char} (hc : isGap c = false) (t : Text) : skipGap (c :: t) = c :: t := by
  rw [skipGap, List.dropWhile_cons, if_neg (by simp [hc])]

theorem members_single (hname : Spells name us) (hliteral : Spells literal vs) (room : Nat) (rest : Text) :
    ∃ h, members room ('"' :: (name ++ '"' :: ':' :: '"' :: (literal ++ '"' :: '\x7d' :: rest))) =
      .ok ⟨[((ofUnits us).shown, .ofLoose (ofUnits vs))], rest, h⟩ := by
  obtain ⟨h, hstring⟩ := hname.string (':' :: '"' :: (literal ++ '"' :: '\x7d' :: rest))
  obtain ⟨h', hvalue⟩ : ∃ h, value room (skipGap ('"' :: (literal ++ '"' :: '\x7d' :: rest))) =
      .ok ⟨.ofLoose (ofUnits vs), '\x7d' :: rest, h⟩ := by
    rw [skipGap_of_head rfl]
    exact hliteral.value room _
  refine ⟨?_, ?_⟩
  · simp only [List.length_cons, List.length_append]
    omega
  rw [members]
  simp only [hstring]
  split
  · rename_i behindColon hcolon
    obtain rfl : behindColon = '"' :: (literal ++ '"' :: '\x7d' :: rest) := by
      simpa [skipGap_of_head (c := ':') rfl] using hcolon.symm
    simp only [hvalue]
    split
    · rename_i behind hclose
      obtain rfl : behind = rest := by simpa [skipGap_of_head (c := '\x7d') rfl] using hclose.symm
      rfl
    · rename_i behind hcomma
      simp [skipGap_of_head (c := '\x7d') rfl] at hcomma
    · rename_i hclose _
      exact absurd (skipGap_of_head rfl rest) (hclose rest)
  · rename_i hcolon
    exact absurd (skipGap_of_head rfl _) (hcolon _)

/-- An object with one text in it. -/
def single (name literal : Text) : Text :=
  "\x7b\"".toList ++ (name ++ '"' :: ':' :: '"' :: (literal ++ '"' :: '\x7d' :: []))

theorem value_single (hname : Spells name us) (hliteral : Spells literal vs) {room : Nat} (hroom : room ≠ 0) :
    ∃ h, value room (single name literal) = .ok ⟨.object [((ofUnits us).shown, .ofLoose (ofUnits vs))], [], h⟩ := by
  obtain ⟨h, hmembers⟩ : ∃ h, members (room - 1)
      (skipGap ('"' :: (name ++ '"' :: ':' :: '"' :: (literal ++ '"' :: '\x7d' :: [])))) =
      .ok ⟨[((ofUnits us).shown, .ofLoose (ofUnits vs))], [], h⟩ := by
    rw [skipGap_of_head rfl]
    exact members_single hname hliteral (room - 1) []
  rw [show single name literal = '\x7b' :: '"' :: (name ++ '"' :: ':' :: '"' :: (literal ++ '"' :: '\x7d' :: [])) from rfl]
  refine ⟨by simp, ?_⟩
  rw [value, if_neg hroom]
  split
  · rename_i behind hclose
    rw [skipGap_of_head rfl] at hclose
    cases hclose
  · simp only [hmembers]

theorem parse_single (hname : Spells name us) (hliteral : Spells literal vs) :
    parse (single name literal) = .ok (.object [((ofUnits us).shown, .ofLoose (ofUnits vs))]) := by
  obtain ⟨h, hvalue⟩ : ∃ h, value deepestNesting (skipGap (single name literal)) =
      .ok ⟨.object [((ofUnits us).shown, .ofLoose (ofUnits vs))], [], h⟩ := by
    rw [show skipGap (single name literal) = single name literal from skipGap_of_head rfl _]
    exact value_single hname hliteral (by decide)
  rw [parse, hvalue]
  rfl

/-- The bytes of an object with one text in it are UTF-8, and it is read from them. -/
theorem parseBytes_single (hname : Spells name us) (hliteral : Spells literal vs) :
    parseBytes (Utf8.encode (single name literal)) = .ok (.object [((ofUnits us).shown, .ofLoose (ofUnits vs))]) := by
  obtain ⟨rest, hbytes⟩ : ∃ rest, Utf8.encode (single name literal) = 0x7b :: 0x22 :: rest := ⟨_, rfl⟩
  have hencoding : encodingOf (Utf8.encode (single name literal)) = (.utf8, Utf8.encode (single name literal)) := by
    rw [hbytes]
    rcases rest with _ | ⟨a, _ | ⟨b, rest⟩⟩ <;> rfl
  rw [parseBytes, hencoding]
  simp only [decode?, Utf8.decode_encode, Except.toOption]
  exact parse_single hname hliteral

end

theorem write_single (name t : Text) :
    (object [(name, .text t)]).write = single (name.flatMap writeChar) (t.flatMap writeChar) := by
  simp [write, writeMembers, joinWith, writeText, single]

theorem parseBytes_write (name t : Text) :
    parseBytes (Utf8.encode (object [(name, .text t)]).write) = .ok (.object [(name, .text t)]) := by
  rw [write_single, parseBytes_single (spells_write name) (spells_write t), shown_ofUnits, ofLoose, text?_ofUnits]

end FlowLang.Json
