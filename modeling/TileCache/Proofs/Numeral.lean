import Mathlib.Data.List.TakeWhile
import TileCache.Text.Blank
import TileCache.Text.Numeral
set_option autoImplicit false

/-!
# Texts of numbers and truth values

What a setting may look like that is a number or a truth value: a numeral is a row of decimal
digits, of which there is at least one, with an optional plus before it; a truth value is one of two
words; and there may be blanks around either. The readers accept these texts and no others, with
the value that the digits have.

## Main definitions

* `TileCache.Text.Framed` — a text with blanks around it.
* `TileCache.Text.IsDecimal` — rows of decimal digits.
* `TileCache.Text.Numeral` — the numerals of a number.
* `TileCache.Text.WritesNumber`, `TileCache.Text.WritesTruth` — the texts of a number and of a truth
  value.

## Main results

* `TileCache.Text.trim_eq_iff` — trimming finds what blanks are around.
* `TileCache.Text.readDigits_eq_ok_iff`, `readNatural_eq_ok_iff` — what is read as a number.
* `TileCache.Text.readNatural_trim_eq_ok_iff`, `readTruth_trim_eq_some_iff` — what is read with
  blanks around it.
-/

namespace TileCache.Text

/-! ## Blanks around a text -/

/-- A text with nothing but blanks before and behind it. -/
def Framed (core text : List Char) : Prop :=
  ∃ before behind : List Char, (∀ c ∈ before, isBlank c = true) ∧
    (∀ c ∈ behind, isBlank c = true) ∧ text = before ++ core ++ behind

section Trim

variable {core text before behind : List Char}

/-- Blanks before a text do not outlast the trimming of its start. -/
lemma trimStart_append (h : ∀ c ∈ before, isBlank c = true) (text : List Char) :
    trimStart (before ++ text) = trimStart text :=
  List.dropWhile_append_of_pos h

/-- Blanks behind a text do not outlast the trimming of its end. -/
lemma trimEnd_append (h : ∀ c ∈ behind, isBlank c = true) (text : List Char) :
    trimEnd (text ++ behind) = trimEnd text := by
  unfold trimEnd
  rw [List.reverse_append, List.dropWhile_append_of_pos fun c hc => h c (List.mem_reverse.1 hc)]

/-- A text that does not start with a blank keeps its start. -/
lemma trimStart_eq_self (h : ∀ c ∈ text, isBlank c = false) : trimStart text = text := by
  cases text with
  | nil => rfl
  | cons c cs => exact trimStart_of_not_blank (h c List.mem_cons_self)

/-- A text that does not end with a blank keeps its end. -/
lemma trimEnd_eq_self (h : ∀ c ∈ text, isBlank c = false) : trimEnd text = text := by
  have hreverse : trimStart text.reverse = text.reverse :=
    trimStart_eq_self fun c hc => h c (List.mem_reverse.1 hc)
  rw [trimEnd, ← trimStart, hreverse, List.reverse_reverse]

/-- The start of a text is blank as far as trimming goes. -/
lemma exists_eq_append_trimStart (text : List Char) :
    ∃ before, (∀ c ∈ before, isBlank c = true) ∧ text = before ++ trimStart text :=
  ⟨text.takeWhile isBlank, fun _ hc => List.mem_takeWhile_imp hc,
    List.takeWhile_append_dropWhile.symm⟩

/-- The end of a text is blank as far as trimming goes. -/
lemma exists_eq_trimEnd_append (text : List Char) :
    ∃ behind, (∀ c ∈ behind, isBlank c = true) ∧ text = trimEnd text ++ behind := by
  obtain ⟨behind, hbehind, hsplit⟩ := exists_eq_append_trimStart text.reverse
  refine ⟨behind.reverse, fun c hc => hbehind c (List.mem_reverse.1 hc), ?_⟩
  rw [trimEnd, ← trimStart, ← List.reverse_append, ← hsplit, List.reverse_reverse]

/-- **Trimming** finds the text without blanks that blanks are around. -/
lemma trim_eq_iff (h : ∀ c ∈ core, isBlank c = false) : trim text = core ↔ Framed core text := by
  constructor
  · rintro rfl
    obtain ⟨before, hbefore, hstart⟩ := exists_eq_append_trimStart text
    obtain ⟨behind, hbehind, hend⟩ := exists_eq_trimEnd_append (trimStart text)
    refine ⟨before, behind, hbefore, hbehind, ?_⟩
    rw [List.append_assoc, trim, ← hend, ← hstart]
  · rintro ⟨before, behind, hbefore, hbehind, rfl⟩
    rw [trim, List.append_assoc, trimStart_append hbefore]
    cases core with
    | nil =>
      have hblank : trimStart behind = [] := List.dropWhile_eq_nil_iff.2 hbehind
      rw [List.nil_append, hblank]
      rfl
    | cons c cs =>
      rw [List.cons_append, trimStart_of_not_blank (h c List.mem_cons_self), ← List.cons_append,
        trimEnd_append hbehind, trimEnd_eq_self h]

end Trim

/-! ## Numerals -/

/-- A row of decimal digits, of which there is at least one. -/
def IsDecimal (ds : List Char) : Prop :=
  ds ≠ [] ∧ ∀ c ∈ ds, c.isDigit = true

/-- The numerals of a number: rows of decimal digits with its value, and those with a plus before
them. -/
inductive Numeral (n : ℕ) : List Char → Prop
  | bare {ds : List Char} (decimal : IsDecimal ds) (value : Nat.ofDigitChars 10 ds 0 = n) :
      Numeral n ds
  | signed {ds : List Char} (decimal : IsDecimal ds) (value : Nat.ofDigitChars 10 ds 0 = n) :
      Numeral n ('+' :: ds)

/-- The texts that are read as a number: its numerals, with blanks around them. -/
def WritesNumber (n : ℕ) (text : List Char) : Prop :=
  ∃ numeral, Numeral n numeral ∧ Framed numeral text

/-- The texts that are read as a truth value: its name, with blanks around it. -/
def WritesTruth (b : Bool) (text : List Char) : Prop :=
  Framed (if b then "true".toList else "false".toList) text

section Digits

variable {bound v n : ℕ} {c : Char} {cs ds : List Char}

/-- The code point of a decimal digit. -/
lemma isDigit_iff : c.isDigit = true ↔ '0'.toNat ≤ c.toNat ∧ c.toNat ≤ '9'.toNat := by
  simp only [Char.isDigit, Bool.and_eq_true, decide_eq_true_eq, ge_iff_le, UInt32.le_iff_toNat_le]
  rfl

/-- A decimal digit is not blank. -/
lemma isBlank_of_isDigit (h : c.isDigit = true) : isBlank c = false := by
  have hbounds : 48 ≤ c.toNat ∧ c.toNat ≤ 57 := isDigit_iff.1 h
  unfold isBlank
  simp only [Bool.or_eq_false_iff, Bool.and_eq_false_iff, decide_eq_false_iff_not, beq_eq_false_iff_ne]
  omega

/-- A digit is that of its value. -/
lemma digitChar_of_isDigit (h : c.isDigit = true) : (c.toNat - '0'.toNat).digitChar = c := by
  have hbounds : 48 ≤ c.toNat ∧ c.toNat ≤ 57 := isDigit_iff.1 h
  obtain ⟨hlower, hupper⟩ := hbounds
  have hdigits : ∀ v : Fin 10, v.val.digitChar.toNat = v.val + 48 := by decide
  have hvalue := hdigits ⟨c.toNat - 48, by omega⟩
  rw [← Char.toNat_inj]
  exact hvalue.trans (Nat.sub_add_cancel hlower)

/-- A numeral holds no blanks. -/
lemma Numeral.isBlank_eq_false (h : Numeral n ds) : ∀ c ∈ ds, isBlank c = false := by
  cases h with
  | bare decimal => exact fun c hc => isBlank_of_isDigit (decimal.2 c hc)
  | signed decimal =>
    intro c hc
    rcases List.mem_cons.1 hc with rfl | hc
    · rfl
    · exact isBlank_of_isDigit (decimal.2 c hc)

/-- The value of a decimal digit. -/
lemma digitValue?_ten (c : Char) :
    digitValue? 10 c = if c.isDigit = true then some (c.toNat - '0'.toNat) else none := by
  by_cases h : c.isDigit = true
  · have hbounds : 48 ≤ c.toNat ∧ c.toNat ≤ 57 := isDigit_iff.1 h
    have hle : '0' ≤ c ∧ c ≤ '9' := hbounds
    have hlt : c.toNat - '0'.toNat < 10 := by
      change c.toNat - 48 < 10
      omega
    simp only [digitValue?, if_pos hle, if_pos h, Option.filter_some, hlt, decide_true, if_true]
  · have hle : ¬('0' ≤ c ∧ c ≤ '9') := fun hle => h (isDigit_iff.2 hle)
    -- The other digits of a larger base are worth ten and more.
    simp only [digitValue?, if_neg hle, if_neg h]
    split_ifs <;> simp [Option.filter_some]

/-- Digits do not make a number smaller. -/
lemma le_ofDigitChars (v : ℕ) (ds : List Char) : v ≤ Nat.ofDigitChars 10 ds v := by
  induction ds generalizing v with
  | nil => exact le_rfl
  | cons c cs ih =>
    rw [Nat.ofDigitChars_cons]
    exact le_trans (by omega) (ih _)

/-- **What digits are read as**, continuing a number below the bound. -/
lemma readDigits_eq_ok_iff (hv : v < bound) :
    readDigits 10 bound v ds = .ok n ↔
      (∀ c ∈ ds, c.isDigit = true) ∧ Nat.ofDigitChars 10 ds v = n ∧ n < bound := by
  induction ds generalizing v with
  | nil =>
    simp only [readDigits, Except.ok.injEq, List.not_mem_nil, false_imp_iff, implies_true, true_and,
      Nat.ofDigitChars_nil]
    exact ⟨fun h => ⟨h, h ▸ hv⟩, fun h => h.1⟩
  | cons c cs ih =>
    rw [readDigits, digitValue?_ten, Nat.ofDigitChars_cons, List.forall_mem_cons,
      Nat.mul_comm 10 v]
    by_cases hc : c.isDigit = true
    · rw [if_pos hc]
      dsimp only
      split_ifs with hlt
      · rw [ih hlt]
        simp only [hc, true_and]
      · -- A number that has left the range stays outside of it.
        refine iff_of_false nofun fun ⟨_, hvalue, hn⟩ => hlt ?_
        exact lt_of_le_of_lt (le_ofDigitChars _ cs) (hvalue ▸ hn)
    · rw [if_neg hc]
      exact iff_of_false nofun fun h => hc h.1.1

/-- **What is read as a number**: a numeral whose value is below the bound. -/
lemma readNatural_eq_ok_iff (hbound : 0 < bound) :
    readNatural bound cs = .ok n ↔ Numeral n cs ∧ n < bound := by
  have hdigits (ds : List Char) : readDigits 10 bound 0 ds = .ok n ↔
      (∀ c ∈ ds, c.isDigit = true) ∧ Nat.ofDigitChars 10 ds 0 = n ∧ n < bound :=
    readDigits_eq_ok_iff hbound
  cases cs with
  | nil =>
    refine iff_of_false nofun fun ⟨h, _⟩ => ?_
    cases h with
    | bare decimal => exact decimal.1 rfl
  | cons c cs =>
    change readDigits 10 bound 0 (dropPlus (c :: cs)) = .ok n ↔ _
    by_cases hplus : c = '+' ∧ cs ≠ []
    · obtain ⟨rfl, hcs⟩ := hplus
      have hdrop : dropPlus ('+' :: cs) = cs := by
        cases cs with
        | nil => exact absurd rfl hcs
        | cons d ds => rfl
      rw [hdrop, hdigits]
      constructor
      · rintro ⟨hdecimal, hvalue, hn⟩
        exact ⟨.signed ⟨hcs, hdecimal⟩ hvalue, hn⟩
      · rintro ⟨h, hn⟩
        cases h with
        | bare decimal => exact absurd (decimal.2 '+' List.mem_cons_self) (by decide)
        | signed decimal value => exact ⟨decimal.2, value, hn⟩
    · have hdrop : dropPlus (c :: cs) = c :: cs := by
        unfold dropPlus
        split
        · next heq =>
          cases heq
          exact absurd ⟨rfl, nofun⟩ hplus
        · rfl
      rw [hdrop, hdigits]
      constructor
      · rintro ⟨hdecimal, hvalue, hn⟩
        exact ⟨.bare ⟨nofun, hdecimal⟩ hvalue, hn⟩
      · rintro ⟨h, hn⟩
        cases h with
        | bare decimal value => exact ⟨decimal.2, value, hn⟩
        | signed decimal => exact absurd ⟨rfl, decimal.1⟩ hplus

end Digits

/-! ## With blanks around them -/

variable {bound n : ℕ} {b : Bool} {text : List Char}

/-- **What is read as a number** when blanks are trimmed first. -/
lemma readNatural_trim_eq_ok_iff (hbound : 0 < bound) :
    readNatural bound (trim text) = .ok n ↔ WritesNumber n text ∧ n < bound := by
  rw [readNatural_eq_ok_iff hbound]
  constructor
  · rintro ⟨h, hn⟩
    exact ⟨⟨_, h, (trim_eq_iff h.isBlank_eq_false).1 rfl⟩, hn⟩
  · rintro ⟨⟨numeral, h, hframed⟩, hn⟩
    rw [(trim_eq_iff h.isBlank_eq_false).2 hframed]
    exact ⟨h, hn⟩

/-- **What is read as a truth value** when blanks are trimmed first. -/
lemma readTruth_trim_eq_some_iff :
    readTruth (trim text) = some b ↔ WritesTruth b text := by
  have hword : ∀ c ∈ (if b then "true".toList else "false".toList), isBlank c = false := by
    cases b <;> simp <;> decide
  rw [WritesTruth, ← trim_eq_iff hword, readTruth]
  cases b <;> split_ifs <;> simp_all

end TileCache.Text
