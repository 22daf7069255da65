import Mathlib.Data.List.DropRight
import Mathlib.Data.List.Induction
import TileCache.Json.Reader
import TileCache.Proofs.Numeral
set_option autoImplicit false

/-!
# Tokens of JSON

The texts of strings and numbers, as the notation allows them. A string may hold a character as it
is or by an escape, of which there can be several; a number is known by its literal. The readers
find what is written, whatever follows it: a string ends with its quote, and a number before the
first character that cannot continue it.

Strings with unpaired surrogate escapes are left out, for they have no text.

## Main definitions

* `TileCache.Json.IsGap` — the blanks that may stand between tokens.
* `TileCache.Json.CharText`, `StringText` — the texts of a character within a string, and of a
  string.
* `TileCache.Json.NumberText` — the literals of numbers.
* `TileCache.Json.Closes` — what may stand behind a value.

## Main results

* `TileCache.Json.StringText.string_append` — a string is read from any of its texts.
* `TileCache.Json.NumberText.number_append` — a literal is read as it is.
* `TileCache.Json.natural?_number_eq_some_iff` — which literals stand for natural numbers.
-/

namespace TileCache.Json

open Reader Text

/-! ## Blanks -/

/-- The characters that may stand between tokens. -/
def spaces : List Char := [' ', '\t', '\n', '\r']

/-- Blanks between tokens. -/
def IsGap (gap : List Char) : Prop :=
  ∀ c ∈ gap, c ∈ spaces

section Gaps

variable {gap cs : List Char} {c : Char}

/-- What is skipped between tokens. -/
lemma isSpace_iff : isSpace c = true ↔ c ∈ spaces := by
  simp [isSpace, spaces, or_assoc]

/-- A gap is skipped. -/
lemma skip_gap (h : IsGap gap) (cs : List Char) : skip (gap ++ cs) = skip cs :=
  List.dropWhile_append_of_pos fun c hc => isSpace_iff.2 (h c hc)

/-- A token is not skipped. -/
lemma skip_cons (h : c ∉ spaces) : skip (c :: cs) = c :: cs :=
  List.dropWhile_cons_of_neg fun hspace => h (isSpace_iff.1 hspace)

/-- What follows a gap is found by skipping. -/
lemma skip_gap_cons (hgap : IsGap gap) (h : c ∉ spaces) : skip (gap ++ c :: cs) = c :: cs := by
  rw [skip_gap hgap, skip_cons h]

/-- Skipping twice is skipping once. -/
lemma skip_skip (cs : List Char) : skip (skip cs) = skip cs :=
  List.dropWhile_idempotent isSpace cs

end Gaps

/-! ## Strings -/

/-- The hexadecimal digits, each at the place of its value. -/
def hexDigits : List Char :=
  ['0', '1', '2', '3', '4', '5', '6', '7', '8', '9', 'a', 'b', 'c', 'd', 'e', 'f']

/-- The hexadecimal digits in upper case. -/
def upperHexDigits : List Char :=
  ['0', '1', '2', '3', '4', '5', '6', '7', '8', '9', 'A', 'B', 'C', 'D', 'E', 'F']

/-- A hexadecimal digit, in either case, and its value. -/
def HexDigit (v : ℕ) (c : Char) : Prop :=
  hexDigits[v]? = some c ∨ upperHexDigits[v]? = some c

/-- The four hexadecimal digits of a unit. -/
inductive UnitText : ℕ → List Char → Prop
  | digits {p q r s : ℕ} {a b c d : Char} (ha : HexDigit p a) (hb : HexDigit q b)
      (hc : HexDigit r c) (hd : HexDigit s d) :
      UnitText (((p * 16 + q) * 16 + r) * 16 + s) [a, b, c, d]

/-- The escapes of one letter, each with the character it stands for. -/
def shortEscapes : List (Char × Char) :=
  [('"', '"'), ('\\', '\\'), ('/', '/'), ('b', '\x08'), ('f', '\x0c'), ('n', '\n'), ('r', '\r'),
   ('t', '\t')]

/-- The texts of a character within a string: itself, unless it is a quote, a backslash or a control;
an escape of one letter; its unit; or, beyond the units, a pair of surrogates. -/
inductive CharText (c : Char) : List Char → Prop
  | plain (hquote : c ≠ '"') (hbackslash : c ≠ '\\') (hcontrol : 0x20 ≤ c.toNat) : CharText c [c]
  | short {e : Char} (h : (e, c) ∈ shortEscapes) : CharText c ['\\', e]
  | unit {u : List Char} (h : UnitText c.toNat u) : CharText c ('\\' :: 'u' :: u)
  | pair {lead trail : ℕ} {u v : List Char} (hu : UnitText lead u) (hv : UnitText trail v)
      (hlead : 0xD800 ≤ lead ∧ lead ≤ 0xDBFF) (htrail : 0xDC00 ≤ trail ∧ trail ≤ 0xDFFF)
      (h : c.toNat = 0x10000 + (lead - 0xD800) * 0x400 + (trail - 0xDC00)) :
      CharText c ('\\' :: 'u' :: (u ++ '\\' :: 'u' :: v))

/-- The texts of characters one after the other. -/
inductive CharsText : List Char → List Char → Prop
  | nil : CharsText [] []
  | cons {c : Char} {cs t ts : List Char} (head : CharText c t) (tail : CharsText cs ts) :
      CharsText (c :: cs) (t ++ ts)

/-- The texts of a string, with its quotes. -/
def StringText (text : String) (t : List Char) : Prop :=
  ∃ body, CharsText text.toList body ∧ t = '"' :: body ++ ['"']

section Strings

variable {v n : ℕ} {c : Char} {t cs rest : List Char} {text : String}

/-- A hexadecimal digit is read. -/
lemma HexDigit.hexValue?_eq (h : HexDigit v c) : hexValue? c = some v := by
  have hlower : ∀ i : Fin hexDigits.length, hexValue? hexDigits[i] = some i.val := by decide
  have hupper : ∀ i : Fin upperHexDigits.length, hexValue? upperHexDigits[i] = some i.val := by
    decide
  rcases h with h | h
  · obtain ⟨hv, rfl⟩ := List.getElem?_eq_some_iff.1 h
    exact hlower ⟨v, hv⟩
  · obtain ⟨hv, rfl⟩ := List.getElem?_eq_some_iff.1 h
    exact hupper ⟨v, hv⟩

/-- A unit is read. -/
lemma UnitText.exists_unit?_eq (h : UnitText n t) :
    ∃ a b c d, t = [a, b, c, d] ∧ unit? a b c d = some n := by
  cases h with
  | digits ha hb hc hd =>
    refine ⟨_, _, _, _, rfl, ?_⟩
    simp only [unit?, ha.hexValue?_eq, hb.hexValue?_eq, hc.hexValue?_eq, hd.hexValue?_eq]
    rfl

/-- A character is no surrogate. -/
lemma isLeading_toNat (c : Char) : isLeading c.toNat = false ∧ isTrailing c.toNat = false := by
  have hvalid : c.toNat < 0xD800 ∨ 0xDFFF < c.toNat ∧ c.toNat < 0x110000 := c.valid
  simp only [isLeading, isTrailing, Bool.and_eq_false_iff, decide_eq_false_iff_not]
  omega

/-- **A character of a string is read** from any of its texts. -/
lemma CharText.stringRest_append (h : CharText c t) (cs : List Char) :
    stringRest (t ++ cs) = (stringRest cs).map (before c) := by
  cases h with
  | plain hquote hbackslash hcontrol =>
    simp [stringRest, hbackslash, Nat.not_lt.2 hcontrol]
  | short h =>
    simp only [shortEscapes, List.mem_cons, Prod.mk.injEq, List.not_mem_nil, or_false] at h
    rcases h with ⟨rfl, rfl⟩ | ⟨rfl, rfl⟩ | ⟨rfl, rfl⟩ | ⟨rfl, rfl⟩ | ⟨rfl, rfl⟩ | ⟨rfl, rfl⟩ |
      ⟨rfl, rfl⟩ | ⟨rfl, rfl⟩ <;> simp [stringRest, escaped?]
  | unit h =>
    obtain ⟨_, _, _, _, rfl, hunit⟩ := h.exists_unit?_eq
    simp [stringRest, hunit, isLeading_toNat, Char.ofNat_toNat]
  | pair hu hv hlead htrail h =>
    obtain ⟨_, _, _, _, rfl, hleadUnit⟩ := hu.exists_unit?_eq
    obtain ⟨_, _, _, _, rfl, htrailUnit⟩ := hv.exists_unit?_eq
    have hpaired : paired _ _ = c := (congrArg Char.ofNat h.symm).trans (Char.ofNat_toNat c)
    simp only [List.cons_append, List.nil_append]
    rw [stringRest]
    simp [hleadUnit, htrailUnit, isLeading, isTrailing, hlead, htrail, hpaired]

/-- The characters of a string are read up to its quote. -/
lemma CharsText.stringRest_append (h : CharsText cs t) (rest : List Char) :
    stringRest (t ++ '"' :: rest) = some (some cs, rest) := by
  induction h with
  | nil => simp [stringRest]
  | cons head _ ih =>
    rw [List.append_assoc, head.stringRest_append, ih]
    rfl

/-- **A string is read** from any of its texts, whatever follows. -/
lemma StringText.string_append (h : StringText text t) (rest : List Char) :
    Reader.string (t ++ rest) = some (some text, rest) := by
  obtain ⟨body, hbody, rfl⟩ := h
  rw [List.append_assoc, List.cons_append, Reader.string, List.singleton_append, hbody.stringRest_append]
  simp

/-- A string starts with its quote. -/
lemma StringText.exists_cons (h : StringText text t) : ∃ cs, t = '"' :: cs := by
  obtain ⟨body, -, rfl⟩ := h
  exact ⟨_, rfl⟩

end Strings

/-! ## Numbers -/

/-- The whole part of a number: decimal digits, without a zero before others. -/
def WholeText (ds : List Char) : Prop :=
  IsDecimal ds ∧ (ds.head? = some '0' → ds = ['0'])

/-- The fraction of a number, if there is one. -/
inductive FractionText : List Char → Prop
  | absent : FractionText []
  | present {ds : List Char} (decimal : IsDecimal ds) : FractionText ('.' :: ds)

/-- The exponent of a number, if there is one. -/
inductive ExponentText : List Char → Prop
  | absent : ExponentText []
  | present {e : Char} {sign ds : List Char} (he : e ∈ ['e', 'E'])
      (hsign : sign ∈ [[], ['+'], ['-']]) (decimal : IsDecimal ds) :
      ExponentText (e :: (sign ++ ds))

/-- The literals of numbers without a sign. -/
inductive MagnitudeText : List Char → Prop
  | parts {w f e : List Char} (whole : WholeText w) (fraction : FractionText f)
      (exponent : ExponentText e) : MagnitudeText (w ++ (f ++ e))

/-- The literals of numbers. -/
inductive NumberText : List Char → Prop
  | plain {t : List Char} (h : MagnitudeText t) : NumberText t
  | negative {t : List Char} (h : MagnitudeText t) : NumberText ('-' :: t)

/-- What may stand behind a value: the end of the text, a blank, a comma or a closing bracket. -/
def Closes (rest : List Char) : Prop :=
  ∀ c ∈ rest.head?, c ∈ spaces ∨ c ∈ [',', ']', '\x7d']

section Numbers

variable {c : Char} {ds f e t rest : List Char}

/-- Digits are read up to the first character that is none. -/
lemma digits_append (h : IsDecimal ds) (hrest : ∀ c ∈ rest.head?, c.isDigit = false) :
    digits (ds ++ rest) = some (ds, rest) := by
  have htake : rest.takeWhile Char.isDigit = [] := by
    cases rest with
    | nil => rfl
    | cons c cs => exact List.takeWhile_cons_of_neg (by simp [hrest c rfl])
  have hdrop : rest.dropWhile Char.isDigit = rest := by
    cases rest with
    | nil => rfl
    | cons c cs => exact List.dropWhile_cons_of_neg (by simp [hrest c rfl])
  rw [digits, List.takeWhile_append_of_pos h.2, List.dropWhile_append_of_pos h.2, htake, hdrop,
    List.append_nil]
  simp [h.1]

/-- The whole part of a number is read. -/
lemma whole_append (h : WholeText ds) (hrest : ∀ c ∈ rest.head?, c.isDigit = false) :
    whole (ds ++ rest) = some (ds, rest) := by
  rw [whole, digits_append h.1 hrest]
  refine if_neg ?_
  simp only [Bool.and_eq_true, decide_eq_true_eq, not_and]
  intro hzero
  rw [h.2 hzero]
  decide

/-- The fraction of a number is read. -/
lemma fraction_append (h : FractionText f)
    (hrest : ∀ c ∈ rest.head?, c.isDigit = false ∧ c ≠ '.') :
    fraction (f ++ rest) = some (f, rest) := by
  cases h with
  | absent =>
    cases rest with
    | nil => rfl
    | cons c cs => simp [fraction, (hrest c rfl).2]
  | present decimal =>
    rw [List.cons_append, fraction, digits_append decimal fun c hc => (hrest c hc).1]
    rfl

/-- The digits of an exponent are read with their sign. -/
lemma signedDigits_append {sign : List Char} (hsign : sign ∈ [[], ['+'], ['-']])
    (h : IsDecimal ds) (hrest : ∀ c ∈ rest.head?, c.isDigit = false) :
    signedDigits (sign ++ ds ++ rest) = some (sign ++ ds, rest) := by
  simp only [List.mem_cons, List.not_mem_nil, or_false] at hsign
  rcases hsign with rfl | rfl | rfl
  · cases ds with
    | nil => exact absurd rfl h.1
    | cons c cs =>
      have hc : c.isDigit = true := h.2 c List.mem_cons_self
      have hplus : c ≠ '+' := by
        rintro rfl
        exact absurd hc (by decide)
      have hminus : c ≠ '-' := by
        rintro rfl
        exact absurd hc (by decide)
      have hdigits := digits_append h hrest
      rw [List.cons_append] at hdigits
      simp [signedDigits, hplus, hminus, hdigits]
  · simp only [List.cons_append, List.nil_append, signedDigits, digits_append h hrest]
    rfl
  · simp only [List.cons_append, List.nil_append, signedDigits, digits_append h hrest]
    rfl

/-- The exponent of a number is read. -/
lemma exponent_append (h : ExponentText e)
    (hrest : ∀ c ∈ rest.head?, c.isDigit = false ∧ c ∉ ['e', 'E']) :
    exponent (e ++ rest) = some (e, rest) := by
  cases h with
  | absent =>
    cases rest with
    | nil => rfl
    | cons c cs =>
      have hc := (hrest c rfl).2
      simp_all [exponent]
  | present he hsign decimal =>
    have hsigned := signedDigits_append hsign decimal fun c hc => (hrest c hc).1
    simp only [List.mem_cons, List.not_mem_nil, or_false] at he
    rcases he with rfl | rfl <;>
    · rw [List.cons_append, exponent, hsigned]
      rfl

/-- What stands behind a value cannot continue a number. -/
lemma Closes.head (h : Closes rest) :
    ∀ c ∈ rest.head?, c.isDigit = false ∧ c ≠ '.' ∧ c ∉ ['e', 'E'] := by
  intro c hc
  have hmem := h c hc
  simp only [spaces, List.mem_cons, List.not_mem_nil, or_false] at hmem
  rcases hmem with (rfl | rfl | rfl | rfl) | rfl | rfl | rfl <;> decide

/-- An exponent, or what stands behind a number without one, is no digit and no point. -/
lemma ExponentText.head_append (h : ExponentText e) (hrest : Closes rest) :
    ∀ c ∈ (e ++ rest).head?, c.isDigit = false ∧ c ≠ '.' := by
  cases h with
  | absent => exact fun c hc => ⟨(hrest.head c hc).1, (hrest.head c hc).2.1⟩
  | present he =>
    intro c hc
    obtain rfl := Option.mem_some_iff.1 hc
    simp only [List.mem_cons, List.not_mem_nil, or_false] at he
    rcases he with rfl | rfl <;> decide

/-- A fraction, or what stands behind a whole number, is no digit. -/
lemma FractionText.head_append (h : FractionText f) (hrest : ∀ c ∈ rest.head?, c.isDigit = false) :
    ∀ c ∈ (f ++ rest).head?, c.isDigit = false := by
  cases h with
  | absent => exact hrest
  | present =>
    intro c hc
    obtain rfl := Option.mem_some_iff.1 hc
    decide

/-- A literal without a sign is read as it is. -/
lemma MagnitudeText.magnitude_append (h : MagnitudeText t) (hrest : Closes rest) :
    magnitude (t ++ rest) = some (t, rest) := by
  cases h with
  | @parts w f e whole fraction exponent =>
    have hexponent := exponent_append exponent fun c hc =>
      ⟨(hrest.head c hc).1, (hrest.head c hc).2.2⟩
    have hfraction := fraction_append fraction (exponent.head_append hrest)
    have hwhole := whole_append whole
      (fraction.head_append fun c hc => (exponent.head_append hrest c hc).1)
    simp only [List.append_assoc, magnitude, hwhole, hfraction, hexponent, Option.bind_eq_bind,
      Option.bind_some, Option.pure_def]

/-- A literal without a sign starts with a digit. -/
lemma MagnitudeText.exists_cons (h : MagnitudeText t) :
    ∃ c cs, t = c :: cs ∧ c.isDigit = true := by
  cases h with
  | @parts w f e whole =>
    cases w with
    | nil => exact absurd rfl whole.1.1
    | cons c cs => exact ⟨c, cs ++ (f ++ e), rfl, whole.1.2 c List.mem_cons_self⟩

/-- **A literal is read** as it is, up to what cannot continue it. -/
lemma NumberText.number_append (h : NumberText t) (hrest : Closes rest) :
    Reader.number (t ++ rest) = some (t, rest) := by
  cases h with
  | plain h =>
    have hmagnitude := h.magnitude_append hrest
    obtain ⟨c, cs, rfl, hc⟩ := h.exists_cons
    have hminus : c ≠ '-' := by
      rintro rfl
      exact absurd hc (by decide)
    rw [List.cons_append] at hmagnitude ⊢
    simp [Reader.number, hminus, hmagnitude]
  | negative h =>
    rw [List.cons_append, Reader.number, h.magnitude_append hrest]
    rfl

/-- A literal starts with a digit or a sign. -/
lemma NumberText.exists_cons (h : NumberText t) :
    ∃ c cs, t = c :: cs ∧ (c.isDigit = true ∨ c = '-') := by
  cases h with
  | plain h =>
    obtain ⟨c, cs, hcs, hc⟩ := h.exists_cons
    exact ⟨c, cs, hcs, .inl hc⟩
  | @negative t => exact ⟨'-', t, rfl, .inr rfl⟩

end Numbers

/-! ## Natural numbers -/

section Natural

variable {ds t : List Char} {literal : String} {bound n : ℕ}

/-- The numeral of a number has no zero before other digits. -/
lemma wholeText_toDigits (n : ℕ) : WholeText (Nat.toDigits 10 n) := by
  refine ⟨⟨Nat.toDigits_ne_nil, fun c hc => Nat.isDigit_of_mem_toDigits (by decide) le_rfl hc⟩, ?_⟩
  induction n using Nat.strong_induction_on with
  | _ n ih =>
    rcases lt_or_ge n 10 with hn | hn
    · rw [Nat.toDigits_of_lt_base hn]
      exact fun h => by simpa using h
    · rw [Nat.toDigits_of_base_le (by decide) hn, List.head?_append]
      intro hzero
      rw [List.head?_eq_some_head Nat.toDigits_ne_nil, Option.some_or,
        ← List.head?_eq_some_head Nat.toDigits_ne_nil] at hzero
      have hquotient := ih (n / 10) (by omega) hzero
      have hvalue := @Nat.ofDigitChars_ten_toDigits (n / 10)
      rw [hquotient] at hvalue
      have : n / 10 = 0 := hvalue.symm
      omega

/-- **Digits without a zero before them are the numeral** of their value. -/
lemma WholeText.eq_toDigits (h : WholeText ds) :
    ds = Nat.toDigits 10 (Nat.ofDigitChars 10 ds 0) := by
  induction ds using List.reverseRecOn with
  | nil => exact absurd rfl h.1.1
  | append_singleton init d ih =>
    have hd : d.isDigit = true := h.1.2 d (by simp)
    have hbounds : 48 ≤ d.toNat ∧ d.toNat ≤ 57 := isDigit_iff.1 hd
    have hlt : d.toNat - '0'.toNat < 10 := by
      change d.toNat - 48 < 10
      omega
    have hdigit : [d] = Nat.toDigits 10 (d.toNat - '0'.toNat) := by
      rw [Nat.toDigits_of_lt_base hlt, digitChar_of_isDigit hd]
    cases init with
    | nil => simpa [Nat.ofDigitChars_cons] using hdigit
    | cons c cs =>
      have hc : c ≠ '0' := by
        rintro rfl
        exact absurd (h.2 rfl) (by simp)
      have hcdigit : 48 ≤ c.toNat ∧ c.toNat ≤ 57 := isDigit_iff.1 (h.1.2 c (by simp))
      have hinit : WholeText (c :: cs) :=
        ⟨⟨nofun, fun x hx => h.1.2 x (List.mem_append_left _ hx)⟩,
          fun hzero => absurd (Option.some.inj hzero) hc⟩
      have hpos : 0 < Nat.ofDigitChars 10 (c :: cs) 0 := by
        rw [Nat.ofDigitChars_cons]
        refine lt_of_lt_of_le ?_ (le_ofDigitChars _ cs)
        have hne : c.toNat ≠ '0'.toNat := fun heq => hc (Char.toNat_inj.1 heq)
        change c.toNat ≠ 48 at hne
        change 0 < 10 * 0 + (c.toNat - 48)
        omega
      have hvalue : Nat.ofDigitChars 10 (c :: cs ++ [d]) 0 =
          10 * Nat.ofDigitChars 10 (c :: cs) 0 + (d.toNat - '0'.toNat) := by
        rw [Nat.ofDigitChars_append, Nat.ofDigitChars_cons, Nat.ofDigitChars_nil]
      rw [hvalue, ← Nat.toDigits_append_toDigits (by decide) hpos hlt, ← ih hinit, ← hdigit]

/-- The numeral of a natural number is a literal. -/
lemma numberText_toString (n : ℕ) : NumberText (toString n).toList := by
  have h := MagnitudeText.parts (wholeText_toDigits n) .absent .absent
  rw [List.append_nil, List.append_nil] at h
  rw [Nat.toString_eq_repr, Nat.toList_repr]
  exact .plain h

/-- A literal of digits alone is a whole part. -/
lemma NumberText.wholeText (h : NumberText t) (hdigits : ∀ c ∈ t, c.isDigit = true) :
    WholeText t := by
  cases h with
  | plain h =>
    cases h with
    | parts whole fraction exponent =>
      cases fraction with
      | absent =>
        cases exponent with
        | absent =>
          rw [List.append_nil, List.append_nil]
          exact whole
        | @present e _ _ he =>
          have hdigit : e.isDigit = true := hdigits e (by simp)
          simp only [List.mem_cons, List.not_mem_nil, or_false] at he
          rcases he with rfl | rfl <;> exact absurd hdigit (by decide)
      | present => exact absurd (hdigits '.' (by simp)) (by decide)
  | negative => exact absurd (hdigits '-' List.mem_cons_self) (by decide)

/-- The value of a row of digits. -/
lemma digitsValue_eq (ds : List Char) : digitsValue ds = Nat.ofDigitChars 10 ds 0 := by
  simp only [digitsValue, Nat.ofDigitChars, Nat.mul_comm]

/-- **A literal stands for a natural number** if it is the numeral of one. -/
lemma natural?_number_eq_some_iff (h : NumberText literal.toList) :
    (number literal).natural? bound = some n ↔ literal = toString n ∧ n < bound := by
  have hnumeral : literal = toString n ↔ literal.toList = Nat.toDigits 10 n := by
    rw [Nat.toString_eq_repr, ← String.toList_inj, Nat.toList_repr]
  rw [hnumeral]
  simp only [natural?, digitsValue_eq, Bool.and_eq_true, List.all_eq_true]
  constructor
  · intro heq
    split_ifs at heq with hdigits hlt
    obtain rfl := Option.some.inj heq
    exact ⟨(h.wholeText hdigits.1).eq_toDigits, hlt⟩
  · rintro ⟨hdigits, hn⟩
    rw [hdigits, Nat.ofDigitChars_ten_toDigits, if_pos hn, if_pos]
    exact ⟨fun c hc => Nat.isDigit_of_mem_toDigits (by decide) le_rfl hc, by simp⟩

end Natural

end TileCache.Json
