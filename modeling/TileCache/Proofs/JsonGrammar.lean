import TileCache.Proofs.JsonTokens
set_option autoImplicit false

/-!
# The grammar of JSON

The texts of values, with blanks wherever they may stand, and the reader finds the value of each. So
a whole text is parsed to the value that it is a text of, however the value is written. Compact
printing writes one of the texts.

The reader is bounded in its depth, and the bound is the length of the text. The bound is enough,
for each level of nesting and each item takes a character at least.

## Main definitions

* `TileCache.Json.ValueText`, `PaddedText` — the texts of a value, without and with blanks around it.
* `TileCache.Json.ItemsText`, `MembersText` — what may stand between the brackets of an array and of
  an object.

## Main results

* `TileCache.Json.readsAt` — the reader finds the value of every text that its depth is enough for.
* `TileCache.Json.PaddedText.parse?_eq` — every text is parsed to its value.
* `TileCache.Json.valueText_ofMembers` — compact printing writes a text.
-/

namespace TileCache.Json

open Reader

/-! ## Texts of values -/

mutual

/-- The texts of a value, without blanks around it. -/
inductive ValueText : Json → List Char → Prop
  | null : ValueText .null ['n', 'u', 'l', 'l']
  | truth : ValueText (.bool true) ['t', 'r', 'u', 'e']
  | falsehood : ValueText (.bool false) ['f', 'a', 'l', 's', 'e']
  | number {literal : String} (h : NumberText literal.toList) :
      ValueText (.number literal) literal.toList
  | string {text : String} {t : List Char} (h : StringText text t) : ValueText (.ofText text) t
  | emptyArray {gap : List Char} (hgap : IsGap gap) : ValueText (.array []) ('[' :: (gap ++ [']']))
  | array {items : List Json} {t : List Char} (h : ItemsText items t) :
      ValueText (.array items) ('[' :: (t ++ [']']))
  | emptyObject {gap : List Char} (hgap : IsGap gap) :
      ValueText (.object []) ('\x7b' :: (gap ++ ['\x7d']))
  | object {members : List (Option String × Json)} {t : List Char} (h : MembersText members t) :
      ValueText (.object members) ('\x7b' :: (t ++ ['\x7d']))

/-- The texts of a value with blanks around it. -/
inductive PaddedText : Json → List Char → Prop
  | padded {j : Json} {before t behind : List Char} (hbefore : IsGap before) (h : ValueText j t)
      (hbehind : IsGap behind) : PaddedText j (before ++ (t ++ behind))

/-- The texts of items, of which there is at least one. -/
inductive ItemsText : List Json → List Char → Prop
  | last {j : Json} {t : List Char} (h : PaddedText j t) : ItemsText [j] t
  | cons {j : Json} {js : List Json} {t ts : List Char} (h : PaddedText j t)
      (hs : ItemsText js ts) : ItemsText (j :: js) (t ++ ',' :: ts)

/-- The texts of a member. -/
inductive MemberText : Option String × Json → List Char → Prop
  | pair {name : String} {j : Json} {before n behind t : List Char} (hbefore : IsGap before)
      (hname : StringText name n) (hbehind : IsGap behind) (h : PaddedText j t) :
      MemberText (some name, j) (before ++ (n ++ (behind ++ ':' :: t)))

/-- The texts of members, of which there is at least one. -/
inductive MembersText : List (Option String × Json) → List Char → Prop
  | last {m : Option String × Json} {t : List Char} (h : MemberText m t) : MembersText [m] t
  | cons {m : Option String × Json} {ms : List (Option String × Json)} {t ts : List Char}
      (h : MemberText m t) (hs : MembersText ms ts) : MembersText (m :: ms) (t ++ ',' :: ts)

end

/-! ## What the reader does first -/

section Reader

variable {depth : ℕ} {gap t cs ds rest : List Char}

/-- A value is read behind blanks. -/
lemma value_skip (depth : ℕ) (cs : List Char) : value depth (skip cs) = value depth cs := by
  cases depth with
  | zero => rfl
  | succ depth => rw [value, value, skip_skip]

/-- Items are read behind blanks. -/
lemma items_skip (depth : ℕ) (cs : List Char) : items depth (skip cs) = items depth cs := by
  cases depth with
  | zero => rfl
  | succ depth => rw [items, items, value_skip]

/-- Members are read behind blanks. -/
lemma members_skip (depth : ℕ) (cs : List Char) : members depth (skip cs) = members depth cs := by
  cases depth with
  | zero => rfl
  | succ depth => rw [members, members, skip_skip]

/-- A digit or a sign is no blank. -/
lemma not_mem_spaces_of_numeric {c : Char} (h : c.isDigit = true ∨ c = '-') : c ∉ spaces := by
  intro hc
  simp only [spaces, List.mem_cons, List.not_mem_nil, or_false] at hc
  rcases hc with rfl | rfl | rfl | rfl <;> exact absurd h (by decide)

/-- A number is read. -/
lemma value_number {c : Char} (hc : c.isDigit = true ∨ c = '-')
    (h : Reader.number (c :: cs) = some (t, rest)) :
    value (depth + 1) (c :: cs) = some (.number (String.ofList t), rest) := by
  have hother : ∀ d ∈ ['\x7b', '[', '"', 'n', 't', 'f'], c ≠ d := by
    rintro d hd rfl
    simp only [List.mem_cons, List.not_mem_nil, or_false] at hd
    rcases hd with rfl | rfl | rfl | rfl | rfl | rfl <;> exact absurd hc (by decide)
  simp only [List.forall_mem_cons, List.not_mem_nil, false_imp_iff, implies_true, and_true] at hother
  rw [value, skip_cons (not_mem_spaces_of_numeric hc)]
  simp [hother, h]

/-- A string is read. -/
lemma value_string {text : Option String} (h : Reader.string ('"' :: cs) = some (text, rest)) :
    value (depth + 1) ('"' :: cs) = some (.string text, rest) := by
  rw [value, skip_cons (by decide)]
  simp [h]

/-- Brackets with nothing between them are read. -/
lemma value_emptyArray (hgap : IsGap gap) (rest : List Char) :
    value (depth + 1) ('[' :: (gap ++ ']' :: rest)) = some (.array [], rest) := by
  rw [value, skip_cons (by decide)]
  simp only [skip_gap_cons hgap (show ']' ∉ spaces by decide)]

/-- Braces with nothing between them are read. -/
lemma value_emptyObject (hgap : IsGap gap) (rest : List Char) :
    value (depth + 1) ('\x7b' :: (gap ++ '\x7d' :: rest)) = some (.object [], rest) := by
  rw [value, skip_cons (by decide)]
  simp only [skip_gap_cons hgap (show '\x7d' ∉ spaces by decide)]

/-- An array is read if its items are. -/
lemma value_array {c : Char} {js : List Json} (hskip : skip cs = c :: ds) (hc : c ≠ ']')
    (h : items depth cs = some (js, rest)) :
    value (depth + 1) ('[' :: cs) = some (.array js, rest) := by
  rw [← items_skip, hskip] at h
  rw [value, skip_cons (by decide)]
  simp [hskip, hc, h]

/-- An object is read if its members are. -/
lemma value_object {c : Char} {ms : List (Option String × Json)} (hskip : skip cs = c :: ds)
    (hc : c ≠ '\x7d') (h : members depth cs = some (ms, rest)) :
    value (depth + 1) ('\x7b' :: cs) = some (.object ms, rest) := by
  rw [← members_skip, hskip] at h
  rw [value, skip_cons (by decide)]
  simp [hskip, hc, h]

end Reader

/-! ## What the texts start with -/

section Heads

variable {t rest : List Char} {j : Json}

/-- A value starts with a character that is no blank and does not close an array. -/
lemma ValueText.exists_cons (h : ValueText j t) : ∃ c cs, t = c :: cs ∧ c ∉ spaces ∧ c ≠ ']' := by
  cases h with
  | number h =>
    obtain ⟨c, cs, hcs, hc⟩ := h.exists_cons
    refine ⟨c, cs, hcs, not_mem_spaces_of_numeric hc, ?_⟩
    rintro rfl
    exact absurd hc (by decide)
  | string h =>
    obtain ⟨cs, rfl⟩ := h.exists_cons
    exact ⟨_, _, rfl, by decide, by decide⟩
  | _ => exact ⟨_, _, rfl, by decide, by decide⟩

/-- Items start, blanks aside, with a character that does not close the array. -/
lemma ItemsText.skip_append {items : List Json} (h : ItemsText items t) (rest : List Char) :
    ∃ c cs, skip (t ++ rest) = c :: cs ∧ c ≠ ']' := by
  have hpadded : ∀ j u, PaddedText j u → ∀ rest, ∃ c cs, skip (u ++ rest) = c :: cs ∧ c ≠ ']' := by
    rintro j u ⟨hbefore, h, hbehind⟩ rest
    obtain ⟨c, cs, rfl, hspace, hc⟩ := h.exists_cons
    simp only [List.append_assoc, List.cons_append, skip_gap_cons hbefore hspace]
    exact ⟨c, _, rfl, hc⟩
  cases h with
  | last h => exact hpadded _ _ h rest
  | cons h =>
    rw [List.append_assoc]
    exact hpadded _ _ h _

/-- Members start, blanks aside, with a quote. -/
lemma MembersText.skip_append {members : List (Option String × Json)} (h : MembersText members t)
    (rest : List Char) : ∃ cs, skip (t ++ rest) = '"' :: cs := by
  have hmember : ∀ m u, MemberText m u → ∀ rest, ∃ cs, skip (u ++ rest) = '"' :: cs := by
    rintro m u ⟨hbefore, hname, hbehind, h⟩ rest
    obtain ⟨cs, rfl⟩ := hname.exists_cons
    simp only [List.append_assoc, List.cons_append, skip_gap_cons hbefore (show '"' ∉ spaces by decide)]
    exact ⟨_, rfl⟩
  cases h with
  | last h => exact hmember _ _ h rest
  | cons h =>
    rw [List.append_assoc]
    exact hmember _ _ h _

end Heads

/-! ## The reader finds what is written -/

section Finds

variable {depth : ℕ} {gap t rest : List Char} {c : Char} {j : Json}

/-- Blanks before a comma or a closing bracket may stand behind a value. -/
lemma closes_gap_append (hgap : IsGap gap) (hc : c ∈ [',', ']', '\x7d']) (rest : List Char) :
    Closes (gap ++ c :: rest) := by
  intro d hd
  cases gap with
  | nil =>
    obtain rfl := Option.mem_some_iff.1 hd
    exact .inr hc
  | cons e es =>
    obtain rfl := Option.mem_some_iff.1 hd
    exact .inl (hgap _ List.mem_cons_self)

/-- A comma or a closing bracket is no blank. -/
lemma not_mem_spaces_of_closes (hc : c ∈ [',', ']', '\x7d']) : c ∉ spaces := by
  simp only [List.mem_cons, List.not_mem_nil, or_false] at hc
  rcases hc with rfl | rfl | rfl <;> decide

/-- What a depth is enough for: the texts of values that are shorter, and items and members that have
one character less, for they are read at the next depth. -/
structure ReadsAt (depth : ℕ) : Prop where
  value : ∀ {j : Json} {t rest : List Char}, ValueText j t → t.length < depth → Closes rest →
    Reader.value depth (t ++ rest) = some (j, rest)
  items : ∀ {js : List Json} {t : List Char}, ItemsText js t → t.length + 1 < depth →
    ∀ rest, Reader.items depth (t ++ ']' :: rest) = some (js, rest)
  members : ∀ {ms : List (Option String × Json)} {t : List Char}, MembersText ms t →
    t.length + 1 < depth → ∀ rest, Reader.members depth (t ++ '\x7d' :: rest) = some (ms, rest)

/-- Nothing is shorter than the least depth. -/
lemma readsAt_zero : ReadsAt 0 :=
  ⟨fun _ h => absurd h (Nat.not_lt_zero _), fun _ h => absurd h (Nat.not_lt_zero _),
    fun _ h => absurd h (Nat.not_lt_zero _)⟩

/-- A value with blanks around it is read up to the blanks behind it. -/
lemma ReadsAt.padded (ih : ReadsAt depth) (h : PaddedText j t) (hlength : t.length < depth)
    (hc : c ∈ [',', ']', '\x7d']) (rest : List Char) :
    ∃ cs, Reader.value depth (t ++ c :: rest) = some (j, cs) ∧ skip cs = c :: rest := by
  obtain ⟨hbefore, h, hbehind⟩ := h
  simp only [List.length_append] at hlength
  refine ⟨_, ?_, skip_gap_cons hbehind (not_mem_spaces_of_closes hc)⟩
  rw [List.append_assoc, List.append_assoc, ← value_skip, skip_gap hbefore, value_skip]
  exact ih.value h (by omega) (closes_gap_append hbehind hc rest)

/-- A member is read: its name, and behind a colon its value. -/
lemma ReadsAt.member {m : Option String × Json} (ih : ReadsAt depth) (h : MemberText m t)
    (hlength : t.length < depth) (hc : c ∈ [',', ']', '\x7d']) (rest : List Char) :
    ∃ cs ds es, Reader.string (skip (t ++ c :: rest)) = some (m.1, cs) ∧ skip cs = ':' :: ds ∧
      Reader.value depth ds = some (m.2, es) ∧ skip es = c :: rest := by
  obtain ⟨hbefore, hname, hbehind, h⟩ := h
  simp only [List.length_append, List.length_cons] at hlength
  obtain ⟨es, hvalue, hskip⟩ := ih.padded h (by omega) hc rest
  refine ⟨_, _, es, ?_, skip_gap_cons hbehind (show ':' ∉ spaces by decide), hvalue, hskip⟩
  obtain ⟨cs, rfl⟩ := hname.exists_cons
  simp only [List.append_assoc, List.cons_append,
    skip_gap_cons hbefore (show '"' ∉ spaces by decide)]
  simpa using hname.string_append _

/-- The values that the next depth is enough for. -/
lemma ReadsAt.value_succ (ih : ReadsAt depth) (h : ValueText j t) (hlength : t.length < depth + 1)
    (hrest : Closes rest) : Reader.value (depth + 1) (t ++ rest) = some (j, rest) := by
  cases h with
  | null | truth | falsehood =>
    simp only [List.cons_append, List.nil_append]
    rw [Reader.value, skip_cons (by decide)]
    rfl
  | number h =>
    have hnumber := h.number_append hrest
    obtain ⟨c, cs, hcs, hc⟩ := h.exists_cons
    rw [hcs, List.cons_append] at hnumber ⊢
    rw [value_number hc hnumber, ← hcs, String.ofList_toList]
  | string h =>
    have hstring := h.string_append rest
    obtain ⟨cs, rfl⟩ := h.exists_cons
    exact value_string hstring
  | emptyArray hgap => simpa using value_emptyArray hgap rest
  | array h =>
    obtain ⟨c, cs, hskip, hc⟩ := h.skip_append (']' :: rest)
    simp only [List.length_cons, List.length_append, List.length_nil] at hlength
    rw [List.cons_append, List.append_assoc]
    exact value_array hskip hc (ih.items h (by omega) rest)
  | emptyObject hgap => simpa using value_emptyObject hgap rest
  | object h =>
    obtain ⟨cs, hskip⟩ := h.skip_append ('\x7d' :: rest)
    simp only [List.length_cons, List.length_append, List.length_nil] at hlength
    rw [List.cons_append, List.append_assoc]
    exact value_object hskip (by decide) (ih.members h (by omega) rest)

/-- The items that the next depth is enough for. -/
lemma ReadsAt.items_succ {js : List Json} (ih : ReadsAt depth) (h : ItemsText js t)
    (hlength : t.length + 1 < depth + 1) (rest : List Char) :
    Reader.items (depth + 1) (t ++ ']' :: rest) = some (js, rest) := by
  cases h with
  | last h =>
    obtain ⟨cs, hvalue, hskip⟩ := ih.padded h (by omega) (show ']' ∈ _ by decide) rest
    simp [Reader.items, hvalue, hskip]
  | @cons j js t ts h hs =>
    simp only [List.length_append, List.length_cons] at hlength
    obtain ⟨cs, hvalue, hskip⟩ := ih.padded h (by omega) (show ',' ∈ _ by decide) (ts ++ ']' :: rest)
    rw [List.append_assoc, List.cons_append]
    simp [Reader.items, hvalue, hskip, ih.items hs (by omega) rest]

/-- The members that the next depth is enough for. -/
lemma ReadsAt.members_succ {ms : List (Option String × Json)} (ih : ReadsAt depth)
    (h : MembersText ms t) (hlength : t.length + 1 < depth + 1) (rest : List Char) :
    Reader.members (depth + 1) (t ++ '\x7d' :: rest) = some (ms, rest) := by
  cases h with
  | last h =>
    obtain ⟨cs, ds, es, hname, hcolon, hvalue, hskip⟩ :=
      ih.member h (by omega) (show '\x7d' ∈ _ by decide) rest
    simp [Reader.members, hname, hcolon, hvalue, hskip]
  | @cons m ms t ts h hs =>
    simp only [List.length_append, List.length_cons] at hlength
    obtain ⟨cs, ds, es, hname, hcolon, hvalue, hskip⟩ :=
      ih.member h (by omega) (show ',' ∈ _ by decide) (ts ++ '\x7d' :: rest)
    rw [List.append_assoc, List.cons_append]
    simp [Reader.members, hname, hcolon, hvalue, hskip, ih.members hs (by omega) rest]

/-- **The reader finds the value of every text** that its depth is enough for. -/
theorem readsAt (depth : ℕ) : ReadsAt depth := by
  induction depth with
  | zero => exact readsAt_zero
  | succ depth ih => exact ⟨ih.value_succ, ih.items_succ, ih.members_succ⟩

/-- **Every text of a value is parsed to it**, however it is written. -/
theorem PaddedText.parse?_eq (h : PaddedText j t) : parse? t = some j := by
  cases h with
  | @padded _ before t behind hbefore h hbehind =>
    have hcloses : Closes behind := fun c hc => .inl (hbehind c (List.mem_of_mem_head? hc))
    have hskip : skip behind = [] := by simpa [skip] using skip_gap hbehind []
    have hvalue : Reader.value ((before ++ (t ++ behind)).length + 1) (before ++ (t ++ behind)) =
        some (j, behind) := by
      rw [← value_skip, skip_gap hbefore, value_skip]
      refine (readsAt _).value h ?_ hcloses
      simp only [List.length_append]
      omega
    rw [parse?, hvalue]
    simp [hskip]

end Finds

/-! ## Printing -/

section Printing

variable {j : Json} {t : List Char}

/-- A hexadecimal digit is printed in lower case. -/
lemma hexDigit_hexDigit {v : ℕ} (hv : v < 16) : HexDigit v (hexDigit v) := by
  have hdigits : ∀ v : Fin 16, hexDigits[v.val]? = some (hexDigit v.val) := by decide
  exact .inl (hdigits ⟨v, hv⟩)

/-- A printed character is one of its texts. -/
lemma charText_printChar (c : Char) : CharText c (printChar c) := by
  unfold printChar
  split_ifs with hquote hbackslash hbell htab hfeed hform hreturn hcontrol
  · exact .short (by simp [shortEscapes, hquote])
  · exact .short (by simp [shortEscapes, hbackslash])
  · exact .short (by simp [shortEscapes, hbell])
  · exact .short (by simp [shortEscapes, htab])
  · exact .short (by simp [shortEscapes, hfeed])
  · exact .short (by simp [shortEscapes, hform])
  · exact .short (by simp [shortEscapes, hreturn])
  · have hzero : HexDigit 0 '0' := .inl rfl
    have hunit := UnitText.digits hzero hzero (hexDigit_hexDigit (v := c.toNat / 16) (by omega))
      (hexDigit_hexDigit (v := c.toNat % 16) (by omega))
    rw [show ((0 * 16 + 0) * 16 + c.toNat / 16) * 16 + c.toNat % 16 = c.toNat by omega] at hunit
    exact .unit hunit
  · exact .plain hquote hbackslash (Nat.not_lt.1 hcontrol)

/-- A printed string is one of its texts. -/
lemma stringText_printText (text : String) : StringText text (printText text) := by
  refine ⟨_, ?_, rfl⟩
  induction text.toList with
  | nil => exact .nil
  | cons c cs ih => exact .cons (charText_printChar c) ih

/-- Without blanks around it, a text is one all the same. -/
lemma ValueText.padded (h : ValueText j t) : PaddedText j t := by
  simpa using @PaddedText.padded j [] t [] nofun h nofun

/-- A printed natural number is a text of it. -/
lemma valueText_ofNat (n : ℕ) : ValueText (.ofNat n) (ofNat n).printChars := by
  rw [ofNat, printChars]
  exact .number (numberText_toString n)

/-- A printed string is a text of its value. -/
lemma valueText_ofText (text : String) : ValueText (.ofText text) (ofText text).printChars := by
  rw [ofText, printChars]
  exact .string (stringText_printText text)

/-- A string with a text is printed as its text. -/
lemma printString_some (text : String) : printString (some text) = printText text := rfl

/-- A printed member is a text of it. -/
lemma memberText_print (name : String) (h : ValueText j t) :
    MemberText (some name, j) (printText name ++ ':' :: t) := by
  simpa using @MemberText.pair name j [] _ [] t nofun (stringText_printText name) nofun h.padded

/-- Printed members are a text of them. -/
lemma membersText_printMembers {ms : List (String × Json)} (hne : ms ≠ [])
    (h : ∀ m ∈ ms, ValueText m.2 m.2.printChars) :
    MembersText (ms.map fun (name, value) => (some name, value))
      (printMembers (ms.map fun (name, value) => (some name, value))) := by
  induction ms with
  | nil => exact absurd rfl hne
  | cons m ms ih =>
    obtain ⟨name, value⟩ := m
    have hm := memberText_print name (h (name, value) List.mem_cons_self)
    cases ms with
    | nil =>
      rw [List.map_cons, List.map_nil, printMembers, printString_some]
      exact .last hm
    | cons m' ms =>
      have hms := ih nofun fun m hm => h m (List.mem_cons_of_mem _ hm)
      rw [List.map_cons] at hms
      rw [List.map_cons, List.map_cons, printMembers, printString_some, ← List.cons_append,
        ← List.append_assoc]
      · exact .cons hm hms
      · exact nofun

/-- **Compact printing** writes a text of an object, if it does of the members. -/
lemma valueText_ofMembers {ms : List (String × Json)} (hne : ms ≠ [])
    (h : ∀ m ∈ ms, ValueText m.2 m.2.printChars) :
    ValueText (.ofMembers ms) (ofMembers ms).print.toList := by
  rw [print, String.toList_ofList, ofMembers, printChars]
  exact .object (membersText_printMembers hne h)

end Printing

end TileCache.Json
