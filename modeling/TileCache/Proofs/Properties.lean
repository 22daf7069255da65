import TileCache.Properties
import TileCache.Proofs.SortedMap
import TileCache.Proofs.Utf8
set_option autoImplicit false

/-!
# Written metadata is read back

The reader undoes the writer on every map of texts. The writer puts each character down in one of
two ways (`escapeChar_cases`): behind a backslash, perhaps as a letter that stands for it, or bare,
when nothing in its place could take it for something else. Whoever edits the text by hand may put a
backslash before a bare character too. From these two cases follows how each phase of the reader
passes over one character, and from that, how it passes over a key and over a value. No line feed
and no carriage return is ever written bare, so the lines of different entries do not touch each
other.

## Main definitions

* `TileCache.Properties.CharSpelling`, `TileCache.Properties.Spells` — the ways to spell a
  character, and a key or a value, by hand.
* `TileCache.Properties.entryText` — the line of one entry, without its line feed.

## Main results

* `TileCache.Properties.Spells.splitKey_append`, `TileCache.Properties.Spells.unescapeAll_eq` — a
  spelled key and a spelled value are read.
* `TileCache.Properties.lineBinding?_separated` — a line with a separator is read, whatever blanks
  stand around its parts.
* `TileCache.Properties.lineBinding?_entryText` — the line of an entry is read back.
* `TileCache.Properties.encode_injective` — distinct maps are written differently.
* `TileCache.Properties.metadata_round_trip` — a map is read back.
-/

namespace TileCache.Properties

open Text

/-! ## One character -/

/-- **The ways to spell a character** by hand, standing first in its part or not: as it is written,
or, where it is written bare, behind a backslash that does not make a letter stand for something
else. -/
inductive CharSpelling (part : Part) (first : Bool) (c : Char) : List Char → Prop
  | written : CharSpelling part first c (escapeChar part first c)
  | redundant (hbare : escapeChar part first c = [c]) (hletter : c ≠ 'n' ∧ c ≠ 'r' ∧ c ≠ 't') :
    CharSpelling part first c ['\\', c]

/-- **The two ways to write a character**: behind a backslash, or bare if it needs none. In either
case no bare line end is written.

**Proof sketch.** Follow the branches of `escapeChar`. Where the character itself stands behind the
backslash, it must not be one of the letters that stand for something else, and those are never
escaped. -/
lemma escapeChar_cases (part : Part) (first : Bool) (c : Char) :
    (∃ d, escapeChar part first c = ['\\', d] ∧ unescape d = c ∧ d ≠ '\n' ∧ d ≠ '\r') ∨
      (escapeChar part first c = [c] ∧ needsBackslash part first c = false ∧
        c ≠ '\n' ∧ c ≠ '\r') := by
  unfold escapeChar
  split_ifs with hn hr ht hb
  · exact .inl ⟨'n', rfl, by simp [unescape, hn], by decide, by decide⟩
  · exact .inl ⟨'r', rfl, by simp [unescape, hr], by decide, by decide⟩
  · exact .inl ⟨'t', rfl, by simp [unescape, ht], by decide, by decide⟩
  · refine .inl ⟨c, rfl, ?_, hn, hr⟩
    have hletter : c ≠ 'n' ∧ c ≠ 'r' ∧ c ≠ 't' := by
      refine ⟨?_, ?_, ?_⟩ <;>
        · rintro rfl
          revert hb
          cases part <;> cases first <;> decide
    simp [unescape, hletter]
  · exact .inr ⟨rfl, by simpa using hb, hn, hr⟩

/-- A bare character is no backslash. -/
lemma ne_backslash_of_bare {part : Part} {first : Bool} {c : Char}
    (h : needsBackslash part first c = false) : c ≠ '\\' := by
  rintro rfl
  simp [needsBackslash] at h

/-- A bare character of a key does not end the key. -/
lemma endsKey_of_bare {first : Bool} {c : Char} (h : needsBackslash .key first c = false) :
    endsKey c = false := by
  simp_all [needsBackslash, endsKey]

namespace CharSpelling

variable {part : Part} {first : Bool} {c : Char} {piece : List Char}

/-- Spelled by hand, a character stands behind a backslash or bare, just as when it is written. -/
lemma backslash_or_bare (h : CharSpelling part first c piece) :
    (∃ d, piece = ['\\', d] ∧ unescape d = c ∧ d ≠ '\n' ∧ d ≠ '\r') ∨
      (piece = [c] ∧ needsBackslash part first c = false ∧ c ≠ '\n' ∧ c ≠ '\r') := by
  cases h with
  | written => exact escapeChar_cases part first c
  | redundant hbare hletter =>
    rcases escapeChar_cases part first c with ⟨d, hd, -⟩ | ⟨-, -, hn, hr⟩
    · simp [hbare] at hd
    · exact .inl ⟨c, rfl, by simp [unescape, hletter], hn, hr⟩

/-- One spelled character is resolved to itself. -/
lemma unescapeAll_append (h : CharSpelling part first c piece) (rest : List Char) :
    unescapeAll (piece ++ rest) = c :: unescapeAll rest := by
  rcases h.backslash_or_bare with ⟨d, rfl, hc, -, -⟩ | ⟨rfl, hbare, -, -⟩
  · simp [unescapeAll, hc]
  · simp [unescapeAll, ne_backslash_of_bare hbare]

/-- One spelled character of a key is read as a part of the key. -/
lemma splitKey_append (h : CharSpelling .key first c piece) (rest : List Char) :
    splitKey (piece ++ rest) = (c :: (splitKey rest).1, (splitKey rest).2) := by
  rcases h.backslash_or_bare with ⟨d, rfl, hc, -, -⟩ | ⟨rfl, hbare, -, -⟩
  · simp [splitKey, hc]
  · simp [splitKey, ne_backslash_of_bare hbare, endsKey_of_bare hbare]

/-- No line end is spelled bare. -/
lemma lineEnd_not_mem (h : CharSpelling part first c piece) : '\n' ∉ piece ∧ '\r' ∉ piece := by
  rcases h.backslash_or_bare with ⟨d, rfl, -, hn, hr⟩ | ⟨rfl, -, hn, hr⟩
  · simp [hn.symm, hr.symm]
  · simp [hn.symm, hr.symm]

/-- Standing first, it begins neither with a blank nor, in a key, with a comment mark. -/
lemma exists_eq_cons (h : CharSpelling part true c piece) :
    ∃ d rest, piece = d :: rest ∧ isBlank d = false ∧ (part = .key → d ≠ '#' ∧ d ≠ '!') := by
  rcases h.backslash_or_bare with ⟨d, rfl, -, -, -⟩ | ⟨rfl, hbare, -, -⟩
  · exact ⟨'\\', [d], rfl, by decide, fun _ => by decide⟩
  · refine ⟨c, [], rfl, ?_, ?_⟩
    · simp_all [needsBackslash]
    · rintro rfl
      simp_all [needsBackslash]

end CharSpelling

/-! ## One key or value -/

/-- **The ways to spell a key or a value** by hand, or what is left of it behind its first
character: each of its characters in one of the ways to spell that. -/
inductive Spells (part : Part) : Bool → List Char → List Char → Prop
  | nil (first : Bool) : Spells part first [] []
  | cons {first : Bool} {c : Char} {cs piece text : List Char}
      (hc : CharSpelling part first c piece) (hcs : Spells part false cs text) :
    Spells part first (c :: cs) (piece ++ text)

/-- What the writer writes is one of the ways to spell it. -/
lemma spells_escape (part : Part) (cs : List Char) : Spells part true cs (escape part cs) := by
  have hlater : ∀ cs : List Char, Spells part false cs (cs.flatMap (escapeChar part false)) := by
    intro cs
    induction cs with
    | nil => exact .nil false
    | cons c cs ih => exact .cons .written ih
  cases cs with
  | nil => exact .nil true
  | cons c cs => exact .cons .written (hlater cs)

namespace Spells

variable {part : Part} {first : Bool} {cs text : List Char}

/-- **A spelled key or value is resolved to itself.** -/
lemma unescapeAll_eq (h : Spells part first cs text) : unescapeAll text = cs := by
  induction h with
  | nil => rfl
  | cons hc _ ih => rw [hc.unescapeAll_append, ih]

/-- **A spelled key is read up to what ends a key**, or up to the end of the line. -/
lemma splitKey_append (h : Spells .key first cs text) {rest : List Char}
    (hrest : ∀ c, rest.head? = some c → endsKey c = true) :
    splitKey (text ++ rest) = (cs, rest) := by
  induction h with
  | nil =>
    cases rest with
    | nil => rfl
    | cons c rest =>
      have hend := hrest c rfl
      have hc : c ≠ '\\' := by
        rintro rfl
        cases hend
      simp [splitKey, hc, hend]
  | cons hc _ ih => rw [List.append_assoc, hc.splitKey_append, ih]

/-- It holds no bare line end. -/
lemma lineEnd_not_mem (h : Spells part first cs text) : '\n' ∉ text ∧ '\r' ∉ text := by
  induction h with
  | nil => simp
  | cons hc _ ih => simp [hc.lineEnd_not_mem, ih]

/-- It begins neither with a blank nor, if it is a key, with a comment mark. -/
lemma exists_eq_cons (h : Spells part true cs text) (hcs : cs ≠ []) :
    ∃ d rest, text = d :: rest ∧ isBlank d = false ∧ (part = .key → d ≠ '#' ∧ d ≠ '!') := by
  cases h with
  | nil => exact absurd rfl hcs
  | cons hc hlater =>
    obtain ⟨d, rest, rfl, hd⟩ := hc.exists_eq_cons
    exact ⟨d, rest ++ _, rfl, hd⟩

/-- There is nothing to trim before it. -/
lemma trimStart_eq (h : Spells part true cs text) : trimStart text = text := by
  rcases eq_or_ne cs [] with rfl | hcs
  · cases h
    rfl
  · obtain ⟨d, rest, rfl, hblank, -⟩ := h.exists_eq_cons hcs
    exact trimStart_of_not_blank hblank

end Spells

/-! ## One line -/

/-- Blanks before a text are trimmed away with those at its start. -/
lemma trimStart_append {blanks : List Char} (h : ∀ c ∈ blanks, isBlank c = true)
    (cs : List Char) : trimStart (blanks ++ cs) = trimStart cs :=
  List.dropWhile_append_of_pos h

/-- Behind blanks, a separator and blanks, what is left of a line is its value. -/
lemma skipSeparator_append {w₁ w₂ value text : List Char} {s : Char}
    (hw₁ : ∀ c ∈ w₁, isBlank c = true) (hs : s = '=' ∨ s = ':')
    (hw₂ : ∀ c ∈ w₂, isBlank c = true) (hvalue : Spells .value true value text) :
    skipSeparator (w₁ ++ s :: (w₂ ++ text)) = text := by
  have htrim : trimStart (s :: (w₂ ++ text)) = s :: (w₂ ++ text) :=
    trimStart_of_not_blank (by rcases hs with rfl | rfl <;> decide)
  have hsep : (s == '=' || s == ':') = true := by
    rcases hs with rfl | rfl <;> rfl
  rw [skipSeparator, trimStart_append hw₁, htrim]
  simp only [hsep, if_true, trimStart_append hw₂, hvalue.trimStart_eq]

/-- The key of a line and what is left of it, if the key, or what follows it, is neither blank nor
a comment. -/
lemma lineBinding?_append {w₀ key text rest : List Char} (hw₀ : ∀ c ∈ w₀, isBlank c = true)
    (hkey : Spells .key true key text) (hrest : ∀ c, rest.head? = some c → endsKey c = true)
    (hstart : ∃ d cs, text ++ rest = d :: cs ∧ isBlank d = false ∧ d ≠ '#' ∧ d ≠ '!') :
    lineBinding? (w₀ ++ (text ++ rest)) =
      some (String.ofList key, String.ofList (unescapeAll (skipSeparator rest))) := by
  obtain ⟨d, cs, hd, hblank, hcomment⟩ := hstart
  have hsplit : splitKey (d :: cs) = (key, rest) := by
    rw [← hd, hkey.splitKey_append hrest]
  rw [lineBinding?, trimStart_append hw₀, hd, trimStart_of_not_blank hblank]
  simp [hcomment, hsplit]

/-- **A line with a separator is read**: blanks may stand before the key, before the separator and
behind it.

**Proof sketch.** If there is a key, it is read up to the blanks or the separator behind it. If the
key is empty, the blanks before the separator are those before the key, and the line begins with the
separator. -/
lemma lineBinding?_separated {w₀ w₁ w₂ key keyText value valueText : List Char} {s : Char}
    (hw₀ : ∀ c ∈ w₀, isBlank c = true) (hkey : Spells .key true key keyText)
    (hw₁ : ∀ c ∈ w₁, isBlank c = true) (hs : s = '=' ∨ s = ':')
    (hw₂ : ∀ c ∈ w₂, isBlank c = true) (hvalue : Spells .value true value valueText) :
    lineBinding? (w₀ ++ (keyText ++ (w₁ ++ s :: (w₂ ++ valueText)))) =
      some (String.ofList key, String.ofList value) := by
  have hsep : endsKey s = true ∧ isBlank s = false ∧ s ≠ '#' ∧ s ≠ '!' := by
    rcases hs with rfl | rfl <;> decide
  have hskip (w : List Char) (hw : ∀ c ∈ w, isBlank c = true) :
      skipSeparator (w ++ s :: (w₂ ++ valueText)) = valueText :=
    skipSeparator_append hw hs hw₂ hvalue
  rcases eq_or_ne key [] with rfl | hne
  · cases hkey
    have hblanks : ∀ c ∈ w₀ ++ w₁, isBlank c = true := by
      simpa [or_imp, forall_and] using ⟨hw₀, hw₁⟩
    have hend : ∀ c, (s :: (w₂ ++ valueText)).head? = some c → endsKey c = true := by
      simp [hsep]
    have hline := lineBinding?_append hblanks (.nil true) hend ⟨s, _, rfl, hsep.2⟩
    rw [List.nil_append, ← List.append_assoc]
    rwa [← List.nil_append (s :: (w₂ ++ valueText)), hskip [] (by simp),
      hvalue.unescapeAll_eq] at hline
  · obtain ⟨d, cs, hd, hblank, hcomment⟩ := hkey.exists_eq_cons hne
    have hrest : ∀ c, (w₁ ++ s :: (w₂ ++ valueText)).head? = some c → endsKey c = true := by
      cases w₁ with
      | nil => simp [hsep]
      | cons b w₁ => simp [endsKey, hw₁ b (by simp)]
    rw [lineBinding?_append hw₀ hkey hrest ⟨d, _, by rw [hd]; rfl, hblank, hcomment rfl⟩,
      hskip w₁ hw₁, hvalue.unescapeAll_eq]

/-- The line of one entry, without its line feed. -/
def entryText (key value : String) : List Char :=
  escape .key key.toList ++ '=' :: escape .value value.toList

/-- An entry is written as its line and a line feed. -/
lemma entryLine_eq (key value : String) : entryLine key value = entryText key value ++ ['\n'] := by
  simp [entryLine, entryText]

/-- The line of an entry holds no line end. -/
lemma lineEnd_not_mem_entryText (key value : String) :
    '\n' ∉ entryText key value ∧ '\r' ∉ entryText key value := by
  simp [entryText, (spells_escape _ _).lineEnd_not_mem]

/-- **The line of an entry is read back.** -/
lemma lineBinding?_entryText (key value : String) :
    lineBinding? (entryText key value) = some (key, value) := by
  have hnone : ∀ c ∈ ([] : List Char), isBlank c = true := by simp
  have hline := lineBinding?_separated hnone (spells_escape .key key.toList) hnone (.inl rfl) hnone
    (spells_escape .value value.toList)
  simpa [entryText] using hline

/-- From a line without carriage returns none is dropped. -/
lemma dropReturn_of_not_mem {line : List Char} (h : '\r' ∉ line) : dropReturn line = line :=
  if_neg fun hlast => h (List.mem_of_getLast? hlast)

/-! ## All lines -/

/-- A line ends at its first line feed. -/
lemma linesFrom_append (start line rest : List Char) (h : '\n' ∉ line) :
    linesFrom start (line ++ '\n' :: rest) =
      dropReturn (start.reverse ++ line) :: linesFrom [] rest := by
  induction line generalizing start with
  | nil => simp [linesFrom]
  | cons c line ih =>
    simp only [List.mem_cons, not_or] at h
    simp [linesFrom, Ne.symm h.1, ih _ h.2]

/-- Without a line feed, all that is left belongs to the line that was begun. -/
lemma linesFrom_of_feed_not_mem (start : List Char) {line : List Char} (h : '\n' ∉ line)
    (hne : start.reverse ++ line ≠ []) : linesFrom start line = [start.reverse ++ line] := by
  induction line generalizing start with
  | nil =>
    rw [List.append_nil] at hne
    simp [linesFrom, List.reverse_ne_nil_iff.1 hne]
  | cons c line ih =>
    simp only [List.mem_cons, not_or] at h
    have hrest := ih (c :: start) h.2 (by simp)
    simpa [linesFrom, Ne.symm h.1] using hrest

/-- A text without line feeds is one line, if it is not empty. -/
lemma lines_of_feed_not_mem {line : List Char} (h : '\n' ∉ line) (hne : line ≠ []) :
    lines line = [line] :=
  linesFrom_of_feed_not_mem [] h hne

/-- A text without line feeds and then a line feed is one line. -/
lemma lines_append_feed {line : List Char} (h : '\n' ∉ line) :
    lines (line ++ ['\n']) = [dropReturn line] := by
  rw [lines, linesFrom_append [] line [] h]
  rfl

/-- A carriage return and a line feed end a line too. -/
lemma lines_append_return_feed {line : List Char} (h : '\n' ∉ line) :
    lines (line ++ ['\r', '\n']) = [line] := by
  have hreturn : '\n' ∉ line ++ ['\r'] := by simp [h]
  have hline := lines_append_feed hreturn
  rw [List.append_assoc] at hline
  simpa [dropReturn] using hline

/-- The lines of written entries are one for each entry. -/
lemma lines_flatMap_entryLine (entries : List (String × String)) :
    lines (entries.flatMap fun e => entryLine e.1 e.2) =
      entries.map fun e => entryText e.1 e.2 := by
  unfold lines
  induction entries with
  | nil => rfl
  | cons first rest ih =>
    obtain ⟨hfeed, hreturn⟩ := lineEnd_not_mem_entryText first.1 first.2
    rw [List.flatMap_cons, entryLine_eq, List.append_assoc, List.singleton_append,
      linesFrom_append _ _ _ hfeed, ih]
    simp [dropReturn_of_not_mem hreturn]

/-- The text of a map is read as that map. -/
lemma ofText_encodeChars (m : Properties) : ofText m.encodeChars = m := by
  have hlines : lines m.encodeChars = m.entries.map fun e => entryText e.1 e.2 :=
    lines_flatMap_entryLine m.entries
  have hread : (lineBinding? ∘ fun e : String × String => entryText e.1 e.2) = some := by
    funext e
    exact lineBinding?_entryText e.1 e.2
  rw [ofText, hlines, List.filterMap_map, hread, List.filterMap_some, SortedMap.ofList_entries]

/-- Reading stored metadata gives the map that was stored. -/
lemma decode_encode (m : Properties) : decode (encode m) = .ok m := by
  rw [decode, encode, Utf8.decode_encode]
  simp [ofText_encodeChars]

/-- Distinct maps have distinct octets. -/
lemma encode_injective {m n : Properties} (h : encode n = encode m) : n = m := by
  have hn := decode_encode n
  rw [h, decode_encode m] at hn
  exact (Except.ok.inj hn).symm

/-- **The metadata codec round trip**: whatever texts a map holds, its octets are read without error
and give exactly that map; so no other map has the same octets. -/
theorem metadata_round_trip (m : Properties) :
    decode (encode m) = .ok m ∧ ∀ n : Properties, encode n = encode m → n = m := by
  refine ⟨decode_encode m, ?_⟩
  intro n h
  exact encode_injective h

end TileCache.Properties
