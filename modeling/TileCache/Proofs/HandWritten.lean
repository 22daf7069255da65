import TileCache.Proofs.Properties
set_option autoImplicit false

/-!
# Lines written by hand

Who edits stored metadata by hand need not keep to the form of the writer. Blanks may stand at the
start of a line, around the separator and in its place, the separator may be a colon, the last line
may go without a line end, and backslashes may stand where none is needed. All these lines are read
as the same entry.

A carriage return counts as a blank, and the one before a line feed is dropped with it. So a line
that ends in blanks may lose one of them before it is looked at; what is left is a line of the same
entry (`HandWritten.dropReturn`).

## Main definitions

* `TileCache.Properties.Blanks` — blanks within a line.
* `TileCache.Properties.HandWritten` — the lines of an entry, with a separator and without.

## Main results

* `TileCache.Properties.HandWritten.lineBinding?_eq` — a line of an entry is read as that entry.
* `TileCache.Properties.decode_handWritten_line` — so are the octets of one such line.
-/

namespace TileCache.Properties

open Text

/-- Blanks that do not end the line they stand in. -/
def Blanks (w : List Char) : Prop :=
  ∀ c ∈ w, isBlank c = true ∧ c ≠ '\n'

/-- **The lines of an entry** as they may be written by hand. Without a separator the key must not
be empty, blanks must stand before a value, and the value must not begin as a separator would. -/
inductive HandWritten (key value : List Char) : List Char → Prop
  | separated {w₀ w₁ w₂ keyText valueText : List Char} {s : Char} (hw₀ : Blanks w₀)
      (hkey : Spells .key true key keyText) (hw₁ : Blanks w₁) (hs : s = '=' ∨ s = ':')
      (hw₂ : Blanks w₂) (hvalue : Spells .value true value valueText) :
    HandWritten key value (w₀ ++ (keyText ++ (w₁ ++ s :: (w₂ ++ valueText))))
  | spaced {w₀ w₁ keyText valueText : List Char} (hw₀ : Blanks w₀)
      (hkey : Spells .key true key keyText) (hne : key ≠ []) (hw₁ : Blanks w₁)
      (hgap : w₁ = [] → valueText = []) (hvalue : Spells .value true value valueText)
      (hstart : ∀ c, valueText.head? = some c → c ≠ '=' ∧ c ≠ ':') :
    HandWritten key value (w₀ ++ (keyText ++ (w₁ ++ valueText)))

/-! ## Blanks -/

namespace Blanks

variable {w : List Char}

/-- They are blanks if each passes the test. -/
lemma of_all (h : w.all (fun c => Text.isBlank c && c != '\n') = true) : Blanks w := by
  simpa [Blanks] using h

/-- All of them are blank. -/
lemma isBlank (h : Blanks w) : ∀ c ∈ w, isBlank c = true :=
  fun c hc => (h c hc).1

/-- There is no line feed among them. -/
lemma feed_not_mem (h : Blanks w) : '\n' ∉ w :=
  fun hc => (h _ hc).2 rfl

/-- Without a carriage return at the end they are still blanks. -/
lemma dropReturn (h : Blanks w) : Blanks (dropReturn w) := by
  unfold Properties.dropReturn
  split_ifs
  · exact fun c hc => h c (List.dropLast_subset w hc)
  · exact h

end Blanks

/-- A carriage return is dropped at the end only. -/
lemma dropReturn_append {start : List Char} (h : start.getLast? ≠ some '\r') (rest : List Char) :
    dropReturn (start ++ rest) = start ++ dropReturn rest := by
  unfold dropReturn
  cases rest with
  | nil => simp [h]
  | cons c rest =>
    rw [List.getLast?_append_of_ne_nil start (List.cons_ne_nil c rest),
      List.dropLast_append_of_ne_nil (List.cons_ne_nil c rest)]
    split_ifs <;> rfl

/-- Blanks and a value without the carriage return at their end: the value is the same, and so are
the blanks, if there is a value. -/
lemma exists_dropReturn_append {w text value : List Char} (hw : Blanks w)
    (hvalue : Spells .value true value text) :
    ∃ w', Blanks w' ∧ (text ≠ [] → w' = w) ∧ dropReturn (w ++ text) = w' ++ text := by
  rcases eq_or_ne text [] with rfl | hne
  · exact ⟨dropReturn w, hw.dropReturn, fun h => absurd rfl h, by simp⟩
  · refine ⟨w, hw, fun _ => rfl, if_neg fun hlast => ?_⟩
    rw [List.getLast?_append_of_ne_nil w hne] at hlast
    exact hvalue.lineEnd_not_mem.2 (List.mem_of_getLast? hlast)

/-! ## One line -/

namespace HandWritten

variable {key value line : List Char}

/-- **A line of an entry is read as that entry.**

**Proof sketch.** With a separator this is `lineBinding?_separated`. Without one the key ends at the
blanks behind it, or with the line; what is skipped behind it are these blanks and no separator. -/
lemma lineBinding?_eq (h : HandWritten key value line) :
    lineBinding? line = some (String.ofList key, String.ofList value) := by
  cases h with
  | separated hw₀ hkey hw₁ hs hw₂ hvalue =>
    exact lineBinding?_separated hw₀.isBlank hkey hw₁.isBlank hs hw₂.isBlank hvalue
  | @spaced w₀ w₁ keyText valueText hw₀ hkey hne hw₁ hgap hvalue hstart =>
    obtain ⟨d, cs, hd, hblank, hcomment⟩ := hkey.exists_eq_cons hne
    have hend : ∀ c, (w₁ ++ valueText).head? = some c → endsKey c = true := by
      cases w₁ with
      | nil => simp [hgap rfl]
      | cons b w₁ => simp [endsKey, hw₁.isBlank b (by simp)]
    have hskip : skipSeparator (w₁ ++ valueText) = valueText := by
      rw [skipSeparator, trimStart_append hw₁.isBlank, hvalue.trimStart_eq]
      cases valueText with
      | nil => rfl
      | cons c cs => simp [hstart c rfl]
    rw [lineBinding?_append hw₀.isBlank hkey hend ⟨d, _, by rw [hd]; rfl, hblank, hcomment rfl⟩,
      hskip, hvalue.unescapeAll_eq]

/-- **A line of an entry is still one without the carriage return at its end**, if it has one.

**Proof sketch.** Neither a separator nor a spelled key ends in a carriage return, so the one that is
dropped is the last of the blanks behind them. -/
lemma dropReturn (h : HandWritten key value line) : HandWritten key value (dropReturn line) := by
  cases h with
  | @separated w₀ w₁ w₂ keyText valueText s hw₀ hkey hw₁ hs hw₂ hvalue =>
    obtain ⟨w, hw, -, htail⟩ := exists_dropReturn_append hw₂ hvalue
    have hlast : (w₀ ++ keyText ++ w₁ ++ [s]).getLast? ≠ some '\r' := by
      rcases hs with rfl | rfl <;> simp
    have hdrop := dropReturn_append hlast (w₂ ++ valueText)
    simp only [htail, List.append_assoc, List.singleton_append] at hdrop
    rw [hdrop]
    exact separated hw₀ hkey hw₁ hs hw hvalue
  | @spaced w₀ w₁ keyText valueText hw₀ hkey hne hw₁ hgap hvalue hstart =>
    obtain ⟨w, hw, hsame, htail⟩ := exists_dropReturn_append hw₁ hvalue
    have hgap' : w = [] → valueText = [] := by
      intro hnil
      by_contra hvalueText
      exact hvalueText (hgap ((hsame hvalueText).symm.trans hnil))
    have hlast : (w₀ ++ keyText).getLast? ≠ some '\r' := by
      obtain ⟨d, cs, hd, -⟩ := hkey.exists_eq_cons hne
      rw [List.getLast?_append_of_ne_nil w₀ (by simp [hd])]
      exact fun h => hkey.lineEnd_not_mem.2 (List.mem_of_getLast? h)
    have hdrop := dropReturn_append hlast (w₁ ++ valueText)
    simp only [htail, List.append_assoc] at hdrop
    rw [hdrop]
    exact spaced hw₀ hkey hne hw hgap' hvalue hstart

/-- It holds no line feed. -/
lemma feed_not_mem (h : HandWritten key value line) : '\n' ∉ line := by
  cases h with
  | separated hw₀ hkey hw₁ hs hw₂ hvalue =>
    rcases hs with rfl | rfl <;>
      simp [hw₀.feed_not_mem, hkey.lineEnd_not_mem, hw₁.feed_not_mem, hw₂.feed_not_mem,
        hvalue.lineEnd_not_mem]
  | spaced hw₀ hkey hne hw₁ hgap hvalue hstart =>
    simp [hw₀.feed_not_mem, hkey.lineEnd_not_mem, hw₁.feed_not_mem, hvalue.lineEnd_not_mem]

/-- It is not empty. -/
lemma ne_nil (h : HandWritten key value line) : line ≠ [] := by
  rintro rfl
  cases h.lineBinding?_eq

/-- **However it is ended, it is the one line of its text**, perhaps without a carriage return. -/
lemma exists_lines_eq (h : HandWritten key value line) {lineEnd : List Char}
    (hend : lineEnd ∈ [[], ['\n'], ['\r', '\n']]) :
    ∃ l, HandWritten key value l ∧ lines (line ++ lineEnd) = [l] := by
  simp only [List.mem_cons, List.not_mem_nil, or_false] at hend
  rcases hend with rfl | rfl | rfl
  · refine ⟨line, h, ?_⟩
    rw [List.append_nil, lines_of_feed_not_mem h.feed_not_mem h.ne_nil]
  · exact ⟨_, h.dropReturn, lines_append_feed h.feed_not_mem⟩
  · exact ⟨line, h, lines_append_return_feed h.feed_not_mem⟩

/-- Its octets are read as the map of the one entry. -/
lemma decode_eq (h : HandWritten key value line) {lineEnd : List Char}
    (hend : lineEnd ∈ [[], ['\n'], ['\r', '\n']]) :
    decode (Utf8.encode (String.ofList (line ++ lineEnd))) =
      .ok (.ofList [(String.ofList key, String.ofList value)]) := by
  obtain ⟨l, hl, hlines⟩ := h.exists_lines_eq hend
  rw [decode, Utf8.decode_encode]
  simp only [String.toList_ofList, ofText, hlines, List.filterMap_cons, hl.lineBinding?_eq,
    List.filterMap_nil]

end HandWritten

/-- **Hand-written lines of an entry are read alike.** Let a key and a value be spelled with no
backslashes but those of the writer, or with more before characters that the writer leaves bare,
except the letters `n`, `r` and `t`. Put blanks before the key and around the separator, which may be
`=` or `:`, and end the line with a line feed, with a carriage return before it or without, or not
at all. The octets of this line are read as the map of the one entry. The separator may be left
out, if the key is not empty, there are blanks between key and value, and the spelled value begins
neither with `=` nor with `:`.

**Proof sketch.** The text is one line. A carriage return that is dropped from its end is a blank,
so what is left of it is a line of the entry as well, and that is read as the entry. -/
theorem decode_handWritten_line (key value : String) :
    Spells .key true key.toList (escape .key key.toList) ∧
      Spells .value true value.toList (escape .value value.toList) ∧
      ∀ keyText valueText w₀ w₁ w₂ lineEnd : List Char,
        Spells .key true key.toList keyText → Spells .value true value.toList valueText →
        Blanks w₀ → Blanks w₁ → Blanks w₂ → lineEnd ∈ [[], ['\n'], ['\r', '\n']] →
        (∀ s, s = '=' ∨ s = ':' →
          decode (Utf8.encode (String.ofList
            (w₀ ++ keyText ++ w₁ ++ [s] ++ w₂ ++ valueText ++ lineEnd))) =
              .ok (.ofList [(key, value)])) ∧
        (key ≠ "" → w₁ ≠ [] → (∀ c, valueText.head? = some c → c ≠ '=' ∧ c ≠ ':') →
          decode (Utf8.encode (String.ofList (w₀ ++ keyText ++ w₁ ++ valueText ++ lineEnd))) =
            .ok (.ofList [(key, value)])) := by
  refine ⟨spells_escape .key _, spells_escape .value _, ?_⟩
  intro keyText valueText w₀ w₁ w₂ lineEnd hkey hvalue hw₀ hw₁ hw₂ hend
  refine ⟨fun s hs => ?_, fun hne hgap hstart => ?_⟩
  · have hline := (HandWritten.separated hw₀ hkey hw₁ hs hw₂ hvalue).decode_eq hend
    simpa using hline
  · have hne' : key.toList ≠ [] := by simpa using hne
    have hline := (HandWritten.spaced hw₀ hkey hne' hw₁ (fun h => absurd h hgap) hvalue
      hstart).decode_eq hend
    simpa using hline

/-- The key begins like a comment and the value like a separator. Two backslashes more than needed
are put, and the blanks before the separator end with a carriage return. -/
theorem decode_handWritten_marks :
    decode (Utf8.encode " \\#\\a\t\r:\u00a0\\=b\r\n") = .ok (.ofList [("#a", "=b")]) ∧
      decode (Utf8.encode " \\#\\a\t\r\\=b\r\n") = .ok (.ofList [("#a", "=b")]) := by
  obtain ⟨-, -, hread⟩ := decode_handWritten_line "#a" "=b"
  have hkey : Spells .key true "#a".toList ['\\', '#', '\\', 'a'] :=
    .cons .written (.cons (.redundant rfl (by decide)) (.nil false))
  have hvalue : Spells .value true "=b".toList ['\\', '=', 'b'] :=
    .cons (.redundant rfl (by decide)) (.cons .written (.nil false))
  obtain ⟨hseparated, hspaced⟩ := hread _ _ [' '] ['\t', '\r'] ['\u00a0'] ['\r', '\n'] hkey hvalue
    (.of_all (by decide)) (.of_all (by decide)) (.of_all (by decide)) (by decide)
  exact ⟨hseparated ':' (.inr rfl), hspaced (by decide) (by decide) (by simp)⟩

end TileCache.Properties
