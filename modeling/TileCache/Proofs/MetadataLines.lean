import Mathlib.Logic.Relation
import TileCache.Proofs.Properties
import TileCache.Proofs.Utf8Append
set_option autoImplicit false

/-!
# Stored metadata line by line

A text of metadata is read line by line, and so a text in two parts is read as the map of the second
laid over that of the first, if the parts meet where a line ends. This takes three things: no
character of the octets reaches over a line end, no line of the text does, and of several bindings
of one key the last one counts. A line that is blank or a comment binds nothing, so it may be put
wherever a line ends.

## Main definitions

* `TileCache.Properties.Idle`, `TileCache.Properties.IdleLine` — a blank line or a comment, and such
  a line with its line end.
* `TileCache.Properties.AddsIdleLine` — one such line more where a line ends.

## Main results

* `TileCache.Properties.lines_append` — the lines of a text in two parts.
* `TileCache.Properties.decode_append_of_ok` — the map of octets in two parts.
* `TileCache.Properties.toOption_decode_of_idle` — lines that bind nothing make no difference.
* `TileCache.Properties.decode_line_by_line` — stored metadata is read line by line.
-/

namespace TileCache.Properties

open Text

/-! ## Texts in two parts -/

/-- No line reaches over a line end. -/
lemma linesFrom_append_of_getLast? {x : List Char} (h : x.getLast? = some '\n')
    (start y : List Char) : linesFrom start (x ++ y) = linesFrom start x ++ lines y := by
  induction x generalizing start with
  | nil => cases h
  | cons c x ih =>
    rw [List.getLast?_cons, Option.some_inj] at h
    cases hlast : x.getLast? with
    | none =>
      rw [hlast, Option.getD_none] at h
      obtain rfl := List.getLast?_eq_none_iff.1 hlast
      simp only [List.cons_append, List.nil_append, linesFrom, if_pos h, if_true, lines]
    | some d =>
      rw [hlast, Option.getD_some] at h
      have hrest := ih (hlast.trans (congrArg some h))
      by_cases hc : c = '\n'
      · simp only [List.cons_append, linesFrom, if_pos hc, hrest]
      · simp only [List.cons_append, linesFrom, if_neg hc, hrest]

/-- **The lines of a text in two parts**, of which the first ends a line. -/
lemma lines_append {x : List Char} (hx : EndsLine '\n' x) (y : List Char) :
    lines (x ++ y) = lines x ++ lines y := by
  rcases hx with rfl | hlast
  · rfl
  · exact linesFrom_append_of_getLast? hlast [] y

/-- The map of a text in two parts, of which the first ends a line. -/
lemma ofText_append {x : List Char} (hx : EndsLine '\n' x) (y : List Char) :
    ofText (x ++ y) = (ofText x).overlay (ofText y) := by
  rw [ofText, lines_append hx, List.filterMap_append, SortedMap.ofList_append, ← ofText, ← ofText]

/-- **The last line wins**: a key has the value of the last line that binds it. -/
lemma find?_ofText_eq_some_iff {cs : List Char} {key value : String} :
    (ofText cs).find? key = some value ↔
      ∃ earlier line later, lines cs = earlier ++ line :: later ∧
        lineBinding? line = some (key, value) ∧
        ∀ l ∈ later, ∀ v, lineBinding? l ≠ some (key, v) := by
  rw [ofText, SortedMap.find?_ofList_eq_some_iff]
  constructor
  · rintro ⟨bound, rebound, hsplit, hlater⟩
    obtain ⟨earlier, tail, hlines, rfl, htail⟩ := List.filterMap_eq_append_iff.1 hsplit
    obtain ⟨skipped, line, later, rfl, hskipped, hline, rfl⟩ := List.filterMap_eq_cons_iff.1 htail
    refine ⟨earlier ++ skipped, line, later, by simpa using hlines, hline, fun l hl v hbinding => ?_⟩
    exact hlater (key, v) (List.mem_filterMap.2 ⟨l, hl, hbinding⟩) rfl
  · rintro ⟨earlier, line, later, hlines, hline, hlater⟩
    refine ⟨earlier.filterMap lineBinding?, later.filterMap lineBinding?, ?_, fun e he hkey => ?_⟩
    · rw [hlines, List.filterMap_append, List.filterMap_cons_some hline]
    · obtain ⟨l, hl, hbinding⟩ := List.mem_filterMap.1 he
      exact hlater l hl e.2 (hkey ▸ hbinding)

/-! ## Octets in two parts -/

/-- Octets that are text are read as the map of that text. -/
lemma decode_eq_ok_iff {data : Octets} {m : Properties} :
    decode data = .ok m ↔ ∃ cs, Utf8.decodeFrom 0 data = .ok cs ∧ m = ofText cs := by
  unfold decode Utf8.decode
  cases Utf8.decodeFrom 0 data with
  | error f => simp
  | ok cs => simp [eq_comm]

/-- Octets cannot be read just if they are no text. -/
lemma decode_eq_error_iff {data : Octets} {e : StorageError} :
    decode data = .error e ↔
      ∃ f, Utf8.decodeFrom 0 data = .error f ∧ e = .metadata (.notUtf8 f) := by
  unfold decode Utf8.decode
  cases Utf8.decodeFrom 0 data with
  | error f => simp [eq_comm]
  | ok cs => simp

section Append

variable {a b : Octets} {m n : Properties}

/-- A fault in the first part is that of the whole. -/
lemma decode_append_of_error (ha : EndsLine 0x0A a) {e : StorageError}
    (h : decode a = .error e) : decode (a ++ b) = .error e := by
  obtain ⟨f, hf, rfl⟩ := decode_eq_error_iff.1 h
  refine decode_eq_error_iff.2 ⟨f, ?_, rfl⟩
  rw [Utf8.decodeFrom_append ha, hf]
  rfl

/-- A fault in the second part is that of the whole, further on, if there is none in the first. -/
lemma decode_append_of_ok_of_error (ha : EndsLine 0x0A a) (hm : decode a = .ok m)
    {f : Utf8.Fault} (h : decode b = .error (.metadata (.notUtf8 f))) :
    decode (a ++ b) = .error (.metadata (.notUtf8 (f.later a.length))) := by
  obtain ⟨cs, hcs, -⟩ := decode_eq_ok_iff.1 hm
  obtain ⟨f', hf, heq⟩ := decode_eq_error_iff.1 h
  cases heq
  refine decode_eq_error_iff.2 ⟨_, ?_, rfl⟩
  rw [Utf8.decodeFrom_append ha, hcs, Utf8.decodeFrom_add, hf]
  rfl

/-- **The map of octets in two parts** is that of the second laid over that of the first. -/
lemma decode_append_of_ok (ha : EndsLine 0x0A a) (hm : decode a = .ok m) (hn : decode b = .ok n) :
    decode (a ++ b) = .ok (m.overlay n) := by
  obtain ⟨x, hx, rfl⟩ := decode_eq_ok_iff.1 hm
  obtain ⟨y, hy, rfl⟩ := decode_eq_ok_iff.1 hn
  refine decode_eq_ok_iff.2 ⟨x ++ y, ?_, (ofText_append (Utf8.endsLine_of_decodeFrom ha hx) y).symm⟩
  rw [Utf8.decodeFrom_append ha, hx, Utf8.decodeFrom_add, hy]
  rfl

/-- Octets in two parts can be read just if both can. -/
lemma toOption_decode_append (ha : EndsLine 0x0A a) :
    (decode (a ++ b)).toOption = (do
      let m ← (decode a).toOption
      let n ← (decode b).toOption
      return m.overlay n) := by
  cases hm : decode a with
  | error e =>
    rw [decode_append_of_error ha hm]
    rfl
  | ok m =>
    cases hn : decode b with
    | ok n =>
      rw [decode_append_of_ok ha hm hn]
      rfl
    | error e =>
      obtain ⟨f, hf, rfl⟩ := decode_eq_error_iff.1 hn
      rw [decode_append_of_ok_of_error ha hm hn]
      rfl

end Append

/-! ## Lines that bind nothing -/

/-- Whether a line is blank, or a comment with perhaps blanks before it. -/
def Idle (line : List Char) : Prop :=
  ∃ blanks comment, line = blanks ++ comment ∧ (∀ c ∈ blanks, isBlank c = true) ∧
    ∀ c, comment.head? = some c → c = '#' ∨ c = '!'

/-- A line that is blank or a comment binds nothing. -/
lemma Idle.lineBinding?_eq_none {line : List Char} (h : Idle line) : lineBinding? line = none := by
  obtain ⟨blanks, comment, rfl, hblanks, hcomment⟩ := h
  rw [lineBinding?, trimStart_append hblanks]
  cases comment with
  | nil => rfl
  | cons c comment =>
    rcases hcomment c rfl with rfl | rfl <;> rfl

/-- Without its last character it is still blank or a comment. -/
lemma Idle.dropLast {line : List Char} (h : Idle line) : Idle line.dropLast := by
  obtain ⟨blanks, comment, rfl, hblanks, hcomment⟩ := h
  rcases List.eq_nil_or_concat comment with rfl | ⟨start, last, rfl⟩
  · refine ⟨blanks.dropLast, [], by simp, fun c hc => ?_, nofun⟩
    exact hblanks c (List.dropLast_subset blanks hc)
  · refine ⟨blanks, start, by simp [← List.append_assoc], hblanks, fun c hc => ?_⟩
    exact hcomment c (by simp [hc])

/-- It may end with a carriage return. -/
lemma Idle.dropReturn {line : List Char} (h : Idle line) : Idle (dropReturn line) := by
  unfold Properties.dropReturn
  split_ifs
  · exact h.dropLast
  · exact h

/-- A line that binds nothing, with its line end. -/
structure IdleLine where
  text : List Char
  lineEnd : List Char
  idle : Idle text
  feed_not_mem : '\n' ∉ text
  lineEnd_eq : lineEnd = ['\n'] ∨ lineEnd = ['\r', '\n']

namespace IdleLine

/-- A comment, ended by a carriage return and a line feed. -/
def comment (text : List Char) (h : '\n' ∉ text) : IdleLine where
  text := '#' :: text
  lineEnd := ['\r', '\n']
  idle := ⟨[], '#' :: text, rfl, nofun, fun c hc => .inl (by simpa using hc.symm)⟩
  feed_not_mem := by simpa using h
  lineEnd_eq := .inr rfl

variable (line : IdleLine)

/-- The line as it is stored. -/
def octets : Octets :=
  Utf8.encode (String.ofList (line.text ++ line.lineEnd))

/-- It ends a line. -/
lemma endsLine_octets : EndsLine 0x0A line.octets := by
  right
  unfold octets Utf8.encode
  rcases line.lineEnd_eq with h | h
  · rw [h, String.toList_ofList, List.flatMap_append, List.getLast?_append]
    rfl
  · rw [h, String.toList_ofList, List.flatMap_append, List.getLast?_append]
    rfl

/-- It is one line, blank or a comment. -/
lemma exists_lines_eq : ∃ l, Idle l ∧ lines (line.text ++ line.lineEnd) = [l] := by
  rcases line.lineEnd_eq with h | h
  · refine ⟨Properties.dropReturn line.text, line.idle.dropReturn, ?_⟩
    rw [h, lines_append_feed line.feed_not_mem]
  · refine ⟨line.text, line.idle, ?_⟩
    rw [h, lines_append_return_feed line.feed_not_mem]

/-- It binds nothing. -/
lemma decode_octets : decode line.octets = .ok .empty := by
  obtain ⟨l, hidle, hlines⟩ := line.exists_lines_eq
  rw [decode, octets, Utf8.decode_encode]
  simp only [String.toList_ofList, ofText, hlines, List.filterMap_cons,
    hidle.lineBinding?_eq_none, List.filterMap_nil]
  rfl

end IdleLine

/-- One line that binds nothing more, put where a line ends or at the start. -/
inductive AddsIdleLine : Octets → Octets → Prop
  | mk (a b : Octets) (line : IdleLine) (ha : EndsLine 0x0A a) :
    AddsIdleLine (a ++ b) (a ++ line.octets ++ b)

/-- **Lines that bind nothing make no difference**, wherever they stand and however many there are.
-/
lemma toOption_decode_of_idle {data data' : Octets}
    (h : Relation.ReflTransGen AddsIdleLine data data') :
    (decode data').toOption = (decode data).toOption := by
  induction h with
  | refl => rfl
  | tail _ hstep ih =>
    rw [← ih]
    obtain ⟨a, b, line, ha⟩ := hstep
    rw [List.append_assoc, toOption_decode_append ha, toOption_decode_append ha,
      toOption_decode_append line.endsLine_octets, line.decode_octets]
    simp [Except.toOption]

/-- **Stored metadata is read line by line.**

* Let octets be in two parts, of which the first is empty or ends with a line feed. They cannot be
  read just if one of the parts cannot: a fault in the first part is that of the whole, and a fault
  in the second is that of the whole further on, if the first can be read. Otherwise they are read
  as the map of the second part laid over that of the first.
* Lines that are blank or comments, ended by a line feed with or without a carriage return before
  it, may be put wherever a line ends and at the start, as many as one likes: the map that is read
  stays the same, and what cannot be read stays so.
* In the map that is read a key has the value of the last line that binds it.

**Proof sketch.** A line feed continues no character, so the decoder comes to the end of the first
part between two characters, and what it reads there ends with a line feed. So no line reaches over
it, and the bindings of the whole are those of the first part and then those of the second. A line
that binds nothing is a part with the empty map. -/
theorem decode_line_by_line :
    (∀ a b : Octets, EndsLine 0x0A a →
      ((∃ e, decode (a ++ b) = .error e) ↔ (∃ e, decode a = .error e) ∨ ∃ e, decode b = .error e) ∧
      (∀ e, decode a = .error e → decode (a ++ b) = .error e) ∧
      (∀ m f, decode a = .ok m → decode b = .error (.metadata (.notUtf8 f)) →
        decode (a ++ b) = .error (.metadata (.notUtf8 (f.later a.length)))) ∧
      ∀ m n, decode a = .ok m → decode b = .ok n → decode (a ++ b) = .ok (m.overlay n) ∧
        ∀ key, (m.overlay n).find? key = (n.find? key).or (m.find? key)) ∧
    (∀ data data' : Octets, Relation.ReflTransGen AddsIdleLine data data' →
      (decode data').toOption = (decode data).toOption) ∧
    ∀ (data : Octets) (m : Properties), decode data = .ok m →
      ∃ text, Utf8.decode data = .ok text ∧ ∀ key value,
        m.find? key = some value ↔
          ∃ earlier line later, lines text.toList = earlier ++ line :: later ∧
            lineBinding? line = some (key, value) ∧
            ∀ l ∈ later, ∀ v, lineBinding? l ≠ some (key, v) := by
  refine ⟨fun a b ha => ⟨?_, fun e he => decode_append_of_error ha he,
    fun m f hm hf => decode_append_of_ok_of_error ha hm hf,
    fun m n hm hn => ⟨decode_append_of_ok ha hm hn, m.find?_overlay n⟩⟩,
    fun data data' h => toOption_decode_of_idle h, fun data m hm => ?_⟩
  · cases hm : decode a with
    | error e => simp [decode_append_of_error ha hm]
    | ok m =>
      cases hn : decode b with
      | ok n => simp [decode_append_of_ok ha hm hn]
      | error e =>
        obtain ⟨f, -, rfl⟩ := decode_eq_error_iff.1 hn
        simp [decode_append_of_ok_of_error ha hm hn]
  · obtain ⟨cs, hcs, rfl⟩ := decode_eq_ok_iff.1 hm
    refine ⟨String.ofList cs, by rw [Utf8.decode, hcs]; rfl, fun key value => ?_⟩
    rw [String.toList_ofList]
    exact find?_ofText_eq_some_iff

/-- A title is set twice, the second time on a line without line end, and between them stands a
comment. The second title counts, the comment does not, and a fault behind the first line is counted
from the start. -/
theorem decode_title_set_twice :
    let roads := Utf8.encode "title=Roads\n"
    let streets := Utf8.encode " title : Streets"
    let comment := IdleLine.comment [' ', 'w', 'a', 's', ' ', 'A', '1'] (by decide)
    ∃ m : Properties, m.find? "title" = some "Streets" ∧ decode (roads ++ streets) = .ok m ∧
      (decode (roads ++ comment.octets ++ streets)).toOption = some m ∧
      decode (roads ++ [0x61, 0xff]) = .error (.metadata (.notUtf8 ⟨13, some 1⟩)) := by
  intro roads streets comment
  have hroads : EndsLine 0x0A roads := .inr (by decide +kernel)
  have hfirst : decode roads = .ok (.ofList [("title", "Roads")]) := by
    decide +kernel
  have hsecond : decode streets = .ok (.ofList [("title", "Streets")]) := by
    decide +kernel
  have hfault : decode [0x61, 0xff] = .error (.metadata (.notUtf8 ⟨1, some 1⟩)) := by
    decide +kernel
  obtain ⟨hparts, hidle, -⟩ := decode_line_by_line
  obtain ⟨-, -, -, hboth⟩ := hparts roads streets hroads
  obtain ⟨-, -, hlater, -⟩ := hparts roads [0x61, 0xff] hroads
  obtain ⟨hwhole, hfind⟩ := hboth _ _ hfirst hsecond
  refine ⟨_, (hfind "title").trans (by decide +kernel), hwhole, ?_, hlater _ _ hfirst hfault⟩
  rw [hidle _ _ (.single (.mk roads streets comment hroads)), hwhole]
  rfl

end TileCache.Properties
