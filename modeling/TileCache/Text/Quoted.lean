import TileCache.Text.Printable
set_option autoImplicit false

/-!
# Quoted texts

Texts inside diagnostic output stand between double quotes. Quotes, backslashes and characters that
are not shown as they are get a backslash form; all other characters stand for themselves.

## Main definitions

* `Text.QuoteStyle` — whether a single quote is escaped too: it is in file paths only.
* `Text.quote`, `Text.quotePath` — a text or a path between quotes.
-/

namespace TileCache.Text

/-- The one decision that differs between quoted texts and quoted paths. -/
structure QuoteStyle where
  /-- Whether a single quote gets a backslash. -/
  escapesSingle : Bool
  deriving DecidableEq, Repr

/-- Plain texts keep their single quotes. -/
def QuoteStyle.text : QuoteStyle := ⟨false⟩

/-- Paths escape their single quotes. -/
def QuoteStyle.path : QuoteStyle := ⟨true⟩

/-- The hexadecimal digits of a code point, lower case and without leading zeros. -/
def hexDigits (n : Nat) : List Char :=
  Nat.toDigits 16 n

/-- One character of a quoted text. -/
def quoteChar (style : QuoteStyle) (c : Char) : List Char :=
  if c = '\x00' then ['\\', '0']
  else if c = '\t' then ['\\', 't']
  else if c = '\r' then ['\\', 'r']
  else if c = '\n' then ['\\', 'n']
  else if c = '"' then ['\\', '"']
  else if c = '\\' then ['\\', '\\']
  else if c = '\x27' && style.escapesSingle then ['\\', c]
  else if isShown c then [c]
  else ['\\', 'u', '\x7b'] ++ hexDigits c.toNat ++ ['\x7d']

/-- A text between double quotes, in the given style. -/
def quoteWith (style : QuoteStyle) (s : String) : String :=
  String.ofList ('"' :: s.toList.flatMap (quoteChar style) ++ ['"'])

/-- A text between double quotes. -/
def quote (s : String) : String :=
  quoteWith .text s

/-- A file path between double quotes. -/
def quotePath (s : String) : String :=
  quoteWith .path s

/-- An optional value in diagnostic output, given the text of the value. -/
def quoteOption (value : Option String) : String :=
  match value with
  | none => "None"
  | some text => s!"Some({text})"

end TileCache.Text
