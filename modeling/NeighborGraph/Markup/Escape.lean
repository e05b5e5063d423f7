/-!
Characters that markup reserves.

In text, `<`, `>` and `&` are written as entities; in attribute values also both quotes. `unescape`
undoes the five entities.
-/

namespace NeighborGraph.Markup

/-- A character of text between tags. -/
def escapeTextChar : Char → List Char
  | '&' => ['&', 'a', 'm', 'p', ';']
  | '<' => ['&', 'l', 't', ';']
  | '>' => ['&', 'g', 't', ';']
  | c => [c]

/-- A character of an attribute value. -/
def escapeValueChar : Char → List Char
  | '"' => ['&', 'q', 'u', 'o', 't', ';']
  | '\'' => ['&', 'a', 'p', 'o', 's', ';']
  | c => escapeTextChar c

/-- Text as it is written between tags. -/
def escapeText (text : List Char) : List Char := text.flatMap escapeTextChar

/-- A value as it is written between the quotes of an attribute. -/
def escapeValue (value : List Char) : List Char := value.flatMap escapeValueChar

/-- The text that stands for itself or is written by one of the five entities; an ampersand that
opens no entity stands for itself. -/
def unescape : List Char → List Char
  | '&' :: 'a' :: 'm' :: 'p' :: ';' :: rest => '&' :: unescape rest
  | '&' :: 'l' :: 't' :: ';' :: rest => '<' :: unescape rest
  | '&' :: 'g' :: 't' :: ';' :: rest => '>' :: unescape rest
  | '&' :: 'q' :: 'u' :: 'o' :: 't' :: ';' :: rest => '"' :: unescape rest
  | '&' :: 'a' :: 'p' :: 'o' :: 's' :: ';' :: rest => '\'' :: unescape rest
  | c :: rest => c :: unescape rest
  | [] => []

end NeighborGraph.Markup
