import NeighborGraph.Markup.Escape

/-!
Markup trees and their text.

An element without content is one empty tag. Otherwise each piece of content starts on a new line
and so does the end tag; only inline text stays on the line of its tags.
-/

namespace NeighborGraph

/-- An attribute: its name and its value. -/
abbrev Attribute := String × String

/-- A piece of markup. -/
inductive Markup where
  /-- An element with its attributes in the order in which they are written, and its content. -/
  | element (tag : String) (attributes : List Attribute) (content : List Markup)
  /-- Text on the line of the tags around it. -/
  | inlineText (text : String)
  /-- Text on a line of its own. -/
  | textLine (text : String)

namespace Markup

/-- The piece stays on the line of the tags around it. -/
def isInline : Markup → Bool
  | inlineText _ => true
  | _ => false

/-- An attribute with the blank in front of it. -/
def attributeChars (a : Attribute) : List Char :=
  ' ' :: a.1.toList ++ '=' :: '"' :: escapeValue a.2.toList ++ ['"']

/-- A tag's name and attributes. -/
def tagChars (tag : String) (attributes : List Attribute) : List Char :=
  tag.toList ++ attributes.flatMap attributeChars

/-- The end tag of an element. -/
def endTagChars (tag : String) : List Char := '<' :: '/' :: tag.toList ++ ['>']

/-- The end tag stands on a new line unless inline text comes last. -/
def closingBreak (content : List Markup) : List Char :=
  match content.getLast? with
  | some last => if last.isInline then [] else ['\n']
  | none => []

mutual

/-- The text of a piece of markup. -/
def chars : Markup → List Char
  | element tag attributes content =>
    if content.isEmpty then '<' :: tagChars tag attributes ++ ['/', '>']
    else
      '<' :: tagChars tag attributes ++ '>' :: contentChars content ++ closingBreak content ++
        endTagChars tag
  | inlineText text => escapeText text.toList
  | textLine text => escapeText text.toList

/-- The text of the pieces between two tags, each that is not inline on a new line. -/
def contentChars : List Markup → List Char
  | [] => []
  | piece :: rest =>
    (if piece.isInline then chars piece else '\n' :: chars piece) ++ contentChars rest

end

/-- The text of a piece of markup. -/
def render (m : Markup) : String := String.ofList m.chars

end Markup

end NeighborGraph
