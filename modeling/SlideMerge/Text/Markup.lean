/-!
# Reserved characters of markup

Five characters have a meaning in markup, and text that holds them names each by an entity. Each
kind of character is replaced throughout before the next kind, the ampersand first, so that the
ampersands of entities are left alone.
-/

namespace SlideMerge.Text

/-- The reserved characters with their entities, in the order of their replacement. -/
def entities : List (Char × List Char) :=
  [('&', ['&', 'a', 'm', 'p', ';']), ('>', ['&', 'g', 't', ';']), ('<', ['&', 'l', 't', ';']),
   ('"', ['&', 'q', 'u', 'o', 't', ';']), ('\'', ['&', 'a', 'p', 'o', 's', ';'])]

/-- Replaces a character wherever it stands. -/
def replaceChar (c : Char) (value : List Char) (text : List Char) : List Char :=
  text.flatMap fun d => if d = c then value else [d]

/-- The text with its reserved characters named by entities. -/
def escapeMarkup (text : List Char) : List Char :=
  entities.foldl (fun text (c, entity) => replaceChar c entity text) text

end SlideMerge.Text
