/-!
# Text in HTML

Five characters are written as entities. Escaping goes over the text once for each of them, the
ampersand first, so that the ampersands of the other entities are not escaped again.

## Main definitions

* `Text.substitute` — one character replaced by a text
* `Text.escapeHtml` — the five characters replaced in turn
* `Text.htmlEntity?`, `Text.escapeOnce` — the entities, and all of them put in a single pass
* `Text.unescapeHtml` — the five entities read back in a single pass
-/

namespace JobNotice.Text

/-- Every occurrence of a character replaced by a text. -/
def substitute (target : Char) (image : List Char) (s : List Char) : List Char :=
  s.flatMap fun c => if c = target then image else [c]

/-- The text of a value between tags or in a quoted attribute. -/
def escapeHtml (s : List Char) : List Char :=
  substitute '\'' "&#39;".toList
    (substitute '"' "&quot;".toList
      (substitute '>' "&gt;".toList
        (substitute '<' "&lt;".toList
          (substitute '&' "&amp;".toList s))))

/-- The entity of a character that is not written as it is. -/
def htmlEntity? (c : Char) : Option (List Char) :=
  if c = '&' then some "&amp;".toList
  else if c = '<' then some "&lt;".toList
  else if c = '>' then some "&gt;".toList
  else if c = '"' then some "&quot;".toList
  else if c = '\'' then some "&#39;".toList
  else none

/-- All entities put in a single pass. -/
def escapeOnce (s : List Char) : List Char := s.flatMap fun c => (htmlEntity? c).getD [c]

/-- Reads the five entities in a single pass; all else stays as it is. -/
def unescapeHtml : List Char → List Char
  | '&' :: 'a' :: 'm' :: 'p' :: ';' :: r => '&' :: unescapeHtml r
  | '&' :: 'l' :: 't' :: ';' :: r => '<' :: unescapeHtml r
  | '&' :: 'g' :: 't' :: ';' :: r => '>' :: unescapeHtml r
  | '&' :: 'q' :: 'u' :: 'o' :: 't' :: ';' :: r => '"' :: unescapeHtml r
  | '&' :: '#' :: '3' :: '9' :: ';' :: r => '\'' :: unescapeHtml r
  | c :: r => c :: unescapeHtml r
  | [] => []

/-- The text of a value in HTML. -/
def htmlText (s : String) : String := String.ofList (escapeHtml s.toList)

end JobNotice.Text
