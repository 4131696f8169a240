import JobNotice.Mail.Base64
import JobNotice.Text.Blank
import JobNotice.Text.CodePoints
import JobNotice.Text.Utf8

/-!
# Header fields

A long header is folded: a line end comes before some of its spaces. Words that are not plain text
are written as encoded words, in base64 between marks. Spaces wait until something follows them,
because that decides whether a line ends before them.

## Main definitions

* `Mail.HeaderText` — what has been written of a header
* `Mail.HeaderText.putWords` — plain words, folded
* `Mail.HeaderText.putEncoded` — encoded words
* `Mail.headerOf` — the header of a text
* `Mail.unfold`, `Mail.decodeWords` — the text of a header
-/

namespace JobNotice.Mail

/-- The greatest length of a line of a header. -/
def headerLimit : Nat := 76

/-- What has been written of a header. -/
structure HeaderText where
  written : List Char
  /-- The length of the last line, in bytes. -/
  column : Nat
  /-- Spaces that are still to be written. -/
  spaces : Nat
  /-- Whether something stands on the last line before which a line end is of use. -/
  canFold : Bool

namespace HeaderText

/-- Nothing of the header with a name, which stands on the first line with a colon and a space. -/
def start (name : String) : HeaderText := ⟨[], Text.utf8Length name.toList + 2, 0, false⟩

def space (h : HeaderText) : HeaderText := { h with spaces := h.spaces + 1 }

/-- Ends the line. -/
def newLine (h : HeaderText) : HeaderText :=
  { h with written := h.written ++ ['\r', '\n'], column := 0, canFold := false }

/-- Writes waiting spaces and a text. -/
def put (h : HeaderText) (s : List Char) : HeaderText :=
  { written := h.written ++ List.replicate h.spaces ' ' ++ s
    column := h.column + h.spaces + Text.utf8Length s
    spaces := 0
    canFold := true }

/-- Writes a word, on a new line when it does not fit and spaces come before it. -/
def putWord (h : HeaderText) (word : List Char) : HeaderText :=
  if h.canFold ∧ h.spaces ≠ 0 ∧ headerLimit < h.column + h.spaces + Text.utf8Length word then
    h.newLine.put word
  else h.put word

/-- Writes the words of a text. -/
def putWords (h : HeaderText) (s : List Char) : HeaderText :=
  match Text.splitChars ' ' s with
  | [] => h
  | first :: rest =>
    let word (h : HeaderText) (w : List Char) : HeaderText :=
      if w.isEmpty then h else h.putWord w
    rest.foldl (fun h w => word h.space w) (word h first)

/-- The header, with spaces at its end. -/
def finish (h : HeaderText) : List Char := h.written ++ List.replicate h.spaces ' '

/-! ### Encoded words -/

/-- The characters at the start of a text that take at most so many bytes. -/
def takeBytes (count : Nat) : List Char → List Char
  | [] => []
  | c :: r => if c.utf8Size ≤ count then c :: takeBytes (count - c.utf8Size) r else []

/-- How many bytes an encoded word may stand for that goes on the last line. -/
def roomForEncoded (h : HeaderText) : Nat := (headerLimit - (h.column + h.spaces + 12)) / 4 * 3

/-- An encoded word. -/
def encodedWord (s : List Char) : List Char :=
  "=?utf-8?b?".toList ++ Base64.encode (Text.utf8Bytes s) ++ "?=".toList

/-- Writes the first characters of a text as an encoded word, at least one, and gives the others.
When none fits, the line ends before the word, if there is a space or another encoded word to end
it after. -/
def putChunk (h : HeaderText) (follows : Bool) (c : Char) (r : List Char) :
    HeaderText × List Char :=
  let chunkOn (h : HeaderText) : List Char :=
    match takeBytes h.roomForEncoded (c :: r) with
    | [] => [c]
    | chunk => chunk
  if h.roomForEncoded < c.utf8Size ∧ (follows ∨ h.spaces ≠ 0) then
    let h := if h.spaces = 0 then h.newLine.space else h.newLine
    (h.put (encodedWord (chunkOn h)), (c :: r).drop (chunkOn h).length)
  else (h.put (encodedWord (chunkOn h)), (c :: r).drop (chunkOn h).length)

/-- Writes a text as encoded words, of which there are at most `count`. -/
def putEncodedFrom : Nat → Bool → HeaderText → List Char → HeaderText
  | count + 1, follows, h, c :: r =>
    let (h, rest) := h.putChunk follows c r
    putEncodedFrom count true h rest
  | _, _, h, _ => h

/-- Writes a text as encoded words. -/
def putEncoded (h : HeaderText) (s : List Char) : HeaderText := putEncodedFrom s.length false h s

end HeaderText

/-! ### Headers of texts -/

/-- Whether a character may stand in a header: ASCII without NUL, line feed and carriage return. -/
def isHeaderChar (c : Char) : Bool :=
  let n := c.toNat
  (1 ≤ n && n ≤ 9) || n == 11 || n == 12 || (14 ≤ n && n ≤ 127)

/-- The words of a text, each with the space after it. -/
def spacedWords : List (List Char) → List (List Char)
  | [] => []
  | [last] => if last.isEmpty then [] else [last]
  | w :: r => (w ++ [' ']) :: spacedWords r

/-- Writes the words that wait to be encoded; spaces at their end stay spaces. -/
def flush (h : HeaderText) (waiting : List Char) : HeaderText :=
  let words := Text.dropEndWhile (· = ' ') waiting
  let h := h.putEncoded words
  { h with spaces := h.spaces + (waiting.length - words.length) }

/-- Writes words, encoding runs of words that may not stand in a header. -/
def putMixed (h : HeaderText) (waiting : List Char) : List (List Char) → HeaderText
  | [] => flush h waiting
  | w :: r =>
    if w.all isHeaderChar then putMixed ((flush h waiting).putWords w) [] r
    else putMixed h (waiting ++ w) r

/-- The header of a text under a name. -/
def headerOf (name : String) (s : String) : String :=
  String.ofList
    (putMixed (.start name) [] (spacedWords (Text.splitChars ' ' s.toList))).finish

/-! ### Reading headers -/

/-- A header without its line ends. -/
def unfold : List Char → List Char
  | [] => []
  | '\r' :: '\n' :: r => unfold r
  | c :: r => c :: unfold r

/-- The text of an encoded word, none when a word is no encoded word. -/
def ofEncodedWord? (word : List Char) : Option (List Char) :=
  let opening := "=?utf-8?b?".toList
  if opening.isPrefixOf word ∧ "?=".toList.isSuffixOf word ∧ opening.length + 2 ≤ word.length then
    do Text.ofUtf8? (← Base64.decode? ((word.drop opening.length).dropLast.dropLast))
  else none

/-- The text of words with spaces between them, `gap` being the spaces before the next word and one
more after the last. Encoded words are decoded, and spaces between two of them are not part of the
text. -/
def decodeWordsFrom (gap : List Char) (afterEncoded : Bool) : List (List Char) → List Char
  | [] => gap.dropLast
  | w :: r =>
    if w.isEmpty then decodeWordsFrom (' ' :: gap) afterEncoded r
    else
      match ofEncodedWord? w with
      | some s => (if afterEncoded then s else gap ++ s) ++ decodeWordsFrom [' '] true r
      | none => gap ++ w ++ decodeWordsFrom [' '] false r

/-- The text of an unfolded header. -/
def decodeWords (s : List Char) : List Char := decodeWordsFrom [] false (Text.splitChars ' ' s)

end JobNotice.Mail
