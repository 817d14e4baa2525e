import AccountRelay.Text
/-!
# Blanks and words

A blank is a character of the Unicode property `White_Space`, or one of the four information
separators U+001C to U+001F. Words are the longest runs without a blank.
-/

namespace AccountRelay.Text

def blanks : Runs :=
  [(0x0009, 0x000D), (0x001C, 0x0020), (0x0085, 0x0085), (0x00A0, 0x00A0), (0x1680, 0x1680),
    (0x2000, 0x200A), (0x2028, 0x2029), (0x202F, 0x202F), (0x205F, 0x205F), (0x3000, 0x3000)]

def isBlank (c : Symbol) : Bool := blanks.has c

/-- The words of a text, and whether it starts inside the first of them. -/
def wordsFrom : Text → List Text × Bool
  | [] => ([], false)
  | c :: rest =>
    let (words, inside) := wordsFrom rest
    if isBlank c then (words, false)
    else match inside, words with
      | true, word :: others => ((c :: word) :: others, true)
      | _, words => ([c] :: words, true)

def words (t : Text) : List Text := (wordsFrom t).1

def trimEnd (t : Text) : Text := (t.reverse.dropWhile isBlank).reverse

def trim (t : Text) : Text := trimEnd (t.dropWhile isBlank)

end AccountRelay.Text
