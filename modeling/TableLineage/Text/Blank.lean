/-!
# Blank characters and trimming

`isBlank` is the White_Space property of the Unicode character database: the
ASCII blanks, the next-line control, and the spaces and separators of the
General Punctuation block with their two relatives outside it.
-/

namespace TableLineage.Text

def isBlank (c : Char) : Bool :=
  let code := c.toNat
  (9 ≤ code && code ≤ 13) || code == 32 || code == 133 || code == 160 || code == 5760 ||
    (8192 ≤ code && code ≤ 8202) || code == 8232 || code == 8233 || code == 8239 ||
    code == 8287 || code == 12288

def dropWhileEnd (p : Char → Bool) (text : List Char) : List Char :=
  (text.reverse.dropWhile p).reverse

def trimStart (text : List Char) : List Char := text.dropWhile isBlank

def trimEnd (text : List Char) : List Char := dropWhileEnd isBlank text

def trim (text : List Char) : List Char := trimEnd (trimStart text)

end TableLineage.Text
