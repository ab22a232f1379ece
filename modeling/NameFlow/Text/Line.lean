/-!
# Lines and words of a text

A line ends at a newline, and a carriage return just before the newline belongs to the line
end. Words are the stretches between white space, which is the Unicode property White_Space.
-/

namespace NameFlow.Text

set_option autoImplicit false

def isBlank (c : Char) : Bool :=
  let n := c.toNat
  (0x09 ≤ n && n ≤ 0x0D) || n = 0x20 || n = 0x85 || n = 0xA0 || n = 0x1680 ||
    (0x2000 ≤ n && n ≤ 0x200A) || n = 0x2028 || n = 0x2029 || n = 0x202F || n = 0x205F || n = 0x3000

/-- A line without the carriage return of its line end. -/
def dropReturn : List Char → List Char
  | [] => []
  | ['\r'] => []
  | c :: cs => c :: dropReturn cs

/-- The lines of a text whose first line starts with characters already read, last first. -/
def linesFrom (read : List Char) : List Char → List (List Char)
  | [] => if read.isEmpty then [] else [read.reverse]
  | c :: cs =>
    if c = '\n' then dropReturn read.reverse :: linesFrom [] cs else linesFrom (c :: read) cs

/-- The lines of a text; a text that ends in a newline has no empty line after it. -/
def lines (cs : List Char) : List (List Char) := linesFrom [] cs

/-- The words of a text whose first word starts with characters already read, last first. -/
def wordsFrom (read : List Char) : List Char → List (List Char)
  | [] => if read.isEmpty then [] else [read.reverse]
  | c :: cs =>
    if isBlank c then
      if read.isEmpty then wordsFrom [] cs else read.reverse :: wordsFrom [] cs
    else wordsFrom (c :: read) cs

def words (cs : List Char) : List (List Char) := wordsFrom [] cs

/-- A text without the white space around it. -/
def trim (cs : List Char) : List Char :=
  ((cs.dropWhile isBlank).reverse.dropWhile isBlank).reverse

/-- What a line says: a number sign starts a comment, and white space around is no part of it. -/
def content (line : List Char) : List Char := trim (line.takeWhile (· ≠ '#'))

/-- Lines with their numbers, counted from one. -/
def numberedLines (text : String) : List (Nat × List Char) :=
  (lines text.toList).zipIdx.map fun (line, i) => (i + 1, line)

end NameFlow.Text
