/-!
White space. A character is blank when it has the Unicode property White_Space; trimming takes
blanks off the ends of a text and nothing else.
-/

set_option autoImplicit false

namespace StatusPage.Text

/-- The Unicode property White_Space. -/
def isBlank (c : Char) : Bool :=
  let n := c.toNat
  (9 ≤ n && n ≤ 13) || n == 0x20 || n == 0x85 || n == 0xA0 || n == 0x1680 ||
    (0x2000 ≤ n && n ≤ 0x200A) || n == 0x2028 || n == 0x2029 || n == 0x202F || n == 0x205F ||
    n == 0x3000

def dropBlanks (text : List Char) : List Char := text.dropWhile isBlank

def dropEndBlanks (text : List Char) : List Char := (text.reverse.dropWhile isBlank).reverse

def trim (text : List Char) : List Char := dropEndBlanks (dropBlanks text)

def trimString (text : String) : String := String.ofList (trim text.toList)

def collapse (text : List Char) : List Char :=
  let step (state : List Char × Bool) (c : Char) : List Char × Bool :=
    if isBlank c then (state.1, true)
    else (c :: (if state.2 && !state.1.isEmpty then ' ' :: state.1 else state.1), false)
  (text.foldl step ([], false)).1.reverse

end StatusPage.Text
