import UptimeAlert.Text.Search

namespace UptimeAlert.Text

def isWhiteSpace (c : Char) : Bool :=
  let n := c.toNat
  (9 ≤ n && n ≤ 13) || n == 0x20 || n == 0x85 || n == 0xA0 || n == 0x1680 ||
    (0x2000 ≤ n && n ≤ 0x200A) || n == 0x2028 || n == 0x2029 || n == 0x202F || n == 0x205F ||
    n == 0x3000

/-- White space or one of the information separators. -/
def isBlank (c : Char) : Bool :=
  isWhiteSpace c || (0x1C ≤ c.toNat && c.toNat ≤ 0x1F)

def isSpaceOrTab (c : Char) : Bool :=
  c = ' ' || c = '\t'

/-- A text without the blanks around it. -/
def strip (cs : List Char) : List Char :=
  trim isBlank cs

end UptimeAlert.Text
