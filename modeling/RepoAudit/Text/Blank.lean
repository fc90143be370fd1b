import RepoAudit.Text.Search

/-!
White space: the characters that separate words. The class has 29 members, among them the four
information separators `U+001C` to `U+001F`, and neither the zero width space nor the byte order
mark.
-/
namespace RepoAudit

def isBlank (c : Char) : Bool :=
  let n := c.toNat
  (0x09 ≤ n && n ≤ 0x0D) || (0x1C ≤ n && n ≤ 0x20) || n == 0x85 || n == 0xA0 || n == 0x1680
    || (0x2000 ≤ n && n ≤ 0x200A) || n == 0x2028 || n == 0x2029 || n == 0x202F || n == 0x205F
    || n == 0x3000

def Text.trim (t : Text) : Text := trimBoth (·.satisfies isBlank) t

end RepoAudit
