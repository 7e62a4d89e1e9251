import ContractFixtures.Text.Recent

/-!
# Characters in messages

A message shows a character between apostrophes. Characters that print nothing of their own, or
that would combine with the apostrophe, are shown by their code point.
-/

namespace ContractFixtures.Text

/-- Characters that extend the one before them although they are no nonspacing or enclosing
marks, as inclusive ranges of code points. -/
def otherExtenders : List (Nat × Nat) :=
  [(0x9be, 0x9be), (0x9d7, 0x9d7), (0xb3e, 0xb3e), (0xb57, 0xb57), (0xbbe, 0xbbe),
   (0xbd7, 0xbd7), (0xcc0, 0xcc0), (0xcc2, 0xcc2), (0xcc7, 0xcc8), (0xcca, 0xccb),
   (0xcd5, 0xcd6), (0xd3e, 0xd3e), (0xd57, 0xd57), (0xdcf, 0xdcf), (0xddf, 0xddf),
   (0x1715, 0x1715), (0x1734, 0x1734), (0x1b35, 0x1b35), (0x1b3b, 0x1b3b), (0x1b3d, 0x1b3d),
   (0x1b43, 0x1b44), (0x1baa, 0x1baa), (0x1bf2, 0x1bf3), (0x200c, 0x200c), (0x302e, 0x302f),
   (0xa953, 0xa953), (0xa9c0, 0xa9c0), (0x111c0, 0x111c0), (0x11235, 0x11235),
   (0x1133e, 0x1133e), (0x1134d, 0x1134d), (0x11357, 0x11357), (0x113b8, 0x113b8),
   (0x113c2, 0x113c2), (0x113c5, 0x113c5), (0x113c7, 0x113c9), (0x113cf, 0x113cf),
   (0x114b0, 0x114b0), (0x114bd, 0x114bd), (0x115af, 0x115af), (0x116b6, 0x116b6),
   (0x11930, 0x11930), (0x1193d, 0x1193d), (0x11f41, 0x11f41), (0x16ff0, 0x16ff1),
   (0x1d165, 0x1d166), (0x1d16d, 0x1d172), (0xe0020, 0xe007f)]

/-- Characters that extend the one before them. The halfwidth sound marks stand for themselves. -/
def isExtender (c : Char) : Bool :=
  match recentCategory c with
  | .nonspacingMark | .enclosingMark => true
  | _ => otherExtenders.any fun (first, last) => first ≤ c.toNat && c.toNat ≤ last

/-- Characters that show something of their own: no separators but the space, and no fillers. -/
def isPrintable (c : Char) : Bool :=
  c == ' '
    || !(recentCategory c).isInvisible && !Property.holds Property.defaultIgnorableCodePoint c

/-- The digits of a number in base 16, lower case, without leading zeros. -/
def hexDigits (n : Nat) : List Char :=
  Nat.toDigits 16 n

/-- How a character stands between apostrophes: control characters with a short form by that
form, the apostrophe and the backslash behind a backslash, what does not print as `\u` and the
code point in braces. -/
def escapeChar (c : Char) : List Char :=
  if c == '\x00' then ['\\', '0']
  else if c == '\t' then ['\\', 't']
  else if c == '\r' then ['\\', 'r']
  else if c == '\n' then ['\\', 'n']
  else if c == '\'' then ['\\', '\'']
  else if c == '\\' then ['\\', '\\']
  else if isPrintable c && !isExtender c then [c]
  else ['\\', 'u', '\x7b'] ++ hexDigits c.toNat ++ ['\x7d']

/-- A character between apostrophes. -/
def quoteChar (c : Char) : String :=
  String.ofList (['\''] ++ escapeChar c ++ ['\''])

end ContractFixtures.Text
