import EscapeAudit.Text.CategoryTable

/-!
# Characters with a picture

A character has a picture of its own unless it is a control, a format, a surrogate, private or
unassigned, a separator other than the ASCII space, or a letter that fills an empty place.  A mark
that attaches to the character before it has no picture of its own either.  Marks without a width
and marks around a character always attach, and some of the marks with a width do.  The
seventeenth edition of the character database counts here.
-/

namespace EscapeAudit.Text

/-- The marks with a width that attach to the character before. -/
def attachingSpacingMarks : CharSet := .ofText "
  9BE 9D7 B3E B57 BBE BD7 CC0 CC2 CC7-CC8 CCA-CCB CD5-CD6 D3E D57 DCF DDF 1715 1734 1B35 1B3B 1B3D
  1B43-1B44 1BAA 1BF2-1BF3 302E-302F A953 A9C0 111C0 11235 1133E 1134D 11357 113B8 113C2 113C5
  113C7-113C9 113CF 114B0 114BD 115AF 116B6 11930 1193D 11F41 16FF0-16FF1 1D165-1D166 1D16D-1D172"

/-- Letters that fill an empty place and show nothing. -/
def fillers : CharSet := .ofText "115F 1160 3164 FFA0"

/-- The marks that attach to the character before. -/
def attaching : CharSet :=
  (Category.charsAll .seventeenth [.mn, .me]).union attachingSpacingMarks

/-- The characters that show nothing. -/
def hidden : CharSet :=
  (Category.charsAll .seventeenth (Category.others ++ Category.separators)).union fillers

/-- Whether a mark attaches to the character before. -/
def attaches (c : Char) : Bool := attaching.mem c

/-- Whether a character shows something.  The space counts as such. -/
def isPrintable (c : Char) : Bool := c == ' ' || !hidden.mem c

/-- Whether a character has a picture of its own and does not attach to the one before. -/
def hasOwnPicture (c : Char) : Bool :=
  let n := c.toNat
  if n < 0x7F then 0x20 ≤ n else isPrintable c && !attaches c

end EscapeAudit.Text
