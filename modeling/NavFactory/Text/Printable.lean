import NavFactory.Text.PrintableTable

/-!
# Printable characters

A quoted text shows a printable character as it is and writes an escape for any other.
-/

namespace NavFactory.Text

/-- Whether a quoted text shows the character as it is. -/
def isPrintable (c : Char) : Bool :=
  classOf (fun c => 0x20 ≤ c.toNat && c.toNat < 0x7F) printableRanges c

end NavFactory.Text
