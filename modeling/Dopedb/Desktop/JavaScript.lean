import Mathlib.Data.String.Basic
import Dopedb.Platform

/-!
# JavaScript

What the desktop and the cloud code rely on of the language: strings as UTF-16 units, and the largest
integer that they take for exact. The strings of this development are texts that came from Rust, so
they hold no unpaired surrogate.
-/

namespace Dopedb

/-- `Number.MAX_SAFE_INTEGER`. The constraints of the cloud tables have it as their bound too. -/
def MAX_SAFE_INTEGER : Nat := 9007199254740991

namespace Desktop

/-- The UTF-16 units of a character. -/
def units (c : Char) : List Nat :=
  if c.toNat < 0x10000 then [c.toNat]
  else [0xD800 + (c.toNat - 0x10000) / 0x400, 0xDC00 + (c.toNat - 0x10000) % 0x400]

/-- The UTF-16 units of a text. -/
def utf16 (text : List Char) : List Nat := text.flatMap units

end Desktop

end Dopedb
