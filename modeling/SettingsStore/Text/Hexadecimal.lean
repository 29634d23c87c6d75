/-!
# Hexadecimal digits

Escapes and messages show code points and octets in lower-case hexadecimal
digits of a least width.
-/

namespace SettingsStore

/-- The hexadecimal digits of a number, padded with zeros to a width. -/
def hexDigits (width value : Nat) : List Char :=
  let digits := Nat.toDigits 16 value
  List.replicate (width - digits.length) '0' ++ digits

end SettingsStore
