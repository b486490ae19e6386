/-! Bytes as hexadecimal digits. -/

namespace FieldLogic.Digest

/-- Two lower-case digits for each byte. -/
def hexadecimal (bytes : List UInt8) : List Char :=
  bytes.flatMap fun byte => [Nat.digitChar (byte.toNat / 16), Nat.digitChar (byte.toNat % 16)]

end FieldLogic.Digest
