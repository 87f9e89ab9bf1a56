/-
# What lies outside the repository

`Platform` collects what the modelled code takes from the `cryptography` package,
from the interpreter's Unicode tables and from settings that differ between
interpreters.  Each field that the proofs rely on comes with the law they use.
-/
import SafeAgent.PyText

/-- The packages, tables and settings that the modelled code runs on. -/
class Platform where
  /-- `Ed25519PrivateKey` -/
  PrivateKey : Type
  /-- `private_key.public_key().public_bytes(Encoding.Raw, PublicFormat.Raw)` -/
  publicBytes : PrivateKey → Bytes
  /-- `private_key.sign(payload)` -/
  sign : PrivateKey → Bytes → Bytes
  /-- Whether `Ed25519PublicKey.from_public_bytes(key).verify(signature, payload)` returns. -/
  verify : (key signature payload : Bytes) → Bool
  length_publicBytes : ∀ k, (publicBytes k).length = 32
  length_sign : ∀ k m, (sign k m).length = 64
  /-- `unicodedata.category(c) in {"Cc", "Cf", "Cs", "Co", "Zl", "Zp"}` -/
  invisible : ℕ → Bool
  invisible_of_isSurrogate : ∀ c, PyText.isSurrogate c = true → invisible c = true
  visible_of_printable : ∀ c, 32 ≤ c ∧ c < 127 → invisible c = false
  /-- The value of a character that `\d` matches and `int()` reads. -/
  decimalValue : ℕ → Option ℕ
  decimalValue_of_isDigit : ∀ c, PyText.isDigit c = true → decimalValue c = some (c - 48)
  isScalar_of_decimalValue : ∀ c d, decimalValue c = some d → PyText.isScalar c = true
  /-- `str.isprintable` on one character. -/
  isPrintable : ℕ → Bool
  /-- `unicodedata.normalize("NFKC", s)` -/
  nfkc : PyStr → PyStr
  /-- Whether `urlsplit` accepts a netloc whose square brackets are balanced; how it
  checks the host between them differs between interpreter releases. -/
  bracketedNetlocOk : PyStr → Bool
  /-- How many containers `json.loads` can nest before `RecursionError`. -/
  recursionLimit : ℕ
  four_le_recursionLimit : 4 ≤ recursionLimit
  /-- `repr(float(literal))` -/
  floatRepr : PyStr → PyStr
  floatRepr_zero : ∀ x, x = py "0.0" ∨ x = py "-0.0" → floatRepr x = x
  /-- Whether `strftime("%Y")` pads a year below 1000 to four digits. -/
  strftimePadsYear : Bool

theorem Platform.two_le_recursionLimit [Platform] : 2 ≤ Platform.recursionLimit :=
  le_trans (by decide) Platform.four_le_recursionLimit
