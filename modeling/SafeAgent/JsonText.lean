/-
# JSON text: `json.dumps` and `json.loads`

`render` is `json.dumps(value, ensure_ascii=True, separators=(",", ":"))` and
`canonical` is the same with `sort_keys=True`.  `dumps` adds the one way in which
the interpreter can refuse: an integer of more than `maxStrDigits` digits.

`loads` is `json.loads` on `bytes`: the encoding is detected from the first octets,
the text is decoded with `surrogatepass`, and a recursive-descent scanner reads one
value.  A `JsonReader` holds what differs between callers and interpreters: how deep
the scanner may recurse, how a float literal is rounded, and the `object_pairs_hook`.
The scanner takes fuel; `parse_fuel` in `JsonScanner` shows that the fuel `loadsStr`
passes never runs out.
-/
import SafeAgent.JsonValue

namespace Json

open PyText PyItems

/-! ## Writing -/

/-- `sys.get_int_max_str_digits()`: longer decimal strings are refused both ways. -/
def maxStrDigits : ℕ := 4300

/-- One lower-case hexadecimal digit. -/
def hexDigit (d : ℕ) : ℕ := if d < 10 then 48 + d else 87 + d

/-- `\uXXXX` -/
def escapeUnit (u : ℕ) : PyStr :=
  [92, 117, hexDigit (u / 4096 % 16), hexDigit (u / 256 % 16), hexDigit (u / 16 % 16),
    hexDigit (u % 16)]

/-- One character of a JSON string with `ensure_ascii=True`.  A character outside the
basic plane becomes a surrogate pair. -/
def escapeChar (c : ℕ) : PyStr :=
  if c = 34 then [92, 34]
  else if c = 92 then [92, 92]
  else if c = 10 then [92, 110]
  else if c = 13 then [92, 114]
  else if c = 9 then [92, 116]
  else if c = 12 then [92, 102]
  else if c = 8 then [92, 98]
  else if 32 ≤ c ∧ c < 127 then [c]
  else if c < 0x10000 then escapeUnit c
  else escapeUnit (0xD800 + (c - 0x10000) / 1024) ++ escapeUnit (0xDC00 + (c - 0x10000) % 1024)

/-- A quoted JSON string. -/
def renderStr (s : PyStr) : PyStr := 34 :: s.flatMap escapeChar ++ [34]

mutual

/-- `json.dumps(value, ensure_ascii=True, separators=(",", ":"))` -/
def render : Json → PyStr
  | .null => py "null"
  | .bool true => py "true"
  | .bool false => py "false"
  | .int n => decimalInt n
  | .float r => r
  | .str s => renderStr s
  | .arr [] => py "[]"
  | .arr (v :: rest) => 91 :: (render v ++ renderItems rest)
  | .obj [] => py "{}"
  | .obj ((k, v) :: rest) => 123 :: (renderStr k ++ 58 :: (render v ++ renderFields rest))

/-- The later items of a list, and its closing bracket. -/
def renderItems : List Json → PyStr
  | [] => [93]
  | v :: rest => 44 :: (render v ++ renderItems rest)

/-- The later items of a `dict`, and its closing brace. -/
def renderFields : JsonFields → PyStr
  | [] => [125]
  | (k, v) :: rest => 44 :: (renderStr k ++ 58 :: (render v ++ renderFields rest))

end

/-- The text `json.dumps(..., sort_keys=True)` produces when it succeeds. -/
def canonical (v : Json) : PyStr := render (sortKeys v)

mutual

/-- Every integer inside the value can be written in `maxStrDigits` digits. -/
def intsFit : Json → Bool
  | .int n => (decimal n.natAbs).length ≤ maxStrDigits
  | .arr items => intsFitItems items
  | .obj fields => intsFitFields fields
  | .null => true
  | .bool _ => true
  | .float _ => true
  | .str _ => true

def intsFitItems : List Json → Bool
  | [] => true
  | v :: rest => intsFit v && intsFitItems rest

def intsFitFields : JsonFields → Bool
  | [] => true
  | (_, v) :: rest => intsFit v && intsFitFields rest

end

/-- `int.__repr__` on an integer that is too long. -/
def intTooLong : PyErr :=
  .of .valueError "Exceeds the limit (4300 digits) for integer string conversion"

/-- `json.dumps(value, ensure_ascii=True, separators=(",", ":"), sort_keys=True)` -/
def dumps (v : Json) : PyResult PyStr :=
  if intsFit v then .ok (canonical v) else .error intTooLong

/-! ## Decoding octets -/

/-- The encodings `json.detect_encoding` can answer. -/
inductive Encoding
  | utf8
  | utf8Sig
  | utf16
  | utf16le
  | utf16be
  | utf32
  | utf32le
  | utf32be
  deriving DecidableEq, Repr

/-- `json.detect_encoding` -/
def detectEncoding (b : Bytes) : Encoding :=
  if [0x00, 0x00, 0xFE, 0xFF] <+: b ∨ [0xFF, 0xFE, 0x00, 0x00] <+: b then .utf32
  else if [0xFE, 0xFF] <+: b ∨ [0xFF, 0xFE] <+: b then .utf16
  else if [0xEF, 0xBB, 0xBF] <+: b then .utf8Sig
  else
    match b with
    | b0 :: b1 :: b2 :: b3 :: _ =>
        if b0 = 0 then (if b1 = 0 then .utf32be else .utf16be)
        else if b1 = 0 then (if b2 = 0 ∧ b3 = 0 then .utf32le else .utf16le)
        else .utf8
    | [b0, b1] => if b0 = 0 then .utf16be else if b1 = 0 then .utf16le else .utf8
    | _ => .utf8

/-- A UTF-8 continuation octet. -/
def isCont (b : UInt8) : Bool := 0x80 ≤ b && b ≤ 0xBF

/-- UTF-8 with the `surrogatepass` error handler; `none` is a `UnicodeDecodeError`. -/
def decodeUtf8 : Bytes → Option PyStr
  | [] => some []
  | b0 :: rest =>
      if b0 < 0x80 then (b0.toNat :: ·) <$> decodeUtf8 rest
      else
        match rest with
        | b1 :: rest1 =>
            if 0xC2 ≤ b0 && b0 ≤ 0xDF && isCont b1 then
              (((b0.toNat - 0xC0) * 64 + (b1.toNat - 0x80)) :: ·) <$> decodeUtf8 rest1
            else
              match rest1 with
              | b2 :: rest2 =>
                  if 0xE0 ≤ b0 && b0 ≤ 0xEF && isCont b1 && isCont b2 &&
                      (b0 != 0xE0 || 0xA0 ≤ b1) then
                    (((b0.toNat - 0xE0) * 4096 + (b1.toNat - 0x80) * 64 + (b2.toNat - 0x80)) :: ·)
                      <$> decodeUtf8 rest2
                  else
                    match rest2 with
                    | b3 :: rest3 =>
                        if 0xF0 ≤ b0 && b0 ≤ 0xF4 && isCont b1 && isCont b2 && isCont b3 &&
                            (b0 != 0xF0 || 0x90 ≤ b1) && (b0 != 0xF4 || b1 ≤ 0x8F) then
                          (((b0.toNat - 0xF0) * 262144 + (b1.toNat - 0x80) * 4096 +
                            (b2.toNat - 0x80) * 64 + (b3.toNat - 0x80)) :: ·) <$> decodeUtf8 rest3
                        else none
                    | [] => none
              | [] => none
        | [] => none

/-- The 16-bit units of a byte string; an odd octet at the end is an error. -/
def units16 (big : Bool) : Bytes → Option (List ℕ)
  | [] => some []
  | [_] => none
  | b0 :: b1 :: rest =>
      ((if big then b0.toNat * 256 + b1.toNat else b1.toNat * 256 + b0.toNat) :: ·)
        <$> units16 big rest

/-- Join surrogate pairs; `surrogatepass` keeps a lone surrogate. -/
def joinPairs : List ℕ → PyStr
  | [] => []
  | [u] => [u]
  | u :: v :: rest =>
      if 0xD800 ≤ u && u ≤ 0xDBFF && 0xDC00 ≤ v && v ≤ 0xDFFF then
        (0x10000 + (u - 0xD800) * 1024 + (v - 0xDC00)) :: joinPairs rest
      else u :: joinPairs (v :: rest)

/-- The 32-bit units of a byte string, each at most `0x10FFFF`. -/
def decodeUtf32 (big : Bool) : Bytes → Option PyStr
  | [] => some []
  | b0 :: b1 :: b2 :: b3 :: rest =>
      let c :=
        if big then ((b0.toNat * 256 + b1.toNat) * 256 + b2.toNat) * 256 + b3.toNat
        else ((b3.toNat * 256 + b2.toNat) * 256 + b1.toNat) * 256 + b0.toNat
      if c < 0x110000 then (c :: ·) <$> decodeUtf32 big rest else none
  | _ => none

/-- `b.decode(json.detect_encoding(b), "surrogatepass")` -/
def decodeBytes (b : Bytes) : Option PyStr :=
  match detectEncoding b with
  | .utf8 => decodeUtf8 b
  | .utf8Sig => decodeUtf8 (b.drop 3)
  | .utf16le => joinPairs <$> units16 false b
  | .utf16be => joinPairs <$> units16 true b
  | .utf16 => joinPairs <$> units16 (b.head? == some 0xFE) (b.drop 2)
  | .utf32le => decodeUtf32 false b
  | .utf32be => decodeUtf32 true b
  | .utf32 => decodeUtf32 (b.head? == some 0x00) (b.drop 4)

/-! ## Scanning -/

/-- What a call of `json.loads` depends on besides its text. -/
structure JsonReader where
  /-- How many containers may be nested before `RecursionError`. -/
  depthLimit : ℕ
  /-- `repr(float(literal))` -/
  floatRepr : PyStr → PyStr
  /-- `object_pairs_hook`; `dict` when none is given. -/
  objectHook : JsonFields → PyResult Json

/-- `json.JSONDecodeError` -/
def decodeError (message : String) : PyErr := .of .jsonDecodeError message

/-- The whitespace between tokens. -/
def skipWs (s : PyStr) : PyStr := s.dropWhile fun c => c == 32 || c == 9 || c == 10 || c == 13

/-- The value of a hexadecimal digit. -/
def hexValue (c : ℕ) : Option ℕ :=
  if isDigit c then some (c - 48)
  else if 97 ≤ c ∧ c ≤ 102 then some (c - 87)
  else if 65 ≤ c ∧ c ≤ 70 then some (c - 55)
  else none

/-- The four digits after `\u`, and the text after them. -/
def scanUnit : PyStr → Option (ℕ × PyStr)
  | a :: b :: c :: d :: rest =>
      match hexValue a, hexValue b, hexValue c, hexValue d with
      | some a, some b, some c, some d => some (a * 4096 + b * 256 + c * 16 + d, rest)
      | _, _, _, _ => none
  | _ => none

/-- The character that a backslash and a letter stand for. -/
def simpleEscape (c : ℕ) : Option ℕ :=
  if c = 34 then some 34
  else if c = 92 then some 92
  else if c = 47 then some 47
  else if c = 98 then some 8
  else if c = 102 then some 12
  else if c = 110 then some 10
  else if c = 114 then some 13
  else if c = 116 then some 9
  else none

/-- One character of a string body; `none` is the closing quote. -/
def scanChar : PyStr → PyResult (Option ℕ × PyStr)
  | [] => .error (decodeError "Unterminated string starting at")
  | c :: rest =>
      if c = 34 then .ok (none, rest)
      else if c = 92 then
        match rest with
        | [] => .error (decodeError "Unterminated string starting at")
        | e :: rest1 =>
            if e = 117 then
              match scanUnit rest1 with
              | none => .error (decodeError "Invalid \\uXXXX escape")
              | some (u, rest2) =>
                  -- a high unit followed by another escape may be a surrogate pair
                  if 0xD800 ≤ u ∧ u ≤ 0xDBFF ∧ [92, 117] <+: rest2 then
                    match scanUnit (rest2.drop 2) with
                    | none => .error (decodeError "Invalid \\uXXXX escape")
                    | some (v, rest3) =>
                        if 0xDC00 ≤ v ∧ v ≤ 0xDFFF then
                          .ok (some (0x10000 + (u - 0xD800) * 1024 + (v - 0xDC00)), rest3)
                        else .ok (some u, rest2)
                  else .ok (some u, rest2)
            else
              match simpleEscape e with
              | some d => .ok (some d, rest1)
              | none => .error (decodeError "Invalid \\escape")
      else if c < 32 then .error (decodeError "Invalid control character at")
      else .ok (some c, rest)

/-- A string body up to its closing quote. -/
def scanString : ℕ → PyStr → PyResult (PyStr × PyStr)
  | 0, _ => .error (decodeError "Unterminated string starting at")
  | fuel + 1, s =>
      match scanChar s with
      | .error e => .error e
      | .ok (none, rest) => .ok ([], rest)
      | .ok (some c, rest) =>
          match scanString fuel rest with
          | .error e => .error e
          | .ok (cs, rest') => .ok (c :: cs, rest')

/-- A run of digits and the text after it. -/
def spanDigits (s : PyStr) : PyStr × PyStr := (s.takeWhile isDigit, s.dropWhile isDigit)

/-- `-?(?:0|[1-9][0-9]*)`, with the text after it. -/
def scanIntPart (s : PyStr) : Option (Bool × PyStr × PyStr) :=
  let (neg, body) := match s with
    | 45 :: rest => (true, rest)
    | _ => (false, s)
  match body with
  | c :: rest =>
      if c = 48 then some (neg, [48], rest)
      else if isDigit c then some (neg, spanDigits body)
      else none
  | [] => none

/-- `(\.[0-9]+)?`, with the text after it. -/
def scanFrac (s : PyStr) : PyStr × PyStr :=
  match s with
  | 46 :: rest =>
      match spanDigits rest with
      | ([], _) => ([], s)
      | (ds, rest') => (46 :: ds, rest')
  | _ => ([], s)

/-- `([eE][-+]?[0-9]+)?`, with the text after it. -/
def scanExp (s : PyStr) : PyStr × PyStr :=
  match s with
  | c :: rest =>
      if c = 69 ∨ c = 101 then
        let (sign, body) := match rest with
          | 43 :: rest' => ([43], rest')
          | 45 :: rest' => ([45], rest')
          | _ => ([], rest)
        match spanDigits body with
        | ([], _) => ([], s)
        | (ds, rest') => (c :: sign ++ ds, rest')
      else ([], s)
  | [] => ([], s)

/-- A number; an integer literal goes through `int()`, which has a length limit. -/
def scanNumber (r : JsonReader) (s : PyStr) : PyResult (Json × PyStr) :=
  match scanIntPart s with
  | none => .error (decodeError "Expecting value")
  | some (neg, digits, rest) =>
      match scanFrac rest, scanExp (scanFrac rest).2 with
      | ([], _), ([], rest') =>
          if digits.length ≤ maxStrDigits then
            .ok (.int (if neg then -(ofDecimal digits : ℤ) else ofDecimal digits), rest')
          else .error intTooLong
      | (frac, _), (exp, rest') =>
          .ok (.float (r.floatRepr ((if neg then [45] else []) ++ digits ++ frac ++ exp)), rest')

/-- The literals of the scanner and the value each stands for. -/
def scanLiteral (s : PyStr) : Option (Json × PyStr) :=
  if startsWith (py "null") s then some (.null, s.drop 4)
  else if startsWith (py "true") s then some (.bool true, s.drop 4)
  else if startsWith (py "false") s then some (.bool false, s.drop 5)
  else if startsWith (py "NaN") s then some (.float (py "nan"), s.drop 3)
  else if startsWith (py "Infinity") s then some (.float (py "inf"), s.drop 8)
  else if startsWith (py "-Infinity") s then some (.float (py "-inf"), s.drop 9)
  else none

/-- `RecursionError` from a text nested too deep. -/
def nestedTooDeep : PyErr :=
  .of .recursionError "maximum recursion depth exceeded while decoding a JSON object"

mutual

/-- `scan_once`: one value and the text after it. -/
def parseValue (r : JsonReader) : ℕ → ℕ → PyStr → PyResult (Json × PyStr)
  | 0, _, _ => .error nestedTooDeep
  | fuel + 1, depth, s =>
      match s with
      | [] => .error (decodeError "Expecting value")
      | c :: rest =>
          if c = 34 then do
            let (text, rest') ← scanString rest.length rest
            return (.str text, rest')
          else if c = 123 then
            match depth with
            | 0 => .error nestedTooDeep
            | depth + 1 =>
                match skipWs rest with
                | 125 :: rest' => do
                    let v ← r.objectHook []
                    return (v, rest')
                | body => do
                    let (pairs, rest') ← parseMembers r fuel depth body
                    let v ← r.objectHook pairs
                    return (v, rest')
          else if c = 91 then
            match depth with
            | 0 => .error nestedTooDeep
            | depth + 1 =>
                match skipWs rest with
                | 93 :: rest' => .ok (.arr [], rest')
                | body => do
                    let (items, rest') ← parseItems r fuel depth body
                    return (.arr items, rest')
          else
            match scanLiteral s with
            | some found => .ok found
            | none => scanNumber r s

/-- The items of a list from the first one on, with the closing bracket. -/
def parseItems (r : JsonReader) : ℕ → ℕ → PyStr → PyResult (List Json × PyStr)
  | 0, _, _ => .error nestedTooDeep
  | fuel + 1, depth, s => do
      let (v, rest) ← parseValue r fuel depth s
      match skipWs rest with
      | 93 :: rest' => return ([v], rest')
      | 44 :: rest' => do
          let (items, rest'') ← parseItems r fuel depth (skipWs rest')
          return (v :: items, rest'')
      | _ => .error (decodeError "Expecting ',' delimiter")

/-- The items of an object from the first key on, with the closing brace. -/
def parseMembers (r : JsonReader) : ℕ → ℕ → PyStr → PyResult (JsonFields × PyStr)
  | 0, _, _ => .error nestedTooDeep
  | fuel + 1, depth, s =>
      match s with
      | 34 :: body => do
          let (key, rest) ← scanString body.length body
          match skipWs rest with
          | 58 :: rest1 => do
              let (v, rest2) ← parseValue r fuel depth (skipWs rest1)
              match skipWs rest2 with
              | 125 :: rest3 => return ([(key, v)], rest3)
              | 44 :: rest3 => do
                  let (pairs, rest4) ← parseMembers r fuel depth (skipWs rest3)
                  return ((key, v) :: pairs, rest4)
              | _ => .error (decodeError "Expecting ',' delimiter")
          | _ => .error (decodeError "Expecting ':' delimiter")
      | _ => .error (decodeError "Expecting property name enclosed in double quotes")

end

/-- An `object_pairs_hook` that refuses a key which occurs twice. -/
def rejectDuplicateKeys (error : PyErr) (pairs : JsonFields) : PyResult Json :=
  if (keys pairs).Nodup then .ok (.obj pairs) else .error error

/-- `json.loads(text)` on a `str`. -/
def loadsStr (r : JsonReader) (s : PyStr) : PyResult Json :=
  match s with
  | 0xFEFF :: _ => .error (decodeError "Unexpected UTF-8 BOM (decode using utf-8-sig)")
  | _ =>
      match parseValue r (2 * s.length + 1) r.depthLimit (skipWs s) with
      | .error e => .error e
      | .ok (v, rest) =>
          if skipWs rest = [] then .ok v else .error (decodeError "Extra data")

/-- `json.loads(raw)` on `bytes`. -/
def loads (r : JsonReader) (b : Bytes) : PyResult Json :=
  match decodeBytes b with
  | none => .error (.of .unicodeDecodeError "codec can't decode bytes")
  | some s => loadsStr r s

end Json
