import DataRescue.Python.Json
import Mathlib.Data.Int.Log

/-!
# Decoding JSON

`json.loads` on a text: the scanner of the standard library, on a list of characters and with fuel. A
step consumes a character or passes from an array or object to its first item, so twice the length of
the text is enough. A number without fraction and exponent is an integer, and any other one the nearest
binary64. A lone surrogate, which is not a character here, reads as the replacement character.
-/

namespace DataRescue.Python

/-! ### Floats -/

/-- The binary64 next to a rational, ties to even. -/
def PyFloat.ofRat (q : ℚ) : PyFloat :=
  let exponent : Int := max (Int.log 2 |q| - 52) (-1074)
  let magnitude : ℚ := roundHalfEven (|q| / 2 ^ exponent) * 2 ^ exponent
  if q = 0 then .finite 0
  else if 2 ^ 1024 ≤ magnitude then .infinity (q < 0)
  else if magnitude = 0 then if q < 0 then .negZero else .finite 0
  else .finite (if q < 0 then -magnitude else magnitude)

example : PyFloat.ofRat (1 / 10) = .finite (3602879701896397 / 36028797018963968) := by decide +kernel

/-! ### Scanning -/

/-- What `json.loads` raises: a `JSONDecodeError`, or the `ValueError` of an integer of more than 4300
digits. -/
inductive LoadsError where
  | decode
  | digits
  deriving DecidableEq, Repr

def isDigit (c : Char) : Bool := '0' ≤ c && c ≤ '9'

def skipSpace (text : List Char) : List Char :=
  text.dropWhile fun c => c = ' ' ∨ c = '\t' ∨ c = '\n' ∨ c = '\x0d'

/-- The four hexadecimal digits of an escape, in either case. -/
def hexEscape : List Char → Option (Nat × List Char)
  | a :: b :: c :: d :: rest =>
    let digits := [a, b, c, d].map Char.toLower
    if digits.all fun digit => "0123456789abcdef".toList.contains digit then
      some (hexUnit a.toLower b.toLower c.toLower d.toLower, rest)
    else none
  | _ => none

/-- A `\u` escape after its `u`, with the second half of a surrogate pair. -/
def unicodeEscape (text : List Char) : Option (Char × List Char) := do
  let (unit, rest) ← hexEscape text
  if 55296 ≤ unit ∧ unit < 56320 then
    match rest with
    | '\\' :: 'u' :: low =>
      match hexEscape low with
      | some (second, after) =>
        if 56320 ≤ second ∧ second < 57344 then
          some (Char.ofNat (65536 + (unit - 55296) * 1024 + (second - 56320)), after)
        else some ('\ufffd', rest)
      | none => some ('\ufffd', rest)
    | _ => some ('\ufffd', rest)
  else if 56320 ≤ unit ∧ unit < 57344 then some ('\ufffd', rest)
  else some (Char.ofNat unit, rest)

/-- The characters of a string up to its closing quote. -/
def scanString : Nat → List Char → Option (List Char × List Char)
  | 0, _ | _, [] | _, ['\\'] => none
  | _ + 1, '"' :: rest => some ([], rest)
  | fuel + 1, '\\' :: 'u' :: rest => do
    let (c, rest) ← unicodeEscape rest
    let (text, rest) ← scanString fuel rest
    some (c :: text, rest)
  | fuel + 1, '\\' :: c :: rest =>
    if "\"\\/bfnrt".toList.contains c then do
      let (text, rest) ← scanString fuel rest
      some (shortEscape c :: text, rest)
    else none
  | fuel + 1, c :: rest =>
    if c.toNat < 32 then none
    else do
      let (text, rest) ← scanString fuel rest
      some (c :: text, rest)

def digitsValue (digits : List Char) : Nat :=
  digits.foldl (fun value digit => 10 * value + (digit.toNat - 48)) 0

/-- `(\.\d+)?` -/
def scanFraction : List Char → List Char × List Char
  | '.' :: rest =>
    let digits := rest.takeWhile isDigit
    if digits = [] then ([], '.' :: rest) else (digits, rest.dropWhile isDigit)
  | text => ([], text)

/-- `([eE][-+]?\d+)?` -/
def scanExponent (text : List Char) : Option Int × List Char :=
  match text with
  | e :: rest =>
    if e = 'e' ∨ e = 'E' then
      let (negative, unsigned) := match rest with
        | '-' :: rest => (true, rest)
        | '+' :: rest => (false, rest)
        | rest => (false, rest)
      let digits := unsigned.takeWhile isDigit
      if digits = [] then (none, text)
      else
        let value : Int := digitsValue digits
        (some (if negative then -value else value), unsigned.dropWhile isDigit)
    else (none, text)
  | [] => (none, [])

/-- `-?(?:0|[1-9]\d*)(\.\d+)?([eE][-+]?\d+)?` -/
def scanNumber (text : List Char) : Except LoadsError (Json × List Char) :=
  let (negative, unsigned) := match text with
    | '-' :: rest => (true, rest)
    | text => (false, text)
  let (whole, rest) := match unsigned with
    | '0' :: rest => (['0'], rest)
    | unsigned => (unsigned.takeWhile isDigit, unsigned.dropWhile isDigit)
  if whole = [] then .error .decode
  else
    let (fraction, rest) := scanFraction rest
    let (exponent, rest) := scanExponent rest
    if fraction = [] ∧ exponent = none then
      if 4300 < whole.length then .error .digits
      else
        let value : Int := digitsValue whole
        .ok (.int (if negative then -value else value), rest)
    else
      let magnitude : ℚ := digitsValue (whole ++ fraction) *
        10 ^ (exponent.getD 0 - fraction.length : Int)
      let value := PyFloat.ofRat (if negative then -magnitude else magnitude)
      .ok (.float (if negative ∧ magnitude = 0 then .negZero else value), rest)

/-- The constants of the scanner. -/
def constants : List (String × Json) :=
  [("null", .null), ("true", .bool true), ("false", .bool false), ("NaN", .float .nan),
    ("Infinity", .float (.infinity false)), ("-Infinity", .float (.infinity true))]

mutual

/-- One value from the start of a text. -/
def scanOnce : Nat → List Char → Except LoadsError (Json × List Char)
  | 0, _ => .error .decode
  | fuel + 1, text =>
    match text with
    | '"' :: rest =>
      match scanString rest.length rest with
      | some (value, rest) => .ok (.str (String.ofList value), rest)
      | none => .error .decode
    | '[' :: rest =>
      match skipSpace rest with
      | ']' :: rest => .ok (.arr [], rest)
      | rest => do
        let (items, rest) ← scanItems fuel rest
        pure (.arr items, rest)
    | '\x7b' :: rest =>
      match skipSpace rest with
      | '\x7d' :: rest => .ok (.obj [], rest)
      | rest => do
        let (fields, rest) ← scanFields fuel rest
        pure (.obj (fields.foldl (fun fields field => setField fields field.1 field.2) []), rest)
    | text =>
      match constants.find? fun constant => constant.1.toList.isPrefixOf text with
      | some (name, value) => .ok (value, text.drop name.length)
      | none => scanNumber text

/-- The items of an array that has one, and its closing bracket. -/
def scanItems : Nat → List Char → Except LoadsError (List Json × List Char)
  | 0, _ => .error .decode
  | fuel + 1, text => do
    let (item, rest) ← scanOnce fuel text
    match skipSpace rest with
    | ']' :: rest => pure ([item], rest)
    | ',' :: rest => do
      let (items, rest) ← scanItems fuel (skipSpace rest)
      pure (item :: items, rest)
    | _ => .error .decode

/-- The fields of an object that has one, and its closing brace. -/
def scanFields : Nat → List Char → Except LoadsError (List (String × Json) × List Char)
  | 0, _ => .error .decode
  | fuel + 1, text =>
    match text with
    | '"' :: rest =>
      match scanString rest.length rest with
      | none => .error .decode
      | some (key, rest) =>
        match skipSpace rest with
        | ':' :: rest => do
          let (value, rest) ← scanOnce fuel (skipSpace rest)
          match skipSpace rest with
          | '\x7d' :: rest => pure ([(String.ofList key, value)], rest)
          | ',' :: rest => do
            let (fields, rest) ← scanFields fuel (skipSpace rest)
            pure ((String.ofList key, value) :: fields, rest)
          | _ => .error .decode
        | _ => .error .decode
    | _ => .error .decode

end

/-- `json.loads(text)` -/
def loads (text : String) : Except LoadsError Json := do
  let chars := text.toList
  let (value, rest) ← scanOnce (2 * chars.length + 2) (skipSpace chars)
  if skipSpace rest = [] then pure value else .error .decode

example : loads " \x7b\"a\" : [1, -2.5e1, null, \"\\u00e9\\n\"], \"a\": true\x7d" =
    .ok (.obj [("a", .bool true)]) := by decide +kernel

example : loads "[-25e-1, 0.0, [], \"\\ud83d\\ude00\"]" =
    .ok (.arr [.float (.finite (-5 / 2)), .float (.finite 0), .arr [], .str "😀"]) := by
  decide +kernel

end DataRescue.Python
