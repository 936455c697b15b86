import DataRescue.Python.Number

/-!
# JSON

The values `json.loads` returns, their truth value, and the strings `json.dumps` writes with its
default `ensure_ascii=True`. A quoted string is uniquely decodable (`quote_append_inj`): scanning it
back gives the text and what follows, so two encodings that agree come from the same text.
-/

namespace DataRescue.Python

/-- A decoded JSON value. -/
inductive Json where
  | null
  | bool (value : Bool)
  | int (value : Int)
  | float (value : PyFloat)
  | str (value : String)
  | arr (items : List Json)
  | obj (fields : List (String × Json))

namespace Json

mutual
def decEq : (a b : Json) → Decidable (a = b)
  | .null, .null => isTrue rfl
  | .bool a, .bool b => if h : a = b then isTrue (by rw [h]) else isFalse (by simpa using h)
  | .int a, .int b => if h : a = b then isTrue (by rw [h]) else isFalse (by simpa using h)
  | .float a, .float b => if h : a = b then isTrue (by rw [h]) else isFalse (by simpa using h)
  | .str a, .str b => if h : a = b then isTrue (by rw [h]) else isFalse (by simpa using h)
  | .arr as, .arr bs => match decEqItems as bs with
    | isTrue h => isTrue (by rw [h])
    | isFalse h => isFalse (by simpa using h)
  | .obj as, .obj bs => match decEqFields as bs with
    | isTrue h => isTrue (by rw [h])
    | isFalse h => isFalse (by simpa using h)
  | .null, .bool _ | .null, .int _ | .null, .float _ | .null, .str _ | .null, .arr _ | .null, .obj _
  | .bool _, .null | .bool _, .int _ | .bool _, .float _ | .bool _, .str _ | .bool _, .arr _
  | .bool _, .obj _ | .int _, .null | .int _, .bool _ | .int _, .float _ | .int _, .str _
  | .int _, .arr _ | .int _, .obj _ | .float _, .null | .float _, .bool _ | .float _, .int _
  | .float _, .str _ | .float _, .arr _ | .float _, .obj _ | .str _, .null | .str _, .bool _
  | .str _, .int _ | .str _, .float _ | .str _, .arr _ | .str _, .obj _ | .arr _, .null
  | .arr _, .bool _ | .arr _, .int _ | .arr _, .float _ | .arr _, .str _ | .arr _, .obj _
  | .obj _, .null | .obj _, .bool _ | .obj _, .int _ | .obj _, .float _ | .obj _, .str _
  | .obj _, .arr _ => isFalse (by simp)
def decEqItems : (as bs : List Json) → Decidable (as = bs)
  | [], [] => isTrue rfl
  | [], _ :: _ | _ :: _, [] => isFalse (by simp)
  | a :: as, b :: bs => match decEq a b, decEqItems as bs with
    | isTrue h, isTrue h' => isTrue (by rw [h, h'])
    | isFalse h, _ => isFalse (by simp [h])
    | _, isFalse h => isFalse (by simp [h])
def decEqFields : (as bs : List (String × Json)) → Decidable (as = bs)
  | [], [] => isTrue rfl
  | [], _ :: _ | _ :: _, [] => isFalse (by simp)
  | (k, a) :: as, (l, b) :: bs =>
    match instDecidableEqString k l, decEq a b, decEqFields as bs with
    | isTrue h, isTrue h', isTrue h'' => isTrue (by rw [h, h', h''])
    | isFalse h, _, _ => isFalse (by simp [h])
    | _, isFalse h, _ => isFalse (by simp [h])
    | _, _, isFalse h => isFalse (by simp [h])
end

instance : DecidableEq Json := decEq

/-- `bool(value)`. -/
def truthy : Json → Bool
  | .null => false
  | .bool value => value
  | .int value => value ≠ 0
  | .float value => !value.eq (.finite 0)
  | .str value => value ≠ ""
  | .arr items => !items.isEmpty
  | .obj fields => !fields.isEmpty

end Json

/-- `fields.get(key)` of a decoded object. -/
def getField (fields : List (String × Json)) (key : String) : Option Json := fields.lookup key

/-- `fields[key] = value`: an existing key keeps its place. -/
def setField : List (String × Json) → String → Json → List (String × Json)
  | [], key, value => [(key, value)]
  | (k, v) :: rest, key, value =>
    if k = key then (k, value) :: rest else (k, v) :: setField rest key value

/-! ### Quoted strings -/

def hexDigit (n : Nat) : Char := "0123456789abcdef".toList.getD n '0'

/-- `\uXXXX` for a 16-bit code unit. -/
def escapeUnit (n : Nat) : List Char :=
  ['\\', 'u', hexDigit (n / 4096), hexDigit (n / 256 % 16), hexDigit (n / 16 % 16), hexDigit (n % 16)]

/-- One character as `json.dumps` writes it; beyond the 16-bit range a surrogate pair. -/
def escapeChar (c : Char) : List Char :=
  if c = '"' then ['\\', '"']
  else if c = '\\' then ['\\', '\\']
  else if c = '\n' then ['\\', 'n']
  else if c = '\r' then ['\\', 'r']
  else if c = '\t' then ['\\', 't']
  else if c = '\x0c' then ['\\', 'f']
  else if c = '\x08' then ['\\', 'b']
  else if 32 ≤ c.toNat ∧ c.toNat ≤ 126 then [c]
  else if c.toNat < 65536 then escapeUnit c.toNat
  else escapeUnit (55296 + (c.toNat - 65536) / 1024) ++ escapeUnit (56320 + (c.toNat - 65536) % 1024)

/-- `json.dumps(s)` of a string. -/
def quote (s : String) : List Char := '"' :: (s.toList.flatMap escapeChar ++ ['"'])

example : String.ofList (quote "a\"é😀") = "\"a\\\"\\u00e9\\ud83d\\ude00\"" := by decide +kernel

/-! ### Reading a quoted string back -/

def hexValue (c : Char) : Nat := "0123456789abcdef".toList.idxOf c

def hexUnit (a b c d : Char) : Nat :=
  4096 * hexValue a + 256 * hexValue b + 16 * hexValue c + hexValue d

/-- The character a two-character escape stands for. -/
def shortEscape : Char → Char
  | 'n' => '\n'
  | 'r' => '\r'
  | 't' => '\t'
  | 'f' => '\x0c'
  | 'b' => '\x08'
  | c => c

/-- Read one escaped character and return it with what follows. -/
def unescape : List Char → Option (Char × List Char)
  | '\\' :: 'u' :: a :: b :: c :: d :: rest =>
    if 55296 ≤ hexUnit a b c d ∧ hexUnit a b c d < 56320 then
      match rest with
      | _ :: _ :: a' :: b' :: c' :: d' :: rest =>
        some (Char.ofNat (65536 + (hexUnit a b c d - 55296) * 1024 + (hexUnit a' b' c' d' - 56320)),
          rest)
      | _ => none
    else some (Char.ofNat (hexUnit a b c d), rest)
  | '\\' :: c :: rest => some (shortEscape c, rest)
  | c :: rest => some (c, rest)
  | [] => none

theorem hexValue_hexDigit : ∀ n < 16, hexValue (hexDigit n) = n := by decide

theorem hexUnit_digits {n : Nat} (h : n < 65536) :
    hexUnit (hexDigit (n / 4096)) (hexDigit (n / 256 % 16)) (hexDigit (n / 16 % 16))
      (hexDigit (n % 16)) = n := by
  unfold hexUnit
  rw [hexValue_hexDigit _ (by omega), hexValue_hexDigit _ (by omega),
    hexValue_hexDigit _ (by omega), hexValue_hexDigit _ (by omega)]
  omega

theorem unescape_unit {n : Nat} (h : n < 65536) (hs : ¬(55296 ≤ n ∧ n < 56320)) (rest : List Char) :
    unescape (escapeUnit n ++ rest) = some (Char.ofNat n, rest) := by
  simp [escapeUnit, unescape, hexUnit_digits h, hs]

theorem unescape_pair {n : Nat} (hlow : 65536 ≤ n) (hhigh : n < 1114112) (rest : List Char) :
    unescape (escapeUnit (55296 + (n - 65536) / 1024) ++
      (escapeUnit (56320 + (n - 65536) % 1024) ++ rest)) = some (Char.ofNat n, rest) := by
  have hfirst : 55296 + (n - 65536) / 1024 < 65536 := by omega
  have hsecond : 56320 + (n - 65536) % 1024 < 65536 := by omega
  have hrange : 55296 ≤ 55296 + (n - 65536) / 1024 ∧ 55296 + (n - 65536) / 1024 < 56320 := by omega
  have hvalue : 65536 + (55296 + (n - 65536) / 1024 - 55296) * 1024 +
      (56320 + (n - 65536) % 1024 - 56320) = n := by omega
  simp only [escapeUnit, List.cons_append, List.nil_append, unescape, hexUnit_digits hfirst,
    hexUnit_digits hsecond, hrange, and_self, ↓reduceIte, hvalue]

theorem unescape_escapeChar (c : Char) (rest : List Char) :
    unescape (escapeChar c ++ rest) = some (c, rest) := by
  have hvalid := c.valid
  have hto : c.val.toNat = c.toNat := rfl
  unfold escapeChar
  split_ifs with h1 h2 h3 h4 h5 h6 h7 h8 h9
  · subst h1; rfl
  · subst h2; rfl
  · subst h3; rfl
  · subst h4; rfl
  · subst h5; rfl
  · subst h6; rfl
  · subst h7; rfl
  · rw [List.singleton_append, unescape]
    · rintro _ _ _ _ _ rfl
      exact absurd rfl h2
    · rintro _ _ rfl
      exact absurd rfl h2
  · rw [unescape_unit h9, Char.ofNat_toNat]
    rcases hvalid with hvalid | hvalid <;> omega
  · rw [List.append_assoc, unescape_pair (by omega), Char.ofNat_toNat]
    rcases hvalid with hvalid | hvalid <;> omega

theorem escapeChar_ne_quote (c : Char) : ∃ first rest, escapeChar c = first :: rest ∧ first ≠ '"' := by
  unfold escapeChar
  split_ifs with h1 h2 h3 h4 h5 h6 h7 h8 h9
  all_goals first
    | exact ⟨_, _, rfl, by decide⟩
    | exact ⟨_, _, rfl, h1⟩

theorem flatMap_escape_inj : ∀ (s t : List Char) (l m : List Char),
    s.flatMap escapeChar ++ '"' :: l = t.flatMap escapeChar ++ '"' :: m → s = t ∧ l = m := by
  intro s
  induction s with
  | nil =>
    intro t l m h
    cases t with
    | nil => simpa using h
    | cons c t =>
      obtain ⟨first, rest, hc, hne⟩ := escapeChar_ne_quote c
      simp only [List.flatMap_nil, List.nil_append, List.flatMap_cons, hc, List.cons_append,
        List.cons.injEq] at h
      exact absurd h.1.symm hne
  | cons c s ih =>
    intro t l m h
    cases t with
    | nil =>
      obtain ⟨first, rest, hc, hne⟩ := escapeChar_ne_quote c
      simp only [List.flatMap_nil, List.nil_append, List.flatMap_cons, hc, List.cons_append,
        List.cons.injEq] at h
      exact absurd h.1 hne
    | cons d t =>
      rw [List.flatMap_cons, List.flatMap_cons, List.append_assoc, List.append_assoc] at h
      have hread := congrArg unescape h
      rw [unescape_escapeChar, unescape_escapeChar, Option.some.injEq, Prod.mk.injEq] at hread
      obtain ⟨hst, hlm⟩ := ih t l m hread.2
      exact ⟨by rw [hread.1, hst], hlm⟩

theorem quote_append_inj {s t : String} {l m : List Char} (h : quote s ++ l = quote t ++ m) :
    s = t ∧ l = m := by
  simp only [quote, List.cons_append, List.append_assoc, List.nil_append, List.cons.injEq,
    true_and] at h
  obtain ⟨hst, hlm⟩ := flatMap_escape_inj _ _ _ _ h
  exact ⟨String.toList_injective hst, hlm⟩

end DataRescue.Python
