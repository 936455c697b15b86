import Mathlib.Data.List.Basic
import Mathlib.Data.List.TakeWhile

/-!
# Python text

The string operations the service applies to identifiers: `str.casefold`, `str.strip`, `str.split`
on one character and `bytes.decode`. Lean's own operations differ from Python's outside ASCII, so
the two character tables below are written out. `casefold` is the full case folding of Unicode 14
(the version Python 3.11 carries): a run of code points with one offset, or a code point that folds
to several.
-/

namespace DataRescue.Python

/-- `int` converts no more decimal digits than these, leading zeros included. -/
def maxIntDigits : Nat := 4300

/-- A quantifier over the characters of a text is decided on the text, not on all characters. -/
instance (priority := high) decidableForallChars {P : Char → Prop} [DecidablePred P]
    (text : List Char) : Decidable (∀ c ∈ text, P c) := List.decidableBAll P text

instance (priority := high) decidableExistsChars {P : Char → Prop} [DecidablePred P]
    (text : List Char) : Decidable (∃ c ∈ text, P c) := List.decidableBEx P text

theorem of_codes {P : Char → Prop} {codes : List Nat} (h : ∀ code ∈ codes, P (Char.ofNat code))
    {c : Char} (hc : c.toNat ∈ codes) : P c := by
  have hcode := h c.toNat hc
  rwa [Char.ofNat_toNat] at hcode

/-! ### Case folding -/

/-- Runs `(first, last, stride, offset)` of non-ASCII code points that fold to one code point. -/
def casefoldRuns : List (Nat × Nat × Nat × Int) :=
  [(181, 181, 1, 775), (192, 214, 1, 32), (216, 222, 1, 32), (256, 302, 2, 1), (306, 310, 2, 1),
   (313, 327, 2, 1), (330, 374, 2, 1), (376, 376, 1, -121), (377, 381, 2, 1), (383, 383, 1, -268),
   (385, 385, 1, 210), (386, 388, 2, 1), (390, 390, 1, 206), (391, 391, 1, 1), (393, 394, 1, 205),
   (395, 395, 1, 1), (398, 398, 1, 79), (399, 399, 1, 202), (400, 400, 1, 203), (401, 401, 1, 1),
   (403, 403, 1, 205), (404, 404, 1, 207), (406, 406, 1, 211), (407, 407, 1, 209), (408, 408, 1, 1),
   (412, 412, 1, 211), (413, 413, 1, 213), (415, 415, 1, 214), (416, 420, 2, 1), (422, 422, 1, 218),
   (423, 423, 1, 1), (425, 425, 1, 218), (428, 428, 1, 1), (430, 430, 1, 218), (431, 431, 1, 1),
   (433, 434, 1, 217), (435, 437, 2, 1), (439, 439, 1, 219), (440, 440, 1, 1), (444, 444, 1, 1),
   (452, 452, 1, 2), (453, 453, 1, 1), (455, 455, 1, 2), (456, 456, 1, 1), (458, 458, 1, 2),
   (459, 475, 2, 1), (478, 494, 2, 1), (497, 497, 1, 2), (498, 500, 2, 1), (502, 502, 1, -97),
   (503, 503, 1, -56), (504, 542, 2, 1), (544, 544, 1, -130), (546, 562, 2, 1),
   (570, 570, 1, 10795), (571, 571, 1, 1), (573, 573, 1, -163), (574, 574, 1, 10792),
   (577, 577, 1, 1), (579, 579, 1, -195), (580, 580, 1, 69), (581, 581, 1, 71), (582, 590, 2, 1),
   (837, 837, 1, 116), (880, 882, 2, 1), (886, 886, 1, 1), (895, 895, 1, 116), (902, 902, 1, 38),
   (904, 906, 1, 37), (908, 908, 1, 64), (910, 911, 1, 63), (913, 929, 1, 32), (931, 939, 1, 32),
   (962, 962, 1, 1), (975, 975, 1, 8), (976, 976, 1, -30), (977, 977, 1, -25), (981, 981, 1, -15),
   (982, 982, 1, -22), (984, 1006, 2, 1), (1008, 1008, 1, -54), (1009, 1009, 1, -48),
   (1012, 1012, 1, -60), (1013, 1013, 1, -64), (1015, 1015, 1, 1), (1017, 1017, 1, -7),
   (1018, 1018, 1, 1), (1021, 1023, 1, -130), (1024, 1039, 1, 80), (1040, 1071, 1, 32),
   (1120, 1152, 2, 1), (1162, 1214, 2, 1), (1216, 1216, 1, 15), (1217, 1229, 2, 1),
   (1232, 1326, 2, 1), (1329, 1366, 1, 48), (4256, 4293, 1, 7264), (4295, 4295, 1, 7264),
   (4301, 4301, 1, 7264), (5112, 5117, 1, -8), (7296, 7296, 1, -6222), (7297, 7297, 1, -6221),
   (7298, 7298, 1, -6212), (7299, 7300, 1, -6210), (7301, 7301, 1, -6211), (7302, 7302, 1, -6204),
   (7303, 7303, 1, -6180), (7304, 7304, 1, 35267), (7312, 7354, 1, -3008), (7357, 7359, 1, -3008),
   (7680, 7828, 2, 1), (7835, 7835, 1, -58), (7840, 7934, 2, 1), (7944, 7951, 1, -8),
   (7960, 7965, 1, -8), (7976, 7983, 1, -8), (7992, 7999, 1, -8), (8008, 8013, 1, -8),
   (8025, 8031, 2, -8), (8040, 8047, 1, -8), (8120, 8121, 1, -8), (8122, 8123, 1, -74),
   (8126, 8126, 1, -7173), (8136, 8139, 1, -86), (8152, 8153, 1, -8), (8154, 8155, 1, -100),
   (8168, 8169, 1, -8), (8170, 8171, 1, -112), (8172, 8172, 1, -7), (8184, 8185, 1, -128),
   (8186, 8187, 1, -126), (8486, 8486, 1, -7517), (8490, 8490, 1, -8383), (8491, 8491, 1, -8262),
   (8498, 8498, 1, 28), (8544, 8559, 1, 16), (8579, 8579, 1, 1), (9398, 9423, 1, 26),
   (11264, 11311, 1, 48), (11360, 11360, 1, 1), (11362, 11362, 1, -10743), (11363, 11363, 1, -3814),
   (11364, 11364, 1, -10727), (11367, 11371, 2, 1), (11373, 11373, 1, -10780),
   (11374, 11374, 1, -10749), (11375, 11375, 1, -10783), (11376, 11376, 1, -10782),
   (11378, 11378, 1, 1), (11381, 11381, 1, 1), (11390, 11391, 1, -10815), (11392, 11490, 2, 1),
   (11499, 11501, 2, 1), (11506, 11506, 1, 1), (42560, 42604, 2, 1), (42624, 42650, 2, 1),
   (42786, 42798, 2, 1), (42802, 42862, 2, 1), (42873, 42875, 2, 1), (42877, 42877, 1, -35332),
   (42878, 42886, 2, 1), (42891, 42891, 1, 1), (42893, 42893, 1, -42280), (42896, 42898, 2, 1),
   (42902, 42920, 2, 1), (42922, 42922, 1, -42308), (42923, 42923, 1, -42319),
   (42924, 42924, 1, -42315), (42925, 42925, 1, -42305), (42926, 42926, 1, -42308),
   (42928, 42928, 1, -42258), (42929, 42929, 1, -42282), (42930, 42930, 1, -42261),
   (42931, 42931, 1, 928), (42932, 42946, 2, 1), (42948, 42948, 1, -48), (42949, 42949, 1, -42307),
   (42950, 42950, 1, -35384), (42951, 42953, 2, 1), (42960, 42960, 1, 1), (42966, 42968, 2, 1),
   (42997, 42997, 1, 1), (43888, 43967, 1, -38864), (65313, 65338, 1, 32), (66560, 66599, 1, 40),
   (66736, 66771, 1, 40), (66928, 66964, 2, 39), (66929, 66937, 2, 39), (66941, 66953, 2, 39),
   (66957, 66961, 2, 39), (66965, 66965, 1, 39), (68736, 68786, 1, 64), (71840, 71871, 1, 32),
   (93760, 93791, 1, 32), (125184, 125217, 1, 34)]

/-- Code points that fold to more than one code point. -/
def casefoldExpansions : List (Nat × List Nat) :=
  [(223, [115, 115]), (304, [105, 775]), (329, [700, 110]), (496, [106, 780]),
   (912, [953, 776, 769]), (944, [965, 776, 769]), (1415, [1381, 1410]), (7830, [104, 817]),
   (7831, [116, 776]), (7832, [119, 778]), (7833, [121, 778]), (7834, [97, 702]),
   (7838, [115, 115]), (8016, [965, 787]), (8018, [965, 787, 768]), (8020, [965, 787, 769]),
   (8022, [965, 787, 834]), (8064, [7936, 953]), (8065, [7937, 953]), (8066, [7938, 953]),
   (8067, [7939, 953]), (8068, [7940, 953]), (8069, [7941, 953]), (8070, [7942, 953]),
   (8071, [7943, 953]), (8072, [7936, 953]), (8073, [7937, 953]), (8074, [7938, 953]),
   (8075, [7939, 953]), (8076, [7940, 953]), (8077, [7941, 953]), (8078, [7942, 953]),
   (8079, [7943, 953]), (8080, [7968, 953]), (8081, [7969, 953]), (8082, [7970, 953]),
   (8083, [7971, 953]), (8084, [7972, 953]), (8085, [7973, 953]), (8086, [7974, 953]),
   (8087, [7975, 953]), (8088, [7968, 953]), (8089, [7969, 953]), (8090, [7970, 953]),
   (8091, [7971, 953]), (8092, [7972, 953]), (8093, [7973, 953]), (8094, [7974, 953]),
   (8095, [7975, 953]), (8096, [8032, 953]), (8097, [8033, 953]), (8098, [8034, 953]),
   (8099, [8035, 953]), (8100, [8036, 953]), (8101, [8037, 953]), (8102, [8038, 953]),
   (8103, [8039, 953]), (8104, [8032, 953]), (8105, [8033, 953]), (8106, [8034, 953]),
   (8107, [8035, 953]), (8108, [8036, 953]), (8109, [8037, 953]), (8110, [8038, 953]),
   (8111, [8039, 953]), (8114, [8048, 953]), (8115, [945, 953]), (8116, [940, 953]),
   (8118, [945, 834]), (8119, [945, 834, 953]), (8124, [945, 953]), (8130, [8052, 953]),
   (8131, [951, 953]), (8132, [942, 953]), (8134, [951, 834]), (8135, [951, 834, 953]),
   (8140, [951, 953]), (8146, [953, 776, 768]), (8147, [953, 776, 769]), (8150, [953, 834]),
   (8151, [953, 776, 834]), (8162, [965, 776, 768]), (8163, [965, 776, 769]), (8164, [961, 787]),
   (8166, [965, 834]), (8167, [965, 776, 834]), (8178, [8060, 953]), (8179, [969, 953]),
   (8180, [974, 953]), (8182, [969, 834]), (8183, [969, 834, 953]), (8188, [969, 953]),
   (64256, [102, 102]), (64257, [102, 105]), (64258, [102, 108]), (64259, [102, 102, 105]),
   (64260, [102, 102, 108]), (64261, [115, 116]), (64262, [115, 116]), (64275, [1396, 1398]),
   (64276, [1396, 1381]), (64277, [1396, 1387]), (64278, [1406, 1398]), (64279, [1396, 1389])]

/-- The case folding of one character. ASCII is decided first: it is in no table. -/
def casefoldChar (c : Char) : List Char :=
  if c.toNat < 128 then [c.toLower]
  else match casefoldExpansions.lookup c.toNat with
    | some folded => folded.map Char.ofNat
    | none =>
      match casefoldRuns.find? fun (first, last, stride, _) =>
          first ≤ c.toNat && c.toNat ≤ last && (c.toNat - first) % stride == 0 with
      | some (_, _, _, offset) => [Char.ofNat (c.toNat + offset).toNat]
      | none => [c]

/-- `str.casefold`. -/
def casefold (s : String) : String := String.ofList (s.toList.flatMap casefoldChar)

example : casefold "Straße ΑΣ" = "strasse ασ" := by decide +kernel

theorem toLower_of_not_ascii {c : Char} (h : 128 ≤ c.toNat) : c.toLower = c := by
  unfold Char.toLower
  refine dif_neg fun hupper => ?_
  have hhigh : c.toNat ≤ 90 := UInt32.le_iff_toNat_le.1 hupper.2
  omega

theorem toLower_cases (c : Char) :
    c.toLower = c ∨ 97 ≤ c.toLower.toNat ∧ c.toLower.toNat ≤ 122 := by
  unfold Char.toLower
  split
  next hupper =>
    right
    have hlow : 65 ≤ c.val.toNat := UInt32.le_iff_toNat_le.1 hupper.1
    have hhigh : c.val.toNat ≤ 90 := UInt32.le_iff_toNat_le.1 hupper.2
    have hshift : (c.val + ('a'.val - 'A'.val)).toNat = c.val.toNat + 32 := by
      rw [UInt32.toNat_add]
      change (c.val.toNat + 32) % 2 ^ 32 = _
      omega
    change 97 ≤ (c.val + ('a'.val - 'A'.val)).toNat ∧ (c.val + ('a'.val - 'A'.val)).toNat ≤ 122
    omega
  next => exact .inl rfl

theorem ascii_of_toLower {c : Char} (h : c.toLower.toNat < 128) : c.toNat < 128 := by
  by_contra hhigh
  rw [toLower_of_not_ascii (by omega)] at h
  exact hhigh h

theorem casefoldChar_of_ascii {c : Char} (h : c.toNat < 128) : casefoldChar c = [c.toLower] :=
  if_pos h

theorem flatMap_casefold_of_ascii {text : List Char} (h : ∀ c ∈ text, c.toNat < 128) :
    text.flatMap casefoldChar = text.map Char.toLower := by
  rw [List.map_eq_flatMap]
  exact List.flatMap_congr fun c hc => casefoldChar_of_ascii (h c hc)

/-- The folding of a character outside ASCII is one of the table's, one character that is not in ASCII, or
one of `s` and `k`. -/
theorem casefoldChar_of_not_ascii {c : Char} (h : 128 ≤ c.toNat) :
    (∃ folded, (c.toNat, folded) ∈ casefoldExpansions ∧ casefoldChar c = folded.map Char.ofNat) ∨
      ∃ d, casefoldChar c = [d] ∧ (128 ≤ d.toNat ∨ d = 's' ∨ d = 'k' ∨ d.toNat = 0) := by
  rw [casefoldChar, if_neg (by omega)]
  split
  next folded hfolded =>
    obtain ⟨before, after, hsplit, -⟩ := List.lookup_eq_some_iff.1 hfolded
    exact .inl ⟨folded, hsplit ▸ by simp, rfl⟩
  next =>
    right
    split
    next first last stride offset hrun =>
      refine ⟨_, rfl, ?_⟩
      have hmem := List.mem_of_find?_eq_some hrun
      have hsome := List.find?_some hrun
      have htable : ∀ run ∈ casefoldRuns, 128 ≤ (run.1 : Int) + run.2.2.2 ∨
          run.1 = run.2.1 ∧ (run.1 + run.2.2.2 = 115 ∨ run.1 + run.2.2.2 = 107) := by decide +kernel
      have hrun' := htable _ hmem
      simp only [Bool.and_eq_true, decide_eq_true_eq] at hsome hrun'
      have hcode : 128 ≤ ((c.toNat : Int) + offset).toNat ∨ ((c.toNat : Int) + offset).toNat = 115 ∨
          ((c.toNat : Int) + offset).toNat = 107 := by omega
      rcases hcode with hcode | hcode | hcode
      · by_cases hvalid : ((c.toNat : Int) + offset).toNat.isValidChar
        · have hvalue : Char.ofNat ((c.toNat : Int) + offset).toNat =
              Char.ofNatAux _ hvalid := dif_pos hvalid
          rw [hvalue]
          exact .inl hcode
        · have hvalue : Char.ofNat ((c.toNat : Int) + offset).toNat = '\x00' := dif_neg hvalid
          rw [hvalue]
          exact .inr (.inr (.inr rfl))
      · rw [hcode]
        exact .inr (.inl rfl)
      · rw [hcode]
        exact .inr (.inr (.inl rfl))
    next => exact ⟨c, rfl, .inl h⟩

/-! ### Stripping and splitting -/

/-- The code points `str.isspace` accepts. -/
def whitespace : List Nat :=
  [9, 10, 11, 12, 13, 28, 29, 30, 31, 32, 133, 160, 5760, 8192, 8193, 8194, 8195, 8196, 8197, 8198,
   8199, 8200, 8201, 8202, 8232, 8233, 8239, 8287, 12288]

def isSpace (c : Char) : Bool := whitespace.contains c.toNat

/-- Drop the characters satisfying `p` from both ends. -/
def stripWhere (p : Char → Bool) (s : List Char) : List Char :=
  ((s.dropWhile p).reverse.dropWhile p).reverse

/-- `str.strip()`. -/
def strip (s : String) : String := String.ofList (stripWhere isSpace s.toList)

theorem stripWhere_split (p : Char → Bool) (s : List Char) :
    ∃ leading trailing, s = leading ++ stripWhere p s ++ trailing ∧ (∀ c ∈ leading, p c = true) ∧
      ∀ c ∈ trailing, p c = true := by
  refine ⟨s.takeWhile p, ((s.dropWhile p).reverse.takeWhile p).reverse, ?_,
    fun c hc => List.mem_takeWhile_imp hc,
    fun c hc => List.mem_takeWhile_imp (List.mem_reverse.1 hc)⟩
  rw [stripWhere, List.append_assoc, ← List.reverse_append, List.takeWhile_append_dropWhile,
    List.reverse_reverse, List.takeWhile_append_dropWhile]

theorem dropWhile_append_of_all {p : Char → Bool} {leading rest : List Char} {c : Char}
    (h : ∀ d ∈ leading, p d = true) (hc : p c = false) :
    (leading ++ c :: rest).dropWhile p = c :: rest := by
  rw [List.dropWhile_append_of_pos h, List.dropWhile_cons_of_neg (by simp [hc])]

theorem stripWhere_append {p : Char → Bool} {leading middle trailing : List Char} {first last : Char}
    (hleading : ∀ c ∈ leading, p c = true) (htrailing : ∀ c ∈ trailing, p c = true)
    (hfirst : middle.head? = some first) (hlast : middle.getLast? = some last)
    (hfirst' : p first = false) (hlast' : p last = false) :
    stripWhere p (leading ++ middle ++ trailing) = middle := by
  obtain ⟨rest, rfl⟩ := List.head?_eq_some_iff.1 hfirst
  obtain ⟨init, hinit⟩ := List.getLast?_eq_some_iff.1 hlast
  have hback : (first :: rest ++ trailing).reverse = trailing.reverse ++ last :: init.reverse := by
    rw [hinit]
    simp
  rw [stripWhere, List.append_assoc, List.cons_append, dropWhile_append_of_all hleading hfirst',
    ← List.cons_append, hback,
    dropWhile_append_of_all (fun c hc => htrailing c (List.mem_reverse.1 hc)) hlast', hinit]
  simp

/-- `str.split(separator)` for a one-character separator. -/
def split (separator : Char) (s : String) : List String :=
  (s.toList.splitOn separator).map String.ofList

/-- `str.replace(old, new)` for one-character strings. -/
def replaceChar (old new : Char) (s : String) : String :=
  String.ofList (s.toList.map fun c => if c = old then new else c)

example : (split ';' " a ;b;").map strip = ["a", "b", ""] := by decide +kernel

/-! ### Bytes -/

/-- `str.encode("utf-8")`. -/
def encode (s : String) : List UInt8 := s.toByteArray.data.toList

/-- `bytes.decode("utf-8")`; `none` is a `UnicodeDecodeError`. -/
def decodeUtf8 (bytes : List UInt8) : Option String := String.fromUTF8? ⟨bytes.toArray⟩

theorem decodeUtf8_encode (text : String) : decodeUtf8 (encode text) = some text := by
  have hvalid : (⟨(encode text).toArray⟩ : ByteArray) = text.toByteArray := by
    simp [encode]
  rw [decodeUtf8, hvalid, String.fromUTF8?, dif_pos text.isValidUTF8]
  rfl

/-- `bytes.decode("ascii")`; `none` is a `UnicodeDecodeError`. -/
def decodeAscii (bytes : List UInt8) : Option String :=
  if bytes.all (· < 128) then some (String.ofList (bytes.map fun b => Char.ofNat b.toNat)) else none

/-! ### Paths -/

/-- A parsed `PurePosixPath`: `.` components and doubled slashes are gone, so equal paths are equal
values. -/
structure PosixPath where
  root : String
  parts : List String
  deriving DecidableEq, Repr

namespace PosixPath

/-- `PurePosixPath(text)`. Exactly two leading slashes are a root of their own. -/
def parse (text : String) : PosixPath where
  root := match text.toList with
    | '/' :: '/' :: '/' :: _ => "/"
    | '/' :: '/' :: _ => "//"
    | '/' :: _ => "/"
    | _ => ""
  parts := (split '/' text).filter fun part => part ≠ "" && part ≠ "."

def isAbsolute (path : PosixPath) : Bool := path.root ≠ ""

/-- `path.as_posix()`. -/
def asPosix (path : PosixPath) : String :=
  if path.root = "" && path.parts = [] then "." else path.root ++ "/".intercalate path.parts

end PosixPath

end DataRescue.Python
