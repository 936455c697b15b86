import DataRescue.Python.Text

/-!
# Lines and words

What a text read from a process goes through: `subprocess` decodes it with universal newlines, and the
caller splits it into lines or words. `str.splitlines` ends a line at more characters than `\n`.
-/

namespace DataRescue.Python

/-- Both `\r\n` and a lone `\r` are read as `\n`. -/
def universalNewlines : List Char → List Char
  | '\x0d' :: '\n' :: rest => '\n' :: universalNewlines rest
  | '\x0d' :: rest => '\n' :: universalNewlines rest
  | c :: rest => c :: universalNewlines rest
  | [] => []

/-- The characters at which `str.splitlines` ends a line. -/
def lineBreaks : List Nat := [10, 11, 12, 13, 28, 29, 30, 133, 8232, 8233]

/-- `text.splitlines()`, the characters of the current line first, in reverse. -/
def splitlinesFrom (line : List Char) : List Char → List String
  | [] => if line = [] then [] else [String.ofList line.reverse]
  | '\x0d' :: '\n' :: rest => String.ofList line.reverse :: splitlinesFrom [] rest
  | c :: rest =>
    if lineBreaks.contains c.toNat then String.ofList line.reverse :: splitlinesFrom [] rest
    else splitlinesFrom (c :: line) rest

def splitlines (text : String) : List String := splitlinesFrom [] text.toList

/-- `text.split()` -/
def words (text : String) : List String :=
  ((text.toList.splitOnP isSpace).filter (· ≠ [])).map String.ofList

example : splitlines "a\x0d\nb\n\nc" = ["a", "b", "", "c"] ∧ words " a\tb " = ["a", "b"] := by
  decide +kernel

theorem splitlinesFrom_break {c : Char} (hreturn : c ≠ '\x0d') (h : lineBreaks.contains c.toNat = true)
    (line rest : List Char) :
    splitlinesFrom line (c :: rest) = String.ofList line.reverse :: splitlinesFrom [] rest := by
  rw [splitlinesFrom]
  · rw [if_pos h]
  · intro _ hc
    exact absurd hc hreturn

theorem splitlinesFrom_cons {c : Char} (h : lineBreaks.contains c.toNat = false)
    (line rest : List Char) : splitlinesFrom line (c :: rest) = splitlinesFrom (c :: line) rest := by
  rw [splitlinesFrom]
  · rw [if_neg (by rw [h]; decide)]
  · rintro _ rfl
    exact absurd h (by decide)

/-- No character of the text ends a line. -/
def SingleLine (text : String) : Prop := ∀ c ∈ text.toList, lineBreaks.contains c.toNat = false

theorem SingleLine.append {text text' : String} (h : SingleLine text) (h' : SingleLine text') :
    SingleLine (text ++ text') := by
  intro c hc
  rw [String.toList_append] at hc
  exact (List.mem_append.1 hc).elim (h c) (h' c)

theorem splitlinesFrom_line {text : List Char} (h : ∀ c ∈ text, lineBreaks.contains c.toNat = false)
    (line rest : List Char) :
    splitlinesFrom line (text ++ '\n' :: rest) =
      String.ofList (line.reverse ++ text) :: splitlinesFrom [] rest := by
  induction text generalizing line with
  | nil =>
    rw [List.nil_append, List.append_nil]
    exact splitlinesFrom_break (by decide) (by decide) line rest
  | cons c text ih =>
    rw [List.cons_append, splitlinesFrom_cons (h c List.mem_cons_self),
      ih fun other hother => h other (List.mem_cons_of_mem _ hother)]
    rw [List.reverse_cons, List.append_assoc, List.singleton_append]

/-- Lines, each with its end. -/
def unlines : List String → String
  | [] => ""
  | line :: lines => line ++ "\n" ++ unlines lines

theorem splitlines_unlines {lines : List String} (h : ∀ line ∈ lines, SingleLine line) :
    splitlines (unlines lines) = lines := by
  unfold splitlines
  induction lines with
  | nil => rfl
  | cons line lines ih =>
    have hbreak : "\n".toList = ['\n'] := by decide
    rw [unlines, String.toList_append, String.toList_append, hbreak, List.append_assoc,
      List.singleton_append, splitlinesFrom_line (h line List.mem_cons_self), List.reverse_nil,
      List.nil_append, String.ofList_toList, ih fun other hother => h other (List.mem_cons_of_mem _ hother)]

/-! ### Digits -/

/-- The runs of code points that `str.isdigit` accepts. -/
def digitRuns : List (Nat × Nat) :=
  [(48, 57), (178, 179), (185, 185), (1632, 1641), (1776, 1785), (1984, 1993), (2406, 2415),
   (2534, 2543), (2662, 2671), (2790, 2799), (2918, 2927), (3046, 3055), (3174, 3183), (3302, 3311),
   (3430, 3439), (3558, 3567), (3664, 3673), (3792, 3801), (3872, 3881), (4160, 4169), (4240, 4249),
   (4969, 4977), (6112, 6121), (6160, 6169), (6470, 6479), (6608, 6618), (6784, 6793), (6800, 6809),
   (6992, 7001), (7088, 7097), (7232, 7241), (7248, 7257), (8304, 8304), (8308, 8313), (8320, 8329),
   (9312, 9320), (9332, 9340), (9352, 9360), (9450, 9450), (9461, 9469), (9471, 9471),
   (10102, 10110), (10112, 10120), (10122, 10130), (42528, 42537), (43216, 43225), (43264, 43273),
   (43472, 43481), (43504, 43513), (43600, 43609), (44016, 44025), (65296, 65305), (66720, 66729),
   (68160, 68163), (68912, 68921), (69216, 69224), (69714, 69722), (69734, 69743), (69872, 69881),
   (69942, 69951), (70096, 70105), (70384, 70393), (70736, 70745), (70864, 70873), (71248, 71257),
   (71360, 71369), (71472, 71481), (71904, 71913), (72016, 72025), (72784, 72793), (73040, 73049),
   (73120, 73129), (92768, 92777), (92864, 92873), (93008, 93017), (120782, 120831),
   (123200, 123209), (123632, 123641), (125264, 125273), (127232, 127242), (130032, 130041)]

/-- `text.isdigit()` -/
def isdigit (text : List Char) : Bool :=
  text ≠ [] && text.all fun c => digitRuns.any fun (first, last) => first ≤ c.toNat && c.toNat ≤ last

end DataRescue.Python
