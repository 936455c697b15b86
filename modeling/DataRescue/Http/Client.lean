import DataRescue.Api.Models
import DataRescue.Concurrency.Program
import DataRescue.Python.Decode
import DataRescue.Python.Text

/-!
# HTTP clients

What the adapters for DataHub and OpenAI do with `httpx`: requests that are answered by a response or by
a transport error, and waits between attempts. A program over these operations is run against any
sequence of answers; `Remote` says that the answers are those a server or a network can give. The
attempts of a read-back are one loop, `retry`.
-/

namespace DataRescue

open Python Concurrency

/-- The exceptions of the adapters, with their texts. -/
inductive AdapterError where
  | httpError (message : String)
  | graphQLError (message : String)
  | valueError (message : String)
  | keyError (key : String)
  | typeError (message : String)
  | attributeError (message : String)
  deriving DecidableEq, Repr

/-- `str(error)` -/
def AdapterError.text : AdapterError → String
  | .httpError message | .graphQLError message | .valueError message | .typeError message
  | .attributeError message => message
  | .keyError key => s!"'{key}'"

/-- `str(last_error)` -/
def lastErrorText : Option AdapterError → String
  | some error => error.text
  | none => "None"

/-- The texts of the standard library and of `httpx`. Nothing the adapters decide depends on them,
except that a document is written as `dumps` has it. -/
structure Printing where
  str : Json → String
  repr : Json → String
  dumps : Json → String
  datetime : Timestamp → String
  loadsError : LoadsError → String → String
  statusError : Nat → String → String

inductive HttpOp where
  | post (url : String) (headers : List (String × String)) (json : Json)
  | get (url : String) (headers : List (String × String))
  | sleep (seconds : ℚ)

/-- The parts of a response the adapters read. -/
structure HttpResponse where
  status : Nat
  contentType : String := "application/json"
  sessionId : Option String := none
  text : String
  deriving DecidableEq

abbrev HttpOp.Reply : HttpOp → Type
  | .post .. | .get .. => HttpResponse
  | .sleep _ => Unit

abbrev Http := Program HttpOp HttpOp.Reply AdapterError

abbrev HttpCall := Exchange HttpOp HttpOp.Reply AdapterError

/-- The answers that can be given: responses and transport errors, and waits end. -/
def Remote (calls : List HttpCall) : Prop :=
  ∀ op error, ⟨op, .error error⟩ ∈ calls →
    (∀ seconds, op ≠ .sleep seconds) ∧ ∃ message, error = .httpError message

/-! ### Values -/

/-- `str(value)`, of a text the text itself. -/
def Printing.toText (printing : Printing) : Json → String
  | .str value => value
  | value => printing.str value

/-- The type name an exception prints. -/
def Python.Json.typeName : Json → String
  | .null => "NoneType"
  | .bool _ => "bool"
  | .int _ => "int"
  | .float _ => "float"
  | .str _ => "str"
  | .arr _ => "list"
  | .obj _ => "dict"

/-- What iterating over a decoded value yields. -/
def iterate : Json → Except AdapterError (List Json)
  | .arr items => .ok items
  | .obj fields => .ok (fields.map fun field => .str field.1)
  | .str value => .ok (value.toList.map fun c => .str (String.ofList [c]))
  | value => .error (.typeError s!"'{value.typeName}' object is not iterable")

/-- A value that can be iterated over. -/
def isIterable : Json → Bool
  | .arr _ | .obj _ | .str _ => true
  | _ => false

theorem iterate_ok {value : Json} (h : isIterable value = true) :
    ∃ items, iterate value = .ok items := by
  cases value <;> first | exact ⟨_, rfl⟩ | exact absurd h (by simp [isIterable])

theorem iterate_error {value : Json} (h : isIterable value = false) :
    ∃ message, iterate value = .error (.typeError message) := by
  cases value <;> first | exact ⟨_, rfl⟩ | exact absurd h (by simp [isIterable])

/-- `value[key]` -/
def subscript (value : Json) (key : String) : Except AdapterError Json :=
  match value with
  | .obj fields =>
    match getField fields key with
    | some value => .ok value
    | none => .error (.keyError key)
  | .arr _ => .error (.typeError "list indices must be integers or slices, not str")
  | .str _ => .error (.typeError "string indices must be integers, not 'str'")
  | value => .error (.typeError s!"'{value.typeName}' object is not subscriptable")

/-- `value == text` -/
def Python.Json.isText (value : Option Json) (text : String) : Bool := value = some (.str text)

theorem Python.Json.isText_iff {value : Option Json} {text : String} :
    Json.isText value text = true ↔ value = some (.str text) := decide_eq_true_iff

/-- `value == number`: booleans and floats are numbers too. -/
def Python.Json.isNumber (value : Option Json) (number : Int) : Bool :=
  match value with
  | some (.int value) => value = number
  | some (.bool value) => (if value then 1 else 0) = number
  | some (.float value) => value.eq (.finite number)
  | _ => false

namespace Http

def post (url : String) (headers : List (String × String)) (json : Json) : Http HttpResponse :=
  Program.perform (HttpOp.post url headers json)

def get (url : String) (headers : List (String × String)) : Http HttpResponse :=
  Program.perform (HttpOp.get url headers)

def sleep (seconds : ℚ) : Http Unit := Program.perform (HttpOp.sleep seconds)

def throw {α : Type} (error : AdapterError) : Http α := Program.throw error

/-- A computation that calls nothing. -/
def lift {α : Type} (result : Except AdapterError α) : Http α := .done result

variable (printing : Printing)

/-- `response.raise_for_status()` -/
def raiseForStatus (url : String) (response : HttpResponse) : Except AdapterError Unit :=
  if 200 ≤ response.status ∧ response.status < 300 then .ok ()
  else .error (.httpError (printing.statusError response.status url))

/-- `json.loads` with its exceptions. -/
def decode (text : String) : Except AdapterError Json :=
  (loads text).mapError fun error => .valueError (printing.loadsError error text)

/-- `response.raise_for_status()`, then `response.json()`. -/
def jsonBody (url : String) (response : HttpResponse) : Except AdapterError Json := do
  raiseForStatus printing url response
  decode printing response.text

/-- Attempt a read up to `attempts` times, with a wait between two attempts. An exception that is not
caught ends the loop; when no attempt is left, `failure` makes an exception of the last one. -/
def retry {α : Type} (delaySeconds : ℚ) (catches : AdapterError → Bool) (attempt : Http α)
    (failure : Option AdapterError → AdapterError) : Nat → Option AdapterError → Http α
  | 0, lastError => throw (failure lastError)
  | attempts + 1, _ =>
    attempt.tryCatch fun error =>
      if catches error then do
        if attempts ≠ 0 ∧ delaySeconds ≠ 0 then sleep delaySeconds
        retry delaySeconds catches attempt failure attempts (some error)
      else throw error

end Http

/-! ### Encodings -/

/-- `needle in text` -/
def containsText (text needle : String) : Bool :=
  text.toList.tails.any fun rest => needle.toList.isPrefixOf rest

/-- `text.startswith(start)` -/
def startsWith (text start : String) : Bool := start.toList.isPrefixOf text.toList

def upperHexDigit (n : Nat) : Char := "0123456789ABCDEF".toList.getD n '0'

/-- `quote(text, safe="")` -/
def quoteUrl (text : String) : String :=
  String.ofList ((encode text).flatMap fun byte =>
    let c := Char.ofNat byte.toNat
    if byte < 128 ∧ (c.isAlphanum ∨ "_.-~".toList.contains c) then [c]
    else ['%', upperHexDigit (byte.toNat / 16), upperHexDigit (byte.toNat % 16)])

example : quoteUrl "urn:li:incident:é" = "urn%3Ali%3Aincident%3A%C3%A9" := by decide +kernel

/-- `re.escape(text)` -/
def escapePattern (text : String) : String :=
  String.ofList (text.toList.flatMap fun c =>
    if "()[]\x7b\x7d?*+-|^$\\.&~# \t\n\x0d\x0b\x0c".toList.contains c then ['\\', c] else [c])

/-- The authorization header of a token that is set. -/
def bearer (token : Option String) : List (String × String) :=
  match token with
  | some token => if token ≠ "" then [("Authorization", s!"Bearer {token}")] else []
  | none => []

end DataRescue
