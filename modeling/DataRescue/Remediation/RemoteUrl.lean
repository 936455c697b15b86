import DataRescue.Python.Text
import Mathlib.Data.List.TakeWhile

/-!
# Remote URLs

`_github_repository_from_remote_url` of `packages/remediation/github.py`, over Python's `urlsplit`.
The latter raises a `ValueError` for an unbalanced or invalid bracketed host and for a network
location whose compatibility normalisation introduces a delimiter.
-/

namespace DataRescue

open Python

/-- `text.partition(separator)`: the text before the first separator, and what follows it. -/
def partition (separator : Char) (text : List Char) : List Char × Option (List Char) :=
  match text.dropWhile (· ≠ separator) with
  | [] => (text, none)
  | _ :: rest => (text.takeWhile (· ≠ separator), some rest)

/-- `text.rpartition(separator)`: what precedes the last separator, and the text after it. -/
def rpartition (separator : Char) (text : List Char) : Option (List Char) × List Char :=
  match partition separator text.reverse with
  | (last, none) => (none, last.reverse)
  | (last, some rest) => (some rest.reverse, last.reverse)

theorem dropWhile_ne_cons {separator c : Char} {text tail : List Char}
    (h : text.dropWhile (· ≠ separator) = c :: tail) : c = separator := by
  have hhead := List.head?_dropWhile_not (fun c => decide (c ≠ separator)) text
  rw [h] at hhead
  simpa using hhead

theorem partition_some {separator : Char} {text first rest : List Char} :
    partition separator text = (first, some rest) ↔
      text = first ++ separator :: rest ∧ separator ∉ first := by
  have hsplit := List.takeWhile_append_dropWhile (p := fun c => decide (c ≠ separator)) (l := text)
  unfold partition
  split
  next hnil =>
    constructor
    · intro h
      cases h
    · rintro ⟨rfl, -⟩
      rw [List.dropWhile_eq_nil_iff] at hnil
      exact absurd (hnil separator (by simp)) (by simp)
  next c tail hdrop =>
    obtain rfl := dropWhile_ne_cons hdrop
    rw [hdrop] at hsplit
    constructor
    · intro h
      cases h
      exact ⟨hsplit.symm, fun hmem => by simpa using List.mem_takeWhile_imp hmem⟩
    · rintro ⟨rfl, hfirst⟩
      have hall : ∀ d ∈ first, decide (d ≠ c) = true :=
        fun d hd => decide_eq_true (ne_of_mem_of_not_mem hd hfirst)
      rw [List.takeWhile_append_of_pos hall, List.takeWhile_cons_of_neg (by simp),
        List.append_nil] at hsplit ⊢
      simp only [List.append_cancel_left_eq, List.cons.injEq, true_and] at hsplit
      rw [hsplit]

theorem partition_none {separator : Char} {text first : List Char} :
    partition separator text = (first, none) ↔ first = text ∧ separator ∉ text := by
  unfold partition
  split
  next hnil =>
    rw [List.dropWhile_eq_nil_iff] at hnil
    have hmem : separator ∉ text := fun hmem => absurd (hnil separator hmem) (by simp)
    simp [hmem, eq_comm]
  next c tail hdrop =>
    constructor
    · intro h
      cases h
    · rintro ⟨-, hmem⟩
      obtain rfl := dropWhile_ne_cons hdrop
      have hmem' : c ∈ text := (List.dropWhile_suffix _).subset (hdrop ▸ List.mem_cons_self ..)
      exact absurd hmem' hmem

theorem rpartition_some {separator : Char} {text first rest : List Char} :
    rpartition separator text = (some first, rest) ↔
      text = first ++ separator :: rest ∧ separator ∉ rest := by
  unfold rpartition
  split
  next last heq =>
    obtain ⟨-, hmem⟩ := partition_none.1 heq
    constructor
    · intro h
      cases h
    · rintro ⟨rfl, -⟩
      exact absurd hmem (by simp)
  next last before heq =>
    obtain ⟨htext, hmem⟩ := partition_some.1 heq
    have htext' : text = before.reverse ++ separator :: last.reverse := by
      rw [← List.reverse_reverse text, htext]
      simp
    constructor
    · intro h
      cases h
      exact ⟨htext', by simpa using hmem⟩
    · rintro ⟨htext, hrest⟩
      have hagain : partition separator text.reverse = (rest.reverse, some first.reverse) :=
        partition_some.2 ⟨by rw [htext]; simp, by simpa using hrest⟩
      rw [heq] at hagain
      cases hagain
      simp

theorem rpartition_none {separator : Char} {text rest : List Char} :
    rpartition separator text = (none, rest) ↔ rest = text ∧ separator ∉ text := by
  unfold rpartition
  split
  next last heq =>
    obtain ⟨rfl, hmem⟩ := partition_none.1 heq
    rw [List.mem_reverse] at hmem
    simp [hmem, eq_comm]
  next last before heq =>
    obtain ⟨htext, -⟩ := partition_some.1 heq
    constructor
    · intro h
      cases h
    · rintro ⟨-, hmem⟩
      have hmem' : separator ∈ text.reverse := htext ▸ by simp
      exact absurd (List.mem_reverse.1 hmem') hmem

/-! ### Bracketed hosts -/

def isHexDigit (c : Char) : Bool :=
  ('0' ≤ c && c ≤ '9') || ('a' ≤ c && c ≤ 'f') || ('A' ≤ c && c ≤ 'F')

def isAsciiDigit (c : Char) : Bool := '0' ≤ c && c ≤ '9'

/-- `int(text)` of ASCII digits. -/
def decimal (text : List Char) : Nat := text.foldl (fun n c => n * 10 + (c.toNat - 48)) 0

def isIpv4 (host : List Char) : Bool :=
  let octets := host.splitOn '.'
  octets.length == 4 && octets.all fun octet =>
    octet ≠ [] && octet.all isAsciiDigit && octet.length ≤ 3 &&
      (octet == ['0'] || octet.head? ≠ some '0') && decimal octet ≤ 255

def isHextet (part : List Char) : Bool := part ≠ [] && part.all isHexDigit && part.length ≤ 4

/-- The groups of an IPv6 address, a trailing IPv4 address counting as two. -/
def ipv6Groups (parts : List (List Char)) : Option (List (List Char)) :=
  match parts.getLast? with
  | some last =>
    if '.' ∈ last then
      if isIpv4 last then some (parts.dropLast ++ [['0'], ['0']]) else none
    else some parts
  | none => none

def isIpv6 (host : List Char) : Bool :=
  let (address, scope) := partition '%' host
  let parts := address.splitOn ':'
  !host.contains '/' && scope ≠ some [] && !(scope.getD []).contains '%' && 3 ≤ parts.length &&
    match ipv6Groups parts with
    | none => false
    | some groups =>
      let inner := (groups.drop 1).dropLast
      let skips := inner.count []
      groups.length ≤ 9 &&
        if skips = 0 then groups.length == 8 && groups.all isHextet
        else
          let before := groups.take (inner.idxOf [] + 1)
          let after := groups.drop (inner.idxOf [] + 2)
          let before := if before = [[]] then [] else before
          let after := if after = [[]] then [] else after
          skips == 1 && before.all isHextet && after.all isHextet &&
            before.length + after.length ≤ 7

/-- `_check_bracketed_host`, as a test. -/
def bracketedHostValid (host : List Char) : Bool :=
  match host with
  | 'v' :: rest =>
    match partition '.' rest with
    | (version, some address) =>
      version ≠ [] && version.all isHexDigit && address ≠ [] && !address.contains '\n'
    | _ => false
  | _ => !isIpv4 host && isIpv6 host

/-! ### `urlsplit` -/

structure SplitResult where
  scheme : String
  netloc : List Char
  path : List Char
  query : List Char
  fragment : List Char
  deriving DecidableEq

def isSchemeChar (c : Char) : Bool := c.isAlphanum || c == '+' || c == '-' || c == '.'

/-- The code points whose compatibility normalisation contains one of `/?#@:`. -/
def netlocDelimiterForms : List Nat :=
  [0x2047, 0x2048, 0x2049, 0x2100, 0x2101, 0x2105, 0x2106, 0x2a74, 0xfe13, 0xfe16, 0xfe55, 0xfe56,
   0xfe5f, 0xfe6b, 0xff03, 0xff0f, 0xff1a, 0xff1f, 0xff20]

/-- Split off a leading scheme. -/
def splitScheme (url : List Char) : String × List Char :=
  match partition ':' url with
  | (first :: scheme, some rest) =>
    if first.isAlpha ∧ scheme.all isSchemeChar then
      (String.ofList ((first :: scheme).map Char.toLower), rest)
    else ("", url)
  | _ => ("", url)

/-- Split off `//netloc`. -/
def splitNetloc : List Char → List Char × List Char
  | '/' :: '/' :: rest =>
    (rest.takeWhile fun c => c ≠ '/' && c ≠ '?' && c ≠ '#',
      rest.dropWhile fun c => c ≠ '/' && c ≠ '?' && c ≠ '#')
  | url => ([], url)

/-- `urlsplit`; `none` is a `ValueError`. -/
def urlsplit (url : String) : Option SplitResult :=
  let text := (url.toList.dropWhile fun c => c.toNat ≤ 32).filter fun c =>
    c ≠ '\t' && c ≠ '\r' && c ≠ '\n'
  let (scheme, text) := splitScheme text
  let (netloc, text) := splitNetloc text
  let bracketed := (partition ']' ((partition '[' netloc).2.getD [])).1
  if ('[' ∈ netloc) ≠ (']' ∈ netloc) then none
  else if '[' ∈ netloc ∧ ¬bracketedHostValid bracketed then none
  else
    let (text, fragment) := partition '#' text
    let (path, query) := partition '?' text
    if netloc.any fun c => netlocDelimiterForms.contains c.toNat then none
    else some { scheme, netloc, path, query := query.getD [], fragment := fragment.getD [] }

namespace SplitResult

/-- The user name and password of the network location. -/
def userinfo (parsed : SplitResult) : Option (List Char) × Option (List Char) :=
  match rpartition '@' parsed.netloc with
  | (none, _) => (none, none)
  | (some userinfo, _) => let (username, password) := partition ':' userinfo; (some username, password)

/-- The host and the text of the port. -/
def hostinfo (parsed : SplitResult) : List Char × List Char :=
  let hostinfo := (rpartition '@' parsed.netloc).2
  match partition '[' hostinfo with
  | (_, some bracketed) =>
    let (hostname, rest) := partition ']' bracketed
    (hostname, (partition ':' (rest.getD [])).2.getD [])
  | _ => let (hostname, port) := partition ':' hostinfo; (hostname, port.getD [])

/-- `parsed.port`; the outer `none` is a `ValueError`. -/
def port (parsed : SplitResult) : Option (Option Nat) :=
  let text := parsed.hostinfo.2
  if text = [] then some none
  else if text.all isAsciiDigit ∧ text.length ≤ maxIntDigits ∧ decimal text ≤ 65535 then
    some (some (decimal text))
  else none

end SplitResult

/-! ### The repository -/

/-- `[A-Za-z0-9_.-]+` -/
def isRepositoryPart (part : List Char) : Bool :=
  part ≠ [] && part.all fun c => c.isAlphanum || c == '_' || c == '.' || c == '-'

/-- `_repository_from_path` -/
def repositoryFromPath (path : List Char) : Option String :=
  let normalized := stripWhere (· == '/') path
  let normalized :=
    if ".git".toList.isSuffixOf (normalized.flatMap casefoldChar) then
      normalized.take (normalized.length - 4)
    else normalized
  match normalized.splitOn '/' with
  | [owner, name] =>
    if isRepositoryPart owner && isRepositoryPart name then some (String.ofList (owner ++ '/' :: name))
    else none
  | _ => none

/-- One literal of a case-insensitive pattern; an `i` also accepts the dotted capital and the dotless
small letter. -/
def matchesIgnoreCase (literal c : Char) : Bool :=
  c.toLower == literal || (literal == 'i' && (c.toNat == 0x130 || c.toNat == 0x131))

/-- `re.fullmatch(r"git@github\.com:([^?#]+)", url, flags=re.IGNORECASE)`, the captured path. -/
def scpPath (url : List Char) : Option (List Char) :=
  let literal := "git@github.com:".toList
  let path := url.drop literal.length
  if literal.length ≤ url.length ∧ (List.zipWith matchesIgnoreCase literal url).all id ∧
      path ≠ [] ∧ path.all fun c => c ≠ '?' && c ≠ '#' then some path
  else none

/-- `_github_repository_from_remote_url`; the outer `none` is the `ValueError` of `urlsplit`. The host
is compared case-folded, which its lower-casing does not change. -/
def githubRepositoryFromRemoteUrl (url : String) : Option (Option String) :=
  match scpPath url.toList with
  | some path => some (repositoryFromPath path)
  | none => (urlsplit url).map fun parsed =>
    match parsed.port with
    | none => none
    | some port =>
      if parsed.query ≠ [] ∨ parsed.fragment ≠ [] ∨ parsed.hostinfo.1 = [] then none
      else if parsed.hostinfo.1.flatMap casefoldChar ≠ "github.com".toList then none
      else
        let (username, password) := parsed.userinfo
        let trusted :=
          if parsed.scheme = "https" then
            username = none ∧ password = none ∧ (port = none ∨ port = some 443)
          else if parsed.scheme = "ssh" then
            username = some "git".toList ∧ password = none ∧ (port = none ∨ port = some 22)
          else False
        if trusted then repositoryFromPath parsed.path else none

example : githubRepositoryFromRemoteUrl "ssh://git@GitHub.com:22/owner/repo.git" =
    some (some "owner/repo") ∧
    githubRepositoryFromRemoteUrl "https://token@github.com/owner/repo" = some none := by
  decide +kernel

end DataRescue
