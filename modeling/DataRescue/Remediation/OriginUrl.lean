import DataRescue.Remediation.RemoteUrl
import DataRescue.Text.Pattern

/-!
# Which remote URLs name the repository

`_github_repository_from_remote_url` accepts three forms of a URL (`Names`). Its first form is matched with
`re.IGNORECASE`, so it is also accepted with `git@github.com` in other letters (`ForeignScp`); nothing else
is accepted (`githubRepositoryFromRemoteUrl_iff`).
-/

namespace DataRescue

open Python

/-! ### The accepted forms -/

/-- The text `urlsplit` reads: control characters and spaces in front are dropped, tabs and line breaks
everywhere. -/
def urlText (url : String) : List Char :=
  (url.toList.dropWhile fun c => c.toNat ≤ 32).filter fun c => c ≠ '\t' && c ≠ '\r' && c ≠ '\n'

/-- `github.com`, in ASCII letters of either case. -/
def IsGithubHost (host : List Char) : Prop := host.map Char.toLower = "github.com".toList

/-- No digits, or those of the number, with leading zeros as far as `int` reads them. -/
def PortDigits (number : Nat) (digits : List Char) : Prop :=
  digits = [] ∨
    digits.all isAsciiDigit = true ∧ digits.length ≤ maxIntDigits ∧ decimal digits = number

/-- Nothing, or a colon and the number of the port, if any. -/
def IsPort (number : Nat) (port : List Char) : Prop :=
  port = [] ∨ ∃ digits, port = ':' :: digits ∧ PortDigits number digits

/-- The path, after the outer slashes and one `.git`, is `owner/name`. -/
def PathNames (path : List Char) (repository : String) : Prop :=
  ∃ leading owner name suffix trailing : List Char,
    path = leading ++ (owner ++ '/' :: name ++ suffix) ++ trailing ∧ (∀ c ∈ leading, c = '/') ∧
      (∀ c ∈ trailing, c = '/') ∧ isRepositoryPart owner = true ∧ isRepositoryPart name = true ∧
        (suffix.map Char.toLower = ".git".toList ∨
          suffix = [] ∧ ¬".git".toList <:+ (owner ++ '/' :: name).map Char.toLower) ∧
          repository = String.ofList (owner ++ '/' :: name)

/-- The scheme, the user and the port of the two forms that `urlsplit` reads. -/
def webForms : List (String × String × Nat) := [("https", "", 443), ("ssh", "git@", 22)]

/-- Nothing, or the marks of an empty query and of an empty fragment. -/
def emptyQueries : List (List Char) := [[], ['?'], ['#'], ['?', '#']]

/-- The URL has one of the accepted forms, with this path. -/
inductive OriginForm (url : String) (path : List Char) : Prop where
  | scp (host : List Char) (htext : url.toList = "git@".toList ++ host ++ ':' :: path)
      (hhost : IsGithubHost host) (hpath : ∀ c ∈ path, c ≠ '?' ∧ c ≠ '#')
  | web (scheme : List Char) (form : String × String × Nat) (host port rest : List Char)
      (htext : urlText url =
        scheme ++ "://".toList ++ form.2.1.toList ++ host ++ port ++ path ++ rest)
      (hform : form ∈ webForms) (hscheme : scheme.map Char.toLower = form.1.toList)
      (hhost : IsGithubHost host) (hport : IsPort form.2.2 port) (hslash : path.head? = some '/')
      (hpath : ∀ c ∈ path, c ≠ '?' ∧ c ≠ '#')
      (hrest : rest ∈ emptyQueries)

/-- The URL names the repository in one of the accepted forms. -/
def Names (url : String) (repository : String) : Prop :=
  ∃ path, OriginForm url path ∧ PathNames path repository

/-- The URL reads `git@github.com:path` under `re.IGNORECASE`, but its user is not `git` or its host is
not `github.com` in ASCII letters. -/
def ForeignScp (url : String) (repository : String) : Prop :=
  ∃ user host path, url.toList = user ++ '@' :: host ++ ':' :: path ∧
    List.Forall₂ (fun literal c => matchesIgnoreCase literal c = true) "git".toList user ∧
      List.Forall₂ (fun literal c => matchesIgnoreCase literal c = true) "github.com".toList host ∧
        ¬(user = "git".toList ∧ IsGithubHost host) ∧ (∀ c ∈ path, c ≠ '?' ∧ c ≠ '#') ∧
          PathNames path repository

/-! ### Folding into the letters of the host -/

/-- The letters of `github.com`, those of `.git` among them. -/
def hostLetters : List Char := "github.com".toList

theorem hostLetters_eq : hostLetters = ['g', 'i', 't', 'h', 'u', 'b', '.', 'c', 'o', 'm'] := by
  delta hostLetters
  simp

theorem hostLetters_ascii : ∀ letter ∈ hostLetters, letter.toNat < 128 := by
  rw [hostLetters_eq]
  decide

/-- A character outside ASCII does not fold to letters of the host only. What precedes the last letter of
its folding, where that is one of these, is not. -/
theorem casefoldChar_last {c : Char} (h : 128 ≤ c.toNat) : ∃ init last, casefoldChar c = init ++ [last] ∧
    (last ∉ hostLetters ∨ last ≠ '.' ∧ ∃ before d, init = before ++ [d] ∧ d ∉ hostLetters) := by
  rcases casefoldChar_of_not_ascii h with ⟨folded, hfolded, heq⟩ | ⟨d, heq, hd⟩
  · have htable : ∀ entry ∈ casefoldExpansions, ∀ folded ∈ [entry.2.map Char.ofNat],
        folded ≠ [] ∧ (folded.getLast?.getD ' ' ∉ hostLetters ∨ folded.getLast?.getD ' ' ≠ '.' ∧
          folded.dropLast ≠ [] ∧ folded.dropLast.getLast?.getD '.' ∉ hostLetters) := by decide
    obtain ⟨hne, hlast⟩ := htable _ hfolded _ (List.mem_singleton_self _)
    rw [heq]
    generalize folded.map Char.ofNat = letters at hne hlast
    obtain ⟨init, last, rfl⟩ := List.eq_nil_or_concat' letters |>.resolve_left hne
    rw [List.getLast?_concat, List.dropLast_concat] at hlast
    refine ⟨init, last, rfl, hlast.imp_right fun ⟨hdot, hinit, hd⟩ => ⟨hdot, ?_⟩⟩
    obtain ⟨before, d, rfl⟩ := List.eq_nil_or_concat' init |>.resolve_left hinit
    rw [List.getLast?_concat] at hd
    exact ⟨before, d, rfl, hd⟩
  · refine ⟨[], d, heq, .inl fun hmem => ?_⟩
    have hletters : ∀ letter ∈ hostLetters, letter.toNat < 128 ∧ letter ≠ 's' ∧ letter ≠ 'k' ∧
        letter.toNat ≠ 0 := by
      rw [hostLetters_eq]
      decide
    obtain ⟨hascii, hs, hk, hzero⟩ := hletters d hmem
    rcases hd with hd | hd | hd | hd
    · omega
    · exact hs hd
    · exact hk hd
    · exact hzero hd

theorem ascii_of_casefold {text : List Char} (h : ∀ d ∈ text.flatMap casefoldChar, d ∈ hostLetters) :
    ∀ c ∈ text, c.toNat < 128 := by
  intro c hc
  by_contra hhigh
  obtain ⟨init, last, heq, hlast⟩ := casefoldChar_last (Nat.not_lt.1 hhigh)
  have hletters : ∀ d ∈ init ++ [last], d ∈ hostLetters :=
    fun d hd => h d (List.mem_flatMap.2 ⟨c, hc, heq ▸ hd⟩)
  rcases hlast with hlast | ⟨-, before, d, rfl, hd⟩
  · exact hlast (hletters last (by simp))
  · exact hd (hletters d (by simp))

theorem ascii_of_lower {text : List Char} {literal : List Char} (h : text.map Char.toLower = literal)
    (hliteral : ∀ d ∈ literal, d.toNat < 128) : ∀ c ∈ text, c.toNat < 128 := by
  intro c hc
  exact ascii_of_toLower (hliteral _ (h ▸ List.mem_map_of_mem hc))

theorem casefold_host {host : List Char} :
    host.flatMap casefoldChar = "github.com".toList ↔ IsGithubHost host := by
  constructor
  · intro h
    have hascii : ∀ c ∈ host, c.toNat < 128 := by
      refine ascii_of_casefold fun d hd => ?_
      rwa [h] at hd
    rw [IsGithubHost, ← flatMap_casefold_of_ascii hascii, h]
  · intro h
    rw [flatMap_casefold_of_ascii (ascii_of_lower h hostLetters_ascii), h]

theorem concat_suffix {first second : List Char} {c d : Char} (h : first ++ [c] <:+ second ++ [d]) :
    c = d ∧ first <:+ second := by
  rcases List.suffix_concat_iff.1 h with hnil | ⟨before, heq, hsuffix⟩
  · exact absurd hnil (by simp)
  · obtain ⟨rfl, hlast⟩ := List.append_inj' heq rfl
    exact ⟨List.head_eq_of_cons_eq hlast, hsuffix⟩

theorem suffix_casefold (letters : List Char) (letter : Char) {text : List Char} (hletter : letter ∈ hostLetters)
    (hletters : ∀ d ∈ letters, d ∈ hostLetters) (hfirst : letters = [] → letter = '.')
    (h : letters ++ [letter] <:+ text.flatMap casefoldChar) :
    ∃ init c, text = init ++ [c] ∧ c.toLower = letter ∧ letters <:+ init.flatMap casefoldChar := by
  have hne : text ≠ [] := by
    rintro rfl
    exact absurd (List.suffix_nil.1 h) (by simp)
  obtain ⟨init, c, rfl⟩ := List.eq_nil_or_concat' text |>.resolve_left hne
  refine ⟨init, c, rfl, ?_⟩
  rw [List.flatMap_append, List.flatMap_singleton] at h
  by_cases hascii : c.toNat < 128
  · rw [casefoldChar_of_ascii hascii] at h
    obtain ⟨rfl, hrest⟩ := concat_suffix h
    exact ⟨rfl, hrest⟩
  · obtain ⟨before, last, heq, hlast⟩ := casefoldChar_last (Nat.not_lt.1 hascii)
    rw [heq, ← List.append_assoc] at h
    obtain ⟨rfl, hrest⟩ := concat_suffix h
    rcases hlast with hlast | ⟨hdot, before, d, rfl, hd⟩
    · exact absurd hletter hlast
    · -- The letter before the last one would have to be of the host too.
      obtain ⟨rest, e, rfl⟩ := List.eq_nil_or_concat' letters |>.resolve_left fun hnil => hdot (hfirst hnil)
      rw [← List.append_assoc] at hrest
      obtain ⟨rfl, -⟩ := concat_suffix hrest
      exact absurd (hletters e (by simp)) hd

theorem git_suffix {text : List Char} : ".git".toList <:+ text.flatMap casefoldChar ↔
    ∃ stem suffix, text = stem ++ suffix ∧ suffix.map Char.toLower = ".git".toList := by
  constructor
  · intro h
    obtain ⟨_, t, rfl, ht, h⟩ := suffix_casefold ['.', 'g', 'i'] 't'
      (by decide) (by decide) (by simp) h
    obtain ⟨_, i, rfl, hi, h⟩ := suffix_casefold ['.', 'g'] 'i'
      (by decide) (by decide) (by simp) h
    obtain ⟨_, g, rfl, hg, h⟩ := suffix_casefold ['.'] 'g'
      (by decide) (by decide) (by simp) h
    obtain ⟨stem, dot, rfl, hdot, -⟩ := suffix_casefold [] '.'
      (by decide) (by simp) (fun _ => rfl) h
    refine ⟨stem, [dot, g, i, t], by simp, ?_⟩
    rw [List.map_cons, List.map_cons, List.map_cons, List.map_cons, hdot, hg, hi, ht]
    rfl
  · rintro ⟨stem, suffix, rfl, hsuffix⟩
    have hascii := ascii_of_lower hsuffix (by simp)
    rw [List.flatMap_append, flatMap_casefold_of_ascii hascii, hsuffix]
    exact List.suffix_append _ _

/-! ### The path -/

theorem repositoryPart_no_slash {part : List Char} (h : isRepositoryPart part = true) : '/' ∉ part := by
  intro hmem
  simp only [isRepositoryPart, Bool.and_eq_true, List.all_eq_true] at h
  exact absurd (h.2 '/' hmem) (by decide)

theorem repositoryPart_ascii {part : List Char} (h : isRepositoryPart part = true) :
    ∀ c ∈ part, c.toNat < 128 := by
  intro c hc
  simp only [isRepositoryPart, Bool.and_eq_true, List.all_eq_true] at h
  delta Char.isAlphanum Char.isAlpha Char.isUpper Char.isLower Char.isDigit at h
  simp only [Bool.and_eq_true, Bool.or_eq_true, beq_iff_eq, decide_eq_true_eq, ge_iff_le,
    UInt32.le_iff_toNat_le] at h
  change c.val.toNat < 128
  rcases h.2 c hc with ((((hletter | hletter) | hletter) | rfl) | rfl) | rfl
  · exact Nat.lt_of_le_of_lt hletter.2 (by decide)
  · exact Nat.lt_of_le_of_lt hletter.2 (by decide)
  · exact Nat.lt_of_le_of_lt hletter.2 (by decide)
  · decide
  · decide
  · decide

theorem repositoryPart_cons {part : List Char} (h : isRepositoryPart part = true) :
    part ≠ [] := by
  simp only [isRepositoryPart, Bool.and_eq_true, decide_eq_true_eq] at h
  exact h.1

theorem splitOn_slash {text owner name : List Char} (howner : isRepositoryPart owner = true)
    (hname : isRepositoryPart name = true) :
    text.splitOn '/' = [owner, name] ↔ text = owner ++ '/' :: name := by
  constructor
  · intro h
    have hjoin : ['/'].intercalate (text.splitOn '/') = text := List.intercalate_splitOn '/'
    rw [← hjoin, h, List.intercalate_cons_cons]
    simp
  · rintro rfl
    have hjoin : ['/'].intercalate [owner, name] = owner ++ '/' :: name := by
      rw [List.intercalate_cons_cons]
      simp
    rw [← hjoin]
    refine List.splitOn_intercalate '/' ?_ (by simp)
    intro part hpart
    simp only [List.mem_cons, List.not_mem_nil, or_false] at hpart
    rcases hpart with rfl | rfl
    · exact repositoryPart_no_slash howner
    · exact repositoryPart_no_slash hname

/-- The path without its outer slashes and one `.git`. -/
def repositoryText (path : List Char) : List Char :=
  let normalized := stripWhere (· == '/') path
  if ".git".toList.isSuffixOf (normalized.flatMap casefoldChar) then
    normalized.take (normalized.length - 4)
  else normalized

/-- `owner/name`, if the text is one. -/
def repositoryOf (text : List Char) : Option String :=
  match text.splitOn '/' with
  | [owner, name] =>
    if isRepositoryPart owner && isRepositoryPart name then some (String.ofList (owner ++ '/' :: name))
    else none
  | _ => none

theorem repositoryFromPath_eq (path : List Char) :
    repositoryFromPath path = repositoryOf (repositoryText path) := rfl

theorem repositoryOf_iff {text : List Char} {repository : String} :
    repositoryOf text = some repository ↔ ∃ owner name, isRepositoryPart owner = true ∧
      isRepositoryPart name = true ∧ text = owner ++ '/' :: name ∧
        repository = String.ofList (owner ++ '/' :: name) := by
  unfold repositoryOf
  constructor
  · intro h
    split at h
    next owner name hsplit =>
      split at h
      next hparts =>
        obtain ⟨howner, hname⟩ := Bool.and_eq_true_iff.1 hparts
        exact ⟨owner, name, howner, hname, (splitOn_slash howner hname).1 hsplit,
          (Option.some.inj h).symm⟩
      next => exact absurd h (by simp)
    next => exact absurd h (by simp)
  · rintro ⟨owner, name, howner, hname, htext, rfl⟩
    rw [(splitOn_slash howner hname).2 htext]
    simp [howner, hname]

theorem repository_ascii {owner name : List Char} (howner : isRepositoryPart owner = true)
    (hname : isRepositoryPart name = true) : ∀ c ∈ owner ++ '/' :: name, c.toNat < 128 := by
  intro c hc
  rw [List.mem_append, List.mem_cons] at hc
  rcases hc with hc | rfl | hc
  · exact repositoryPart_ascii howner c hc
  · decide
  · exact repositoryPart_ascii hname c hc

theorem strip_slashes {leading owner rest trailing : List Char} (hleading : ∀ c ∈ leading, c = '/')
    (htrailing : ∀ c ∈ trailing, c = '/') (howner : owner ≠ []) (howner' : '/' ∉ owner)
    (hrest : rest ≠ []) (hrest' : '/' ∉ rest) :
    stripWhere (· == '/') (leading ++ (owner ++ '/' :: rest) ++ trailing) = owner ++ '/' :: rest := by
  obtain ⟨first, letters, rfl⟩ := List.exists_cons_of_ne_nil howner
  obtain ⟨init, last, rfl⟩ := List.eq_nil_or_concat' rest |>.resolve_left hrest
  have hlast : (first :: letters ++ '/' :: (init ++ [last])).getLast? = some last := by
    rw [← List.cons_append, ← List.append_assoc, List.getLast?_concat]
  refine stripWhere_append (by simpa using hleading) (by simpa using htrailing) rfl hlast ?_ ?_
  · exact beq_false_of_ne fun heq => howner' (by simp [heq])
  · exact beq_false_of_ne fun heq => hrest' (by simp [heq])

theorem repositoryFromPath_iff {path : List Char} {repository : String} :
    repositoryFromPath path = some repository ↔ PathNames path repository := by
  rw [repositoryFromPath_eq, repositoryOf_iff]
  unfold repositoryText PathNames
  dsimp only
  constructor
  · rintro ⟨owner, name, howner, hname, htext, hrepository⟩
    obtain ⟨leading, trailing, hpath, hleading, htrailing⟩ := stripWhere_split (· == '/') path
    simp only [beq_iff_eq] at hleading htrailing
    split at htext
    next hgit =>
      rw [List.isSuffixOf_iff_suffix, git_suffix] at hgit
      obtain ⟨stem, suffix, heq, hsuffix⟩ := hgit
      have hlength : suffix.length = 4 := by
        have hlengths := congrArg List.length hsuffix
        rwa [List.length_map] at hlengths
      rw [heq, List.length_append, hlength, Nat.add_sub_cancel, List.take_left] at htext
      exact ⟨leading, owner, name, suffix, trailing, by rw [← htext, ← heq, ← hpath], hleading, htrailing,
        howner, hname, .inl hsuffix, hrepository⟩
    next hgit =>
      rw [List.isSuffixOf_iff_suffix] at hgit
      refine ⟨leading, owner, name, [], trailing, by rw [List.append_nil, ← htext, ← hpath], hleading,
        htrailing, howner, hname, .inr ⟨rfl, fun hsuffix => hgit ?_⟩, hrepository⟩
      rwa [htext, flatMap_casefold_of_ascii (repository_ascii howner hname)]
  · rintro ⟨leading, owner, name, suffix, trailing, hpath, hleading, htrailing, howner, hname, hsuffix,
      hrepository⟩
    refine ⟨owner, name, howner, hname, ?_, hrepository⟩
    have hslash : '/' ∉ name ++ suffix := by
      rw [List.mem_append, not_or]
      refine ⟨repositoryPart_no_slash hname, fun hmem => ?_⟩
      rcases hsuffix with hsuffix | ⟨rfl, -⟩
      · have hmem' : '/'.toLower ∈ ".git".toList := hsuffix ▸ List.mem_map_of_mem hmem
        exact absurd hmem' (by simp)
      · exact absurd hmem (by simp)
    have hstrip : stripWhere (· == '/') path = (owner ++ '/' :: name) ++ suffix := by
      rw [hpath, List.append_assoc owner, List.cons_append]
      rw [strip_slashes hleading htrailing (repositoryPart_cons howner)
        (repositoryPart_no_slash howner) (by simp [repositoryPart_cons hname]) hslash]
    rw [hstrip]
    rcases hsuffix with hsuffix | ⟨rfl, hnone⟩
    · have hgit : ".git".toList <:+ ((owner ++ '/' :: name) ++ suffix).flatMap casefoldChar :=
        git_suffix.2 ⟨_, suffix, rfl, hsuffix⟩
      have hlength : suffix.length = 4 := by
        have hlengths := congrArg List.length hsuffix
        rwa [List.length_map] at hlengths
      rw [if_pos (List.isSuffixOf_iff_suffix.2 hgit), List.length_append, hlength, Nat.add_sub_cancel,
        List.take_left]
    · rw [List.append_nil, flatMap_casefold_of_ascii (repository_ascii howner hname),
        if_neg fun hgit => hnone (List.isSuffixOf_iff_suffix.1 hgit)]

/-! ### The form of a secure copy -/

/-- The letters of a text match those of a literal, ignoring case. -/
def Reads (literal : String) (text : List Char) : Prop :=
  List.Forall₂ (fun letter c => matchesIgnoreCase letter c = true) literal.toList text

theorem forall₂_append_left {R : Char → Char → Prop} {first second text : List Char} :
    List.Forall₂ R (first ++ second) text ↔
      ∃ before after, text = before ++ after ∧ List.Forall₂ R first before ∧
        List.Forall₂ R second after := by
  constructor
  · intro h
    refine ⟨text.take first.length, text.drop first.length, (List.take_append_drop ..).symm, ?_, ?_⟩
    · exact (List.forall₂_take_append _ _ _ h.flip).flip
    · exact (List.forall₂_drop_append _ _ _ h.flip).flip
  · rintro ⟨before, after, rfl, hbefore, hafter⟩
    exact List.rel_append hbefore hafter

theorem matchesIgnoreCase_mark {mark c : Char} (hlower : mark.toLower = mark)
    (hmark : ¬(97 ≤ mark.toNat ∧ mark.toNat ≤ 122)) : matchesIgnoreCase mark c = true ↔ c = mark := by
  have hi : mark ≠ 'i' := by
    rintro rfl
    exact hmark (by decide)
  simp only [matchesIgnoreCase, Bool.or_eq_true, beq_iff_eq, Bool.and_eq_true, hi, false_and, or_false]
  constructor
  · intro h
    rcases toLower_cases c with hsame | hletter
    · rw [← hsame, h]
    · rw [h] at hletter
      exact absurd hletter hmark
  · rintro rfl
    exact hlower

theorem scp_literal {text : List Char} : Reads "git@github.com:" text ↔
    ∃ user host, text = user ++ '@' :: host ++ [':'] ∧ Reads "git" user ∧ Reads "github.com" host := by
  have hliteral : "git@github.com:".toList =
      "git".toList ++ (['@'] ++ ("github.com".toList ++ [':'])) := by simp
  have hmark : ∀ mark : Char, mark.toLower = mark → ¬(97 ≤ mark.toNat ∧ mark.toNat ≤ 122) → ∀ part,
      List.Forall₂ (fun letter c => matchesIgnoreCase letter c = true) [mark] part ↔ part = [mark] := by
    intro mark hlower hmark part
    rw [List.forall₂_cons_left_iff]
    simp [matchesIgnoreCase_mark hlower hmark]
  simp only [Reads, hliteral, forall₂_append_left, hmark '@' (by decide) (by decide),
    hmark ':' (by decide) (by decide)]
  constructor
  · rintro ⟨user, _, rfl, huser, _, _, rfl, rfl, host, _, rfl, hhost, rfl⟩
    exact ⟨user, host, by simp, huser, hhost⟩
  · rintro ⟨user, host, rfl, huser, hhost⟩
    exact ⟨user, _, by simp, huser, _, _, rfl, rfl, host, _, rfl, hhost, rfl⟩

theorem scpPath_iff {url path : List Char} : scpPath url = some path ↔
    ∃ user host, url = user ++ '@' :: host ++ ':' :: path ∧ Reads "git" user ∧
      Reads "github.com" host ∧ path ≠ [] ∧ ∀ c ∈ path, c ≠ '?' ∧ c ≠ '#' := by
  have hzip : ∀ {text : List Char}, "git@github.com:".toList.length ≤ text.length →
      ((List.zipWith matchesIgnoreCase "git@github.com:".toList text).all id = true ↔
        Reads "git@github.com:" (text.take "git@github.com:".toList.length)) := by
    intro text hlength
    have hall := @Pattern.zipWith_all_iff _ ("git@github.com:".toList.map matchesIgnoreCase) text
      (by rwa [List.length_map])
    rwa [List.zipWith_map_left, List.length_map, List.forall₂_map_left_iff] at hall
  have hread_length : ∀ {text : List Char}, Reads "git@github.com:" text →
      "git@github.com:".toList.length = text.length := List.Forall₂.length_eq
  unfold scpPath
  dsimp only
  generalize "git@github.com:".toList.length = length at hzip hread_length ⊢
  constructor
  · intro h
    split at h
    next hmatch =>
      obtain ⟨hlength, hread, hne, hpath⟩ := hmatch
      obtain ⟨user, host, htake, huser, hhost⟩ := scp_literal.1 ((hzip hlength).1 hread)
      obtain rfl := Option.some.inj h
      refine ⟨user, host, ?_, huser, hhost, hne, fun c hc => ?_⟩
      · conv_lhs => rw [← List.take_append_drop length url, htake]
        simp
      · simpa using List.all_eq_true.1 hpath c hc
    next => exact absurd h (by simp)
  · rintro ⟨user, host, rfl, huser, hhost, hne, hpath⟩
    have hread : Reads "git@github.com:" (user ++ '@' :: host ++ [':']) :=
      scp_literal.2 ⟨user, host, rfl, huser, hhost⟩
    have hsplit : user ++ '@' :: host ++ ':' :: path = (user ++ '@' :: host ++ [':']) ++ path := by simp
    have hlength : length ≤ ((user ++ '@' :: host ++ [':']) ++ path).length := by
      rw [List.length_append, ← hread_length hread]
      omega
    have htake : ((user ++ '@' :: host ++ [':']) ++ path).take length = user ++ '@' :: host ++ [':'] :=
      List.take_left' (hread_length hread).symm
    have hdrop : ((user ++ '@' :: host ++ [':']) ++ path).drop length = path :=
      List.drop_left' (hread_length hread).symm
    have hmarks : (path.all fun c => decide (c ≠ '?') && decide (c ≠ '#')) = true :=
      List.all_eq_true.2 fun c hc => by simpa using hpath c hc
    rw [hsplit, hdrop, if_pos ⟨hlength, (hzip hlength).2 (htake.symm ▸ hread), hne, hmarks⟩]

/-! ### The parts of a URL -/

theorem scheme_letter {c : Char} {form : String × String × Nat} (hform : form ∈ webForms)
    (h : c.toLower ∈ form.1.toList) : c.isAlpha = true ∧ isSchemeChar c = true ∧ c ≠ ':' := by
  have hletters : ∀ form ∈ webForms, ∀ d ∈ form.1.toList, d.toNat < 128 ∧ d ∈ ['h', 't', 'p', 's'] := by
    simp [webForms]
  obtain ⟨hascii, hmem⟩ := hletters form hform _ h
  exact of_codes (P := fun c => c.toLower ∈ ['h', 't', 'p', 's'] → c.isAlpha = true ∧
    isSchemeChar c = true ∧ c ≠ ':') (by decide +kernel) (List.mem_range.2 (ascii_of_toLower hascii)) hmem

theorem splitScheme_iff {text rest : List Char} {form : String × String × Nat} (hform : form ∈ webForms) :
    splitScheme text = (form.1, rest) ↔
      ∃ scheme, text = scheme ++ ':' :: rest ∧ scheme.map Char.toLower = form.1.toList := by
  have hne : form.1 ≠ "" := by
    revert form
    decide
  unfold splitScheme
  constructor
  · intro h
    split at h
    next first scheme rest' heq =>
      obtain ⟨htext, -⟩ := partition_some.1 heq
      split at h
      next =>
        rw [Prod.mk.injEq] at h
        obtain ⟨hscheme, rfl⟩ := h
        exact ⟨first :: scheme, htext, by rw [← hscheme, String.toList_ofList]⟩
      next => exact absurd (Prod.mk.inj h).1.symm hne
    next => exact absurd (Prod.mk.inj h).1.symm hne
  · rintro ⟨scheme, rfl, hscheme⟩
    have hletter : ∀ c ∈ scheme, c.isAlpha = true ∧ isSchemeChar c = true ∧ c ≠ ':' :=
      fun c hc => scheme_letter hform (hscheme ▸ List.mem_map_of_mem hc)
    have hcolon : ':' ∉ scheme := fun hmem => (hletter ':' hmem).2.2 rfl
    rw [partition_some.2 ⟨rfl, hcolon⟩]
    cases scheme with
    | nil =>
      rw [List.map_nil, eq_comm, String.toList_eq_nil_iff] at hscheme
      exact absurd hscheme hne
    | cons first letters =>
      have hall : letters.all isSchemeChar = true :=
        List.all_eq_true.2 fun c hc => (hletter c (List.mem_cons_of_mem _ hc)).2.1
      dsimp only
      rw [if_pos ⟨(hletter first (List.mem_cons_self ..)).1, hall⟩, hscheme, String.ofList_toList]

/-- What ends a network location. -/
def endsNetloc (c : Char) : Bool := c == '/' || c == '?' || c == '#'

theorem splitNetloc_iff {text netloc rest : List Char} (hne : netloc ≠ []) :
    splitNetloc text = (netloc, rest) ↔ text = '/' :: '/' :: (netloc ++ rest) ∧
      (∀ c ∈ netloc, endsNetloc c = false) ∧ ∀ c, rest.head? = some c → endsNetloc c = true := by
  have hmark : ∀ c, (c ≠ '/' && c ≠ '?' && c ≠ '#') = !endsNetloc c := by
    intro c
    rw [Bool.eq_iff_iff]
    simp [endsNetloc]
  unfold splitNetloc
  simp only [hmark]
  constructor
  · intro h
    split at h
    next tail =>
      rw [Prod.mk.injEq] at h
      obtain ⟨rfl, rfl⟩ := h
      refine ⟨by rw [List.takeWhile_append_dropWhile], fun c hc => ?_, fun c hc => ?_⟩
      · simpa using List.mem_takeWhile_imp hc
      · have hhead := List.head?_dropWhile_not (fun c => !endsNetloc c) tail
        rw [hc] at hhead
        simpa using hhead
    next => exact absurd (Prod.mk.inj h).1.symm hne
  · rintro ⟨rfl, hnetloc, hrest⟩
    have hall : ∀ c ∈ netloc, (!endsNetloc c) = true := fun c hc => by simp [hnetloc c hc]
    change ((netloc ++ rest).takeWhile fun c => !endsNetloc c,
      (netloc ++ rest).dropWhile fun c => !endsNetloc c) = _
    rw [List.takeWhile_append_of_pos hall, List.dropWhile_append_of_pos hall]
    cases rest with
    | nil => simp
    | cons c rest =>
      have hc := hrest c rfl
      rw [List.takeWhile_cons_of_neg (by simp [hc]), List.dropWhile_cons_of_neg (by simp [hc]),
        List.append_nil]

theorem partition_empty {mark : Char} {text first : List Char} :
    ((partition mark text).1 = first ∧ (partition mark text).2.getD [] = []) ↔
      mark ∉ first ∧ (text = first ∨ text = first ++ [mark]) := by
  constructor
  · rintro ⟨hfirst, hrest⟩
    cases hsplit : partition mark text with
    | mk before after =>
      rw [hsplit] at hfirst hrest
      obtain rfl : before = first := hfirst
      cases after with
      | none =>
        obtain ⟨rfl, hmem⟩ := partition_none.1 hsplit
        exact ⟨hmem, .inl rfl⟩
      | some rest =>
        obtain ⟨htext, hmem⟩ := partition_some.1 hsplit
        obtain rfl : rest = [] := hrest
        exact ⟨hmem, .inr htext⟩
  · rintro ⟨hmem, rfl | rfl⟩
    · rw [partition_none.2 ⟨rfl, hmem⟩]
      exact ⟨rfl, rfl⟩
    · rw [partition_some.2 ⟨rfl, hmem⟩]
      exact ⟨rfl, rfl⟩

theorem partition_path {text path : List Char} :
    ((partition '?' (partition '#' text).1).1 = path ∧
      (partition '?' (partition '#' text).1).2.getD [] = [] ∧ (partition '#' text).2.getD [] = []) ↔
      (∀ c ∈ path, c ≠ '?' ∧ c ≠ '#') ∧ ∃ rest ∈ emptyQueries, text = path ++ rest := by
  have hmarks : ∀ text : List Char, (∀ c ∈ text, c ≠ '?' ∧ c ≠ '#') ↔ '?' ∉ text ∧ '#' ∉ text := by
    intro text
    constructor
    · exact fun h => ⟨fun hmem => (h _ hmem).1 rfl, fun hmem => (h _ hmem).2 rfl⟩
    · rintro ⟨hquery, hfragment⟩ c hc
      exact ⟨ne_of_mem_of_not_mem hc hquery, ne_of_mem_of_not_mem hc hfragment⟩
  rw [hmarks]
  constructor
  · rintro ⟨hpath, hquery, hfragment⟩
    obtain ⟨hnone, htext⟩ := partition_empty.1 ⟨rfl, hfragment⟩
    obtain ⟨hnone', hfirst⟩ := partition_empty.1 ⟨hpath, hquery⟩
    generalize (partition '#' text).1 = first at hnone htext hfirst
    rcases hfirst with rfl | rfl
    · refine ⟨⟨hnone', hnone⟩, ?_⟩
      rcases htext with rfl | rfl
      · exact ⟨[], by simp [emptyQueries], by simp⟩
      · exact ⟨['#'], by simp [emptyQueries], rfl⟩
    · rw [List.mem_append, not_or] at hnone
      refine ⟨⟨hnone', hnone.1⟩, ?_⟩
      rcases htext with rfl | rfl
      · exact ⟨['?'], by simp [emptyQueries], rfl⟩
      · exact ⟨['?', '#'], by simp [emptyQueries], by simp⟩
  · rintro ⟨⟨hquery, hfragment⟩, rest, hrest, rfl⟩
    have hcases : ∀ first, (first = path ∨ first = path ++ ['?']) →
        (path ++ rest = first ∨ path ++ rest = first ++ ['#']) →
        ((partition '?' (partition '#' (path ++ rest)).1).1 = path ∧
          (partition '?' (partition '#' (path ++ rest)).1).2.getD [] = [] ∧
            (partition '#' (path ++ rest)).2.getD [] = []) := by
      intro first hfirst htext
      have hnone : '#' ∉ first := by
        rcases hfirst with rfl | rfl
        · exact hfragment
        · simp [hfragment]
      obtain ⟨hsplit, hempty⟩ := partition_empty.2 ⟨hnone, htext⟩
      rw [hsplit]
      obtain ⟨hpath, hempty'⟩ := partition_empty.2 ⟨hquery, hfirst⟩
      exact ⟨hpath, hempty', hempty⟩
    simp only [emptyQueries, List.mem_cons, List.not_mem_nil, or_false] at hrest
    rcases hrest with rfl | rfl | rfl | rfl
    · exact hcases path (.inl rfl) (.inl (by simp))
    · exact hcases _ (.inr rfl) (.inl rfl)
    · exact hcases path (.inl rfl) (.inr rfl)
    · exact hcases _ (.inr rfl) (.inr (by simp))

theorem urlsplit_eq (url : String) : urlsplit url =
    let netloc := (splitNetloc (splitScheme (urlText url)).2).1
    let text := (splitNetloc (splitScheme (urlText url)).2).2
    if ('[' ∈ netloc) ≠ (']' ∈ netloc) then none
    else if '[' ∈ netloc ∧
        ¬bracketedHostValid (partition ']' ((partition '[' netloc).2.getD [])).1 then none
    else if netloc.any fun c => netlocDelimiterForms.contains c.toNat then none
    else some {
      scheme := (splitScheme (urlText url)).1
      netloc
      path := (partition '?' (partition '#' text).1).1
      query := (partition '?' (partition '#' text).1).2.getD []
      fragment := (partition '#' text).2.getD [] } := rfl

/-! ### User, host and port -/

theorem userinfo_some {parsed : SplitResult} {before rest : List Char}
    (h : rpartition '@' parsed.netloc = (some before, rest)) :
    parsed.userinfo = (some (partition ':' before).1, (partition ':' before).2) := by
  unfold SplitResult.userinfo
  rw [h]

theorem userinfo_none {parsed : SplitResult} :
    parsed.userinfo = (none, none) ↔ '@' ∉ parsed.netloc := by
  cases hsplit : rpartition '@' parsed.netloc with
  | mk before rest =>
    cases before with
    | none =>
      refine ⟨fun _ => (rpartition_none.1 hsplit).2, fun _ => ?_⟩
      unfold SplitResult.userinfo
      rw [hsplit]
    | some before =>
      have htext := (rpartition_some.1 hsplit).1
      rw [userinfo_some hsplit, htext]
      simp

theorem userinfo_git {parsed : SplitResult} : parsed.userinfo = (some "git".toList, none) ↔
    ∃ hostinfo, parsed.netloc = "git@".toList ++ hostinfo ∧ '@' ∉ hostinfo := by
  have hgit : "git@".toList = "git".toList ++ ['@'] := by simp
  have hcolon : ':' ∉ "git".toList := by simp
  generalize "git".toList = git at hgit hcolon
  simp only [hgit, List.append_assoc, List.singleton_append]
  constructor
  · intro h
    cases hsplit : rpartition '@' parsed.netloc with
    | mk before rest =>
      cases before with
      | none =>
        rw [userinfo_none.2 (rpartition_none.1 hsplit).2] at h
        exact absurd (Prod.mk.inj h).1 (by simp)
      | some before =>
        obtain ⟨htext, hmem⟩ := rpartition_some.1 hsplit
        rw [userinfo_some hsplit, Prod.mk.injEq, Option.some.injEq] at h
        have hbefore : git = before :=
          h.1.symm.trans (partition_none.1 (Prod.ext_iff.2 ⟨rfl, h.2⟩)).1
        exact ⟨rest, by rw [htext, hbefore], hmem⟩
  · rintro ⟨hostinfo, htext, hmem⟩
    rw [userinfo_some (rpartition_some.2 ⟨htext, hmem⟩), partition_none.2 ⟨rfl, hcolon⟩]

theorem hostinfo_eq {parsed : SplitResult} {hostinfo host digits : List Char}
    (h : (rpartition '@' parsed.netloc).2 = hostinfo) (hbracket : '[' ∉ hostinfo) :
    parsed.hostinfo = (host, digits) ↔ ':' ∉ host ∧
      (hostinfo = host ++ ':' :: digits ∨ hostinfo = host ∧ digits = []) := by
  have hunfold : parsed.hostinfo =
      ((partition ':' hostinfo).1, (partition ':' hostinfo).2.getD []) := by
    unfold SplitResult.hostinfo
    dsimp only
    rw [h, partition_none.2 ⟨rfl, hbracket⟩]
  rw [hunfold, Prod.mk.injEq]
  constructor
  · rintro ⟨hhost, hdigits⟩
    cases hsplit : partition ':' hostinfo with
    | mk before after =>
      rw [hsplit] at hhost hdigits
      obtain rfl : before = host := hhost
      cases after with
      | none =>
        obtain ⟨rfl, hmem⟩ := partition_none.1 hsplit
        exact ⟨hmem, .inr ⟨rfl, hdigits.symm⟩⟩
      | some rest =>
        obtain ⟨htext, hmem⟩ := partition_some.1 hsplit
        obtain rfl : rest = digits := hdigits
        exact ⟨hmem, .inl htext⟩
  · rintro ⟨hmem, rfl | ⟨rfl, rfl⟩⟩
    · rw [partition_some.2 ⟨rfl, hmem⟩]
      exact ⟨rfl, rfl⟩
    · rw [partition_none.2 ⟨rfl, hmem⟩]
      exact ⟨rfl, rfl⟩

theorem port_iff {parsed : SplitResult} {number : Nat} (hnumber : number ≤ 65535) :
    (∃ port, parsed.port = some port ∧ (port = none ∨ port = some number)) ↔
      PortDigits number parsed.hostinfo.2 := by
  unfold SplitResult.port
  dsimp only
  constructor
  · rintro ⟨port, hport, hcases⟩
    split at hport
    next hnil => exact .inl hnil
    split at hport
    next hdigits =>
      obtain rfl := Option.some.inj hport
      rcases hcases with hcases | hcases
      · exact absurd hcases (by simp)
      · exact .inr ⟨hdigits.1, hdigits.2.1, Option.some.inj hcases⟩
    next => exact absurd hport (by simp)
  · rintro (hnil | ⟨hdigits, hlength, rfl⟩)
    · exact ⟨none, if_pos hnil, .inl rfl⟩
    · by_cases hnil : parsed.hostinfo.2 = []
      · exact ⟨none, if_pos hnil, .inl rfl⟩
      · refine ⟨some _, ?_, .inr rfl⟩
        rw [if_neg hnil, if_pos ⟨hdigits, hlength, hnumber⟩]

/-! ### The forms that `urlsplit` reads -/

theorem githubHost_letter {host : List Char} (h : IsGithubHost host) :
    ∀ c ∈ host, c.toLower ∈ hostLetters := by
  intro c hc
  have hmem : c.toLower ∈ host.map Char.toLower := List.mem_map_of_mem hc
  rwa [h] at hmem

theorem githubHost_mark {host : List Char} {mark : Char} (h : IsGithubHost host)
    (hmark : mark.toLower ∉ hostLetters) : mark ∉ host := fun hmem =>
  hmark (githubHost_letter h mark hmem)

theorem not_bracketed {host : List Char} (h : IsGithubHost host) : bracketedHostValid host = false := by
  have hcolon : ':' ∉ host := githubHost_mark h (by decide)
  have hpercent : '%' ∉ host := githubHost_mark h (by decide)
  have hv : 'v' ∉ host := githubHost_mark h (by decide)
  have hipv6 : isIpv6 host = false := by
    have hsplit : host.splitOn ':' = [host] := List.splitOn_eq_singleton hcolon
    unfold isIpv6
    rw [partition_none.2 ⟨rfl, hpercent⟩]
    simp [hsplit]
  unfold bracketedHostValid
  split
  next rest => exact absurd hv (by simp)
  next => rw [hipv6, Bool.and_false]

/-- What the function asks of the parts of a URL, for one of the two forms. -/
structure Trusted (parsed : SplitResult) (form : String × String × Nat) : Prop where
  scheme : parsed.scheme = form.1
  netloc : ∃ hostinfo, parsed.netloc = form.2.1.toList ++ hostinfo ∧ '@' ∉ hostinfo
  host : IsGithubHost parsed.hostinfo.1
  port : PortDigits form.2.2 parsed.hostinfo.2
  query : parsed.query = []
  fragment : parsed.fragment = []

theorem trusted_iff {parsed : SplitResult} {port : Option Nat} :
    (if parsed.scheme = "https" then
        parsed.userinfo.1 = none ∧ parsed.userinfo.2 = none ∧ (port = none ∨ port = some 443)
      else if parsed.scheme = "ssh" then
        parsed.userinfo.1 = some "git".toList ∧ parsed.userinfo.2 = none ∧
          (port = none ∨ port = some 22)
      else False) ↔
      ∃ form ∈ webForms, parsed.scheme = form.1 ∧
        (∃ hostinfo, parsed.netloc = form.2.1.toList ++ hostinfo ∧ '@' ∉ hostinfo) ∧
          (port = none ∨ port = some form.2.2) := by
  have hnone : (parsed.userinfo.1 = none ∧ parsed.userinfo.2 = none) ↔
      ∃ hostinfo, parsed.netloc = "".toList ++ hostinfo ∧ '@' ∉ hostinfo := by
    rw [← Prod.mk.injEq, Prod.eta, userinfo_none]
    simp
  have hgit : (parsed.userinfo.1 = some "git".toList ∧ parsed.userinfo.2 = none) ↔
      ∃ hostinfo, parsed.netloc = "git@".toList ++ hostinfo ∧ '@' ∉ hostinfo := by
    rw [← Prod.mk.injEq, Prod.eta, userinfo_git]
  have hforms : ∀ P : String × String × Nat → Prop,
      (∃ form ∈ webForms, P form) ↔ P ("https", "", 443) ∨ P ("ssh", "git@", 22) := by
    intro P
    simp [webForms]
  rw [hforms, ← and_assoc, ← and_assoc, hnone, hgit]
  by_cases hhttps : parsed.scheme = "https"
  · rw [if_pos hhttps]
    simp [hhttps]
  · rw [if_neg hhttps]
    by_cases hssh : parsed.scheme = "ssh"
    · rw [if_pos hssh]
      simp [hssh]
    · simp [hhttps, hssh]

theorem web_iff {url repository : String} (hscp : scpPath url.toList = none) :
    githubRepositoryFromRemoteUrl url = some (some repository) ↔
      ∃ parsed, ∃ form ∈ webForms, urlsplit url = some parsed ∧ Trusted parsed form ∧
        repositoryFromPath parsed.path = some repository := by
  have hports : ∀ form ∈ webForms, form.2.2 ≤ 65535 := by decide
  unfold githubRepositoryFromRemoteUrl
  rw [hscp]
  dsimp only
  rw [Option.map_eq_some_iff]
  refine exists_congr fun parsed => ?_
  constructor
  · rintro ⟨hparsed, h⟩
    split at h
    next => exact absurd h (by simp)
    next port hport =>
      split at h
      next => exact absurd h (by simp)
      next hparts =>
        simp only [ne_eq, not_or, not_not] at hparts
        split at h
        next => exact absurd h (by simp)
        next hhost =>
          rw [ne_eq, not_not, casefold_host] at hhost
          by_cases htrusted : ∃ form ∈ webForms, parsed.scheme = form.1 ∧
              (∃ hostinfo, parsed.netloc = form.2.1.toList ++ hostinfo ∧ '@' ∉ hostinfo) ∧
                (port = none ∨ port = some form.2.2)
          · rw [if_pos (trusted_iff.2 htrusted)] at h
            obtain ⟨form, hform, hscheme, hnetloc, hnumber⟩ := htrusted
            exact ⟨form, hform, hparsed, ⟨hscheme, hnetloc, hhost,
              (port_iff (hports form hform)).1 ⟨port, hport, hnumber⟩, hparts.1, hparts.2.1⟩, h⟩
          · rw [if_neg fun hsome => htrusted (trusted_iff.1 hsome)] at h
            exact absurd h (by simp)
  · rintro ⟨form, hform, hparsed, ⟨hscheme, hnetloc, hhost, hnumber, hquery, hfragment⟩, hpath⟩
    obtain ⟨port, hport, hnumber⟩ := (port_iff (hports form hform)).2 hnumber
    have hne : parsed.hostinfo.1 ≠ [] := by
      intro hnil
      rw [hnil] at hhost
      exact absurd hhost (by simp [IsGithubHost])
    refine ⟨hparsed, ?_⟩
    rw [hport]
    dsimp only
    rw [if_neg (by simp [hquery, hfragment, hne]), if_neg (not_not.2 (casefold_host.2 hhost)),
      if_pos (trusted_iff.2 ⟨form, hform, hscheme, hnetloc, hnumber⟩), hpath]

theorem hostinfo_text {netloc hostinfo : List Char} {form : String × String × Nat}
    (hform : form ∈ webForms) (hnetloc : netloc = form.2.1.toList ++ hostinfo) (hat : '@' ∉ hostinfo) :
    (rpartition '@' netloc).2 = hostinfo := by
  have hgit : "git@".toList = "git".toList ++ ['@'] := by simp
  simp only [webForms, List.mem_cons, List.not_mem_nil, or_false] at hform
  rcases hform with rfl | rfl
  · obtain rfl : netloc = hostinfo := hnetloc
    rw [rpartition_none.2 ⟨rfl, hat⟩]
  · have htext : netloc = "git".toList ++ '@' :: hostinfo := by
      rw [hnetloc]
      change "git@".toList ++ hostinfo = _
      rw [hgit, List.append_assoc, List.singleton_append]
    rw [rpartition_some.2 ⟨htext, hat⟩]

/-- A letter of a plain network location, but for the `@` after the user. -/
def PlainLetter (c : Char) : Prop := c.toNat < 128 ∧ c ∉ ['[', ']', '/', '?', '#']

theorem user_plain {form : String × String × Nat} (hform : form ∈ webForms) :
    ∀ c ∈ form.2.1.toList, PlainLetter c := by
  unfold PlainLetter
  revert form
  simp [webForms]

theorem host_plain {host : List Char} (h : IsGithubHost host) :
    ∀ c ∈ host, PlainLetter c ∧ c ≠ '@' ∧ c ≠ ':' := by
  intro c hc
  have hmem := githubHost_letter h c hc
  have hascii := ascii_of_toLower (hostLetters_ascii _ hmem)
  refine ⟨⟨hascii, ?_⟩, ?_⟩
  · exact of_codes (P := fun c => c.toLower ∈ hostLetters → c ∉ ['[', ']', '/', '?', '#'])
      (by decide +kernel) (List.mem_range.2 hascii) hmem
  · exact of_codes (P := fun c => c.toLower ∈ hostLetters → c ≠ '@' ∧ c ≠ ':')
      (by decide +kernel) (List.mem_range.2 hascii) hmem

theorem port_plain {port : List Char} {number : Nat} (h : IsPort number port) :
    ∀ c ∈ port, PlainLetter c ∧ c ≠ '@' := by
  have hdigit : ∀ c, isAsciiDigit c = true → PlainLetter c ∧ c ≠ '@' := by
    intro c hc
    have hascii : c.toNat < 128 := by
      simp only [isAsciiDigit, Bool.and_eq_true, decide_eq_true_eq, Char.le_def,
        UInt32.le_iff_toNat_le] at hc
      exact Nat.lt_of_le_of_lt hc.2 (by decide)
    exact of_codes (P := fun c => isAsciiDigit c = true →
      (c.toNat < 128 ∧ c ∉ ['[', ']', '/', '?', '#']) ∧ c ≠ '@') (by decide +kernel)
      (List.mem_range.2 hascii) hc
  rcases h with rfl | ⟨digits, rfl, rfl | ⟨hdigits, -, -⟩⟩
  · simp
  · intro c hc
    obtain rfl := List.mem_singleton.1 hc
    exact ⟨⟨by decide, by decide⟩, by decide⟩
  · intro c hc
    rcases List.mem_cons.1 hc with rfl | hc
    · exact ⟨⟨by decide, by decide⟩, by decide⟩
    · exact hdigit c (List.all_eq_true.1 hdigits c hc)

theorem Trusted.netloc_text {parsed : SplitResult} {form : String × String × Nat}
    (hform : form ∈ webForms) (h : Trusted parsed form)
    (hbracket : '[' ∈ parsed.netloc →
      bracketedHostValid (partition ']' ((partition '[' parsed.netloc).2.getD [])).1 = true) :
    ∃ host port, parsed.netloc = form.2.1.toList ++ host ++ port ∧ IsGithubHost host ∧
      IsPort form.2.2 port := by
  obtain ⟨hostinfo, hnetloc, hat⟩ := h.netloc
  have htext := hostinfo_text hform hnetloc hat
  have hnone : '[' ∉ hostinfo := by
    intro hmem
    cases hsplit : partition '[' hostinfo with
    | mk before after =>
      cases after with
      | none => exact (partition_none.1 hsplit).2 hmem
      | some bracketed =>
        obtain ⟨hfirst, hbefore⟩ := partition_some.1 hsplit
        have hsplit' : partition '[' parsed.netloc = (form.2.1.toList ++ before, some bracketed) := by
          refine partition_some.2 ⟨by rw [hnetloc, hfirst, List.append_assoc], ?_⟩
          rw [List.mem_append, not_or]
          exact ⟨fun huser => (user_plain hform '[' huser).2 (by decide), hbefore⟩
        have hvalid := hbracket (by rw [hnetloc]; exact List.mem_append_right _ hmem)
        rw [hsplit'] at hvalid
        have hhost : parsed.hostinfo.1 = (partition ']' bracketed).1 := by
          unfold SplitResult.hostinfo
          dsimp only
          rw [htext, hsplit]
        have hinvalid := not_bracketed (hhost ▸ h.host)
        rw [Option.getD_some, hinvalid] at hvalid
        exact absurd hvalid (by decide)
  obtain ⟨-, hsplit⟩ := (hostinfo_eq htext hnone).1 (Prod.eta parsed.hostinfo).symm
  rcases hsplit with hsplit | ⟨hsplit, -⟩
  · refine ⟨parsed.hostinfo.1, ':' :: parsed.hostinfo.2, ?_, h.host, .inr ⟨_, rfl, h.port⟩⟩
    rw [hnetloc, List.append_assoc]
    exact congrArg _ hsplit
  · refine ⟨parsed.hostinfo.1, [], ?_, h.host, .inl rfl⟩
    rw [List.append_nil, hnetloc]
    exact congrArg _ hsplit

theorem trusted_of_text {parsed : SplitResult} {form : String × String × Nat} {host port : List Char}
    (hform : form ∈ webForms) (hscheme : parsed.scheme = form.1)
    (hnetloc : parsed.netloc = form.2.1.toList ++ host ++ port) (hhost : IsGithubHost host)
    (hport : IsPort form.2.2 port) (hquery : parsed.query = []) (hfragment : parsed.fragment = []) :
    Trusted parsed form := by
  have hat : '@' ∉ host ++ port := by
    rw [List.mem_append, not_or]
    exact ⟨fun hmem => (host_plain hhost '@' hmem).2.1 rfl, fun hmem => (port_plain hport '@' hmem).2 rfl⟩
  have hbracket : '[' ∉ host ++ port := by
    rw [List.mem_append, not_or]
    exact ⟨fun hmem => (host_plain hhost '[' hmem).1.2 (by decide),
      fun hmem => (port_plain hport '[' hmem).1.2 (by decide)⟩
  have hcolon : ':' ∉ host := fun hmem => (host_plain hhost ':' hmem).2.2 rfl
  have hnetloc' : parsed.netloc = form.2.1.toList ++ (host ++ port) := by
    rw [hnetloc, List.append_assoc]
  have htext := hostinfo_text hform hnetloc' hat
  rcases hport with rfl | ⟨digits, rfl, hdigits⟩
  · have heq : parsed.hostinfo = (host, []) :=
      (hostinfo_eq htext hbracket).2 ⟨hcolon, .inr ⟨List.append_nil host, rfl⟩⟩
    exact ⟨hscheme, ⟨_, hnetloc', hat⟩, by rw [heq]; exact hhost, by rw [heq]; exact .inl rfl, hquery,
      hfragment⟩
  · have heq : parsed.hostinfo = (host, digits) :=
      (hostinfo_eq htext hbracket).2 ⟨hcolon, .inl rfl⟩
    exact ⟨hscheme, ⟨_, hnetloc', hat⟩, by rw [heq]; exact hhost, by rw [heq]; exact hdigits, hquery,
      hfragment⟩

theorem pathNames_ne_nil {path : List Char} {repository : String} (h : PathNames path repository) :
    path ≠ [] := by
  obtain ⟨leading, owner, name, suffix, trailing, rfl, -⟩ := h
  simp

theorem githubHost_ne_nil {host : List Char} (h : IsGithubHost host) : host ≠ [] := by
  rintro rfl
  exact absurd h (by simp [IsGithubHost])

theorem urlsplit_of_form {url : String} {scheme host port path rest : List Char}
    {form : String × String × Nat} (hform : form ∈ webForms)
    (htext : urlText url =
      scheme ++ "://".toList ++ form.2.1.toList ++ host ++ port ++ path ++ rest)
    (hscheme : scheme.map Char.toLower = form.1.toList) (hhost : IsGithubHost host)
    (hport : IsPort form.2.2 port) (hslash : path.head? = some '/')
    (hpath : ∀ c ∈ path, c ≠ '?' ∧ c ≠ '#') (hrest : rest ∈ emptyQueries) :
    urlsplit url = some { scheme := form.1, netloc := form.2.1.toList ++ host ++ port, path, query := [],
                          fragment := [] } := by
  have hplain : ∀ c ∈ form.2.1.toList ++ host ++ port, PlainLetter c := by
    simp only [List.forall_mem_append]
    exact ⟨⟨user_plain hform, fun c hc => (host_plain hhost c hc).1⟩,
      fun c hc => (port_plain hport c hc).1⟩
  have hnetloc : form.2.1.toList ++ host ++ port ≠ [] := by
    simp [githubHost_ne_nil hhost]
  generalize hlocation : form.2.1.toList ++ host ++ port = netloc at hplain hnetloc
  have hmark : "://".toList = [':', '/', '/'] := by simp
  have htext' : urlText url = scheme ++ ':' :: ('/' :: '/' :: (netloc ++ (path ++ rest))) := by
    rw [htext, ← hlocation, hmark]
    simp
  obtain ⟨letters, hletters⟩ := List.head?_eq_some_iff.1 hslash
  have hends : ∀ c, (path ++ rest).head? = some c → endsNetloc c = true := by
    intro c hc
    rw [hletters] at hc
    obtain rfl := Option.some.inj hc
    decide
  have hinner : ∀ c ∈ netloc, endsNetloc c = false := by
    intro c hc
    by_contra hmem
    have hnone := (hplain c hc).2
    simp only [endsNetloc, Bool.not_eq_false, Bool.or_eq_true, beq_iff_eq] at hmem
    rcases hmem with (rfl | rfl) | rfl
    · exact hnone (by decide)
    · exact hnone (by decide)
    · exact hnone (by decide)
  have hopen : '[' ∉ netloc := fun hmem => (hplain _ hmem).2 (by decide)
  have hclose : ']' ∉ netloc := fun hmem => (hplain _ hmem).2 (by decide)
  have hforms : (netloc.any fun c => netlocDelimiterForms.contains c.toNat) = false := by
    rw [List.any_eq_false]
    intro c hc hmem
    have hhigh : ∀ code ∈ netlocDelimiterForms, 128 ≤ code := by decide
    have hlow := (hplain c hc).1
    have hcode := hhigh _ (List.contains_iff_mem.1 hmem)
    omega
  obtain ⟨hsplit, hquery, hfragment⟩ := partition_path.2 ⟨hpath, rest, hrest, rfl⟩
  rw [urlsplit_eq, (splitScheme_iff hform).2 ⟨scheme, htext', hscheme⟩]
  dsimp only
  rw [(splitNetloc_iff hnetloc).2 ⟨rfl, hinner, hends⟩]
  dsimp only
  rw [if_neg (by simp [hopen, hclose]), if_neg (by simp [hopen]), if_neg (by rw [hforms]; decide), hsplit,
    hquery, hfragment]

theorem form_of_urlsplit {url repository : String} {parsed : SplitResult} {form : String × String × Nat}
    (hform : form ∈ webForms) (hsplit : urlsplit url = some parsed) (htrusted : Trusted parsed form)
    (hnames : PathNames parsed.path repository) : OriginForm url parsed.path := by
  rw [urlsplit_eq] at hsplit
  dsimp only at hsplit
  split at hsplit
  · exact absurd hsplit (by simp)
  split at hsplit
  · exact absurd hsplit (by simp)
  next hbracket =>
    split at hsplit
    · exact absurd hsplit (by simp)
    have hparsed := Option.some.inj hsplit
    cases hscheme : splitScheme (urlText url) with
    | mk scheme text =>
      rw [hscheme] at hparsed hbracket
      cases hlocation : splitNetloc text with
      | mk netloc text' =>
        rw [hlocation] at hparsed hbracket
        dsimp only at hparsed hbracket
        have hnetloc : parsed.netloc = netloc := by rw [← hparsed]
        obtain ⟨host, port, hparts, hhost, hport⟩ := htrusted.netloc_text hform fun hmem => by
          rw [hnetloc] at hmem ⊢
          simpa [hmem] using hbracket
        have hne : netloc ≠ [] := by
          rw [← hnetloc, hparts]
          simp [githubHost_ne_nil hhost]
        obtain ⟨rfl, -, hends⟩ := (splitNetloc_iff hne).1 hlocation
        have hform' : scheme = form.1 := by rw [← htrusted.scheme, ← hparsed]
        obtain ⟨letters, htext, hletters⟩ := (splitScheme_iff hform).1 (hform' ▸ hscheme)
        have hquery := (congrArg SplitResult.query hparsed).trans htrusted.query
        have hfragment := (congrArg SplitResult.fragment hparsed).trans htrusted.fragment
        obtain ⟨hpath, rest, hrest, hsuffix⟩ := partition_path.1 ⟨rfl, hquery, hfragment⟩
        have hpathname : (partition '?' (partition '#' text').1).1 = parsed.path := by rw [← hparsed]
        rw [hpathname] at hpath hsuffix
        obtain ⟨c, path, hcons⟩ := List.exists_cons_of_ne_nil (pathNames_ne_nil hnames)
        have hslash : c = '/' := by
          have hend := hends c (by rw [hsuffix, hcons]; rfl)
          have hclean := hpath c (by simp [hcons])
          simpa [endsNetloc, hclean.1, hclean.2] using hend
        refine .web letters form host port rest ?_ hform hletters hhost hport
          (by rw [hcons, hslash]; rfl) hpath hrest
        have hmark : "://".toList = [':', '/', '/'] := by simp
        rw [htext, hsuffix, ← hnetloc, hparts, hmark]
        simp

theorem scp_head {url : List Char} {path : List Char} (h : scpPath url = some path) :
    ∃ c rest, url = c :: rest ∧ c.toLower = 'g' := by
  obtain ⟨user, host, rfl, huser, -⟩ := scpPath_iff.1 h
  have hgit : "git".toList = ['g', 'i', 't'] := by simp
  rw [Reads, hgit] at huser
  obtain ⟨c, rest, hc, -, rfl⟩ := List.forall₂_cons_left_iff.1 huser
  refine ⟨c, rest ++ '@' :: host ++ ':' :: path, rfl, ?_⟩
  simpa [matchesIgnoreCase] using hc

theorem scp_not_web {url : String} {path scheme tail : List Char} {form : String × String × Nat}
    (h : scpPath url.toList = some path) (hform : form ∈ webForms)
    (hscheme : scheme.map Char.toLower = form.1.toList) : urlText url ≠ scheme ++ tail := by
  obtain ⟨c, rest, htext, hc⟩ := scp_head h
  have hascii : c.toNat < 128 := ascii_of_toLower (by rw [hc]; decide)
  have hkept : (32 < c.toNat) ∧ c ≠ '\t' ∧ c ≠ '\r' ∧ c ≠ '\n' :=
    of_codes (P := fun c => c.toLower = 'g' → 32 < c.toNat ∧ c ≠ '\t' ∧ c ≠ '\r' ∧ c ≠ '\n')
      (by decide +kernel) (List.mem_range.2 hascii) hc
  have hread : ∃ rest', urlText url = c :: rest' := by
    rw [urlText, htext, List.dropWhile_cons_of_neg (by simpa using hkept.1),
      List.filter_cons_of_pos (by simpa [and_assoc] using hkept.2)]
    exact ⟨_, rfl⟩
  obtain ⟨rest', hread⟩ := hread
  intro heq
  have hforms : ∀ form ∈ webForms, ∃ d ds, form.1.toList = d :: ds ∧ d ≠ 'g' := by
    intro form hform
    simp only [webForms, List.mem_cons, List.not_mem_nil, or_false] at hform
    rcases hform with rfl | rfl
    · exact ⟨'h', _, rfl, by decide⟩
    · exact ⟨'s', _, rfl, by decide⟩
  obtain ⟨d, ds, hd, hne⟩ := hforms form hform
  rw [hd] at hscheme
  obtain ⟨first, letters, rfl, hfirst, -⟩ := List.map_eq_cons_iff.1 hscheme
  rw [hread, List.cons_append, List.cons.injEq] at heq
  rw [← heq.1, hc] at hfirst
  exact hne hfirst.symm

/-! ### The accepted URLs -/

theorem reads_of_lower {literal : String} {text : List Char}
    (h : text.map Char.toLower = literal.toList) : Reads literal text := by
  rw [← List.forall₂_eq_eq_eq, List.forall₂_map_left_iff] at h
  refine h.flip.imp fun letter c heq => ?_
  have heq : c.toLower = letter := heq
  rw [matchesIgnoreCase, heq, beq_self_eq_true, Bool.true_or]

theorem scpPath_of_form {url : String} {host path : List Char}
    (htext : url.toList = "git@".toList ++ host ++ ':' :: path) (hhost : IsGithubHost host)
    (hpath : ∀ c ∈ path, c ≠ '?' ∧ c ≠ '#') (hne : path ≠ []) : scpPath url.toList = some path := by
  have hgit : "git@".toList = "git".toList ++ ['@'] := by simp
  refine scpPath_iff.2 ⟨"git".toList, host, ?_, reads_of_lower (by simp),
    reads_of_lower hhost, hne, hpath⟩
  rw [htext, hgit]
  simp

theorem githubRepositoryFromRemoteUrl_ok {url repository : String} :
    githubRepositoryFromRemoteUrl url = some (some repository) ↔
      Names url repository ∨ ForeignScp url repository := by
  cases hscp : scpPath url.toList with
  | none =>
    rw [web_iff hscp]
    constructor
    · rintro ⟨parsed, form, hform, hsplit, htrusted, hpath⟩
      have hnames := repositoryFromPath_iff.1 hpath
      exact .inl ⟨parsed.path, form_of_urlsplit hform hsplit htrusted hnames, hnames⟩
    · rintro (⟨path, hform, hnames⟩ | ⟨user, host, path, htext, huser, hhost, -, hpath, hnames⟩)
      · cases hform with
        | scp host htext hhost hpath =>
          rw [scpPath_of_form htext hhost hpath (pathNames_ne_nil hnames)] at hscp
          exact absurd hscp (by simp)
        | web scheme form host port rest htext hform hscheme hhost hport hslash hpath hrest =>
          exact ⟨_, form, hform, urlsplit_of_form hform htext hscheme hhost hport hslash hpath hrest,
            trusted_of_text hform rfl rfl hhost hport rfl rfl, repositoryFromPath_iff.2 hnames⟩
      · rw [scpPath_iff.2 ⟨user, host, htext, huser, hhost, pathNames_ne_nil hnames, hpath⟩] at hscp
        exact absurd hscp (by simp)
  | some path =>
    have hread : githubRepositoryFromRemoteUrl url = some (repositoryFromPath path) := by
      unfold githubRepositoryFromRemoteUrl
      rw [hscp]
    rw [hread, Option.some.injEq, repositoryFromPath_iff]
    obtain ⟨user, host, htext, huser, hhost, -, hpath⟩ := scpPath_iff.1 hscp
    constructor
    · intro hnames
      by_cases hplain : user = "git".toList ∧ IsGithubHost host
      · obtain ⟨rfl, hhost⟩ := hplain
        have hgit : "git@".toList = "git".toList ++ ['@'] := by simp
        refine .inl ⟨path, .scp host ?_ hhost hpath, hnames⟩
        rw [htext, hgit]
        simp
      · exact .inr ⟨user, host, path, htext, huser, hhost, hplain, hpath, hnames⟩
    · rintro (⟨path', hform, hnames⟩ | ⟨user', host', path', htext', huser', hhost', -, hpath', hnames⟩)
      · cases hform with
        | scp host' htext' hhost' hpath' =>
          have hagain := scpPath_of_form htext' hhost' hpath' (pathNames_ne_nil hnames)
          rw [hscp] at hagain
          rwa [Option.some.inj hagain]
        | web scheme form host' port rest htext' hform hscheme =>
          rw [List.append_assoc, List.append_assoc, List.append_assoc, List.append_assoc,
            List.append_assoc] at htext'
          exact absurd htext' (scp_not_web hscp hform hscheme)
      · have hagain := scpPath_iff.2
          ⟨user', host', htext', huser', hhost', pathNames_ne_nil hnames, hpath'⟩
        rw [hscp] at hagain
        rwa [Option.some.inj hagain]

theorem ForeignScp.not_names {url repository repository' : String} (h : ForeignScp url repository) :
    ¬Names url repository' := by
  obtain ⟨user, host, path, htext, huser, hhost, hforeign, hpath, hnames⟩ := h
  have hscp := scpPath_iff.2 ⟨user, host, htext, huser, hhost, pathNames_ne_nil hnames, hpath⟩
  rintro ⟨path', hform, hnames'⟩
  cases hform with
  | scp host' htext' hhost' hpath' =>
    refine hforeign ?_
    have hgit : "git@".toList = "git".toList ++ ['@'] := by simp
    rw [htext, hgit, List.append_assoc, List.append_assoc, List.append_assoc, List.singleton_append,
      List.cons_append] at htext'
    have hlength : user.length = "git".toList.length := huser.length_eq.symm
    obtain ⟨rfl, hrest⟩ := List.append_inj htext' hlength
    rw [List.cons.injEq] at hrest
    have hlength' : host.length = host'.length := by
      have hread := hhost.length_eq
      have hlower := congrArg List.length hhost'
      rw [List.length_map] at hlower
      rw [← hread, hlower]
    obtain ⟨rfl, -⟩ := List.append_inj hrest.2 hlength'
    exact ⟨rfl, hhost'⟩
  | web scheme form host' port rest htext' hform hscheme =>
    rw [List.append_assoc, List.append_assoc, List.append_assoc, List.append_assoc,
      List.append_assoc] at htext'
    exact absurd htext' (scp_not_web hscp hform hscheme)

/-- A URL is accepted for the repository it names, and only then, unless it is a foreign spelling of a
secure copy. -/
theorem githubRepositoryFromRemoteUrl_iff (url : String) :
    (∀ repository, githubRepositoryFromRemoteUrl url = some (some repository) ↔ Names url repository) ↔
      ¬∃ repository, ForeignScp url repository := by
  constructor
  · rintro h ⟨repository, hforeign⟩
    have haccepted := githubRepositoryFromRemoteUrl_ok.2 (.inr hforeign)
    exact hforeign.not_names ((h repository).1 haccepted)
  · intro hnone repository
    rw [githubRepositoryFromRemoteUrl_ok]
    exact or_iff_left fun hforeign => hnone ⟨repository, hforeign⟩

/-- A host with a dotless i is accepted. -/
theorem githubRepositoryFromRemoteUrl_counterexample :
    githubRepositoryFromRemoteUrl "git@gıthub.com:acme/data" = some (some "acme/data") ∧
      ¬Names "git@gıthub.com:acme/data" "acme/data" := by
  have hforeign : ForeignScp "git@gıthub.com:acme/data" "acme/data" := by
    refine ⟨"git".toList, "gıthub.com".toList, "acme/data".toList, by simp, by decide,
      by decide, by unfold IsGithubHost; decide, by decide, ?_⟩
    exact repositoryFromPath_iff.1 (by decide)
  exact ⟨githubRepositoryFromRemoteUrl_ok.2 (.inr hforeign), hforeign.not_names⟩

end DataRescue
