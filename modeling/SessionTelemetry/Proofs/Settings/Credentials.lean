import Mathlib.Data.List.Infix
import SessionTelemetry.Settings.Series

/-!
# Credentials in the query of an address

The address to which payloads are posted ends in a query that names the user and the password, both
as they are set. Where the user ends is said only by the mark before the password, so that two pairs
of credentials are written alike exactly if one is the other with its text cut at a later mark
(`requireUrl_eq_iff`). A query is read back to the credentials that it was written from exactly if
no such mark stands within the user (`ofQuery?_query`).
-/

namespace SessionTelemetry

structure Credentials where
  user : String
  password : String
  deriving DecidableEq, Repr

namespace Credentials

variable {c c' : Credentials} {user user' password password' : List Char}

def mark : List Char := ['&', 'p', '=']

def query (c : Credentials) : String := "u=" ++ c.user ++ "&p=" ++ c.password

def splitAtMark : List Char → Option (List Char × List Char)
  | '&' :: 'p' :: '=' :: rest => some ([], rest)
  | ch :: rest => (splitAtMark rest).map fun parts => (ch :: parts.1, parts.2)
  | [] => none

/-- The credentials that a query names, the user reaching up to the first mark. -/
def ofQuery? (query : String) : Option Credentials :=
  match query.toList with
  | 'u' :: '=' :: rest =>
    (splitAtMark rest).map fun parts => ⟨String.ofList parts.1, String.ofList parts.2⟩
  | _ => none

/-- The same text, cut at a later mark. -/
def CutLater (c c' : Credentials) : Prop :=
  ∃ between, c'.user.toList = c.user.toList ++ mark ++ between ∧
    c.password.toList = between ++ mark ++ c'.password.toList

theorem toList_query (c : Credentials) :
    c.query.toList = 'u' :: '=' :: (c.user.toList ++ mark ++ c.password.toList) := by
  simp [query, mark]

/-- A mark that two texts start with reaches into the second only as a whole. -/
theorem eq_or_exists_of_mark {first : List Char}
    (h : mark ++ password = first ++ (mark ++ password')) :
    (first = [] ∧ password = password') ∨
      ∃ between, first = mark ++ between ∧ password = between ++ mark ++ password' := by
  rcases first with _ | ⟨x, _ | ⟨y, _ | ⟨z, between⟩⟩⟩
  · simpa [mark] using h
  · simp [mark] at h
  · simp [mark] at h
  · simp only [mark, List.cons_append, List.nil_append, List.cons.injEq] at h
    obtain ⟨rfl, rfl, rfl, h⟩ := h
    exact .inr ⟨between, rfl, by simpa [mark] using h⟩

theorem append_mark_eq_iff :
    user ++ mark ++ password = user' ++ mark ++ password' ↔
      (user = user' ∧ password = password') ∨
        (∃ between, user' = user ++ mark ++ between ∧ password = between ++ mark ++ password') ∨
        ∃ between, user = user' ++ mark ++ between ∧ password' = between ++ mark ++ password := by
  constructor
  · intro h
    rw [List.append_assoc, List.append_assoc, List.append_eq_append_iff] at h
    rcases h with ⟨rest, rfl, h⟩ | ⟨rest, rfl, h⟩
    · rcases eq_or_exists_of_mark h with ⟨rfl, rfl⟩ | ⟨between, rfl, rfl⟩
      · exact .inl ⟨(List.append_nil user).symm, rfl⟩
      · exact .inr (.inl ⟨between, (List.append_assoc ..).symm, rfl⟩)
    · rcases eq_or_exists_of_mark h with ⟨rfl, rfl⟩ | ⟨between, rfl, rfl⟩
      · exact .inl ⟨List.append_nil user', rfl⟩
      · exact .inr (.inr ⟨between, (List.append_assoc ..).symm, rfl⟩)
  · rintro (⟨rfl, rfl⟩ | ⟨between, rfl, rfl⟩ | ⟨between, rfl, rfl⟩)
    · rfl
    · simp only [List.append_assoc]
    · simp only [List.append_assoc]

theorem query_eq_iff : c.query = c'.query ↔ c = c' ∨ c.CutLater c' ∨ c'.CutLater c := by
  obtain ⟨user, password⟩ := c
  obtain ⟨user', password'⟩ := c'
  rw [← String.toList_inj, toList_query, toList_query, List.cons_inj_right, List.cons_inj_right,
    append_mark_eq_iff, String.toList_inj, String.toList_inj, mk.injEq]
  rfl

theorem splitAtMark_cons {ch : Char} {rest : List Char} (h : ¬ mark <+: ch :: rest) :
    splitAtMark (ch :: rest) =
      (splitAtMark rest).map fun parts => (ch :: parts.1, parts.2) := by
  rw [splitAtMark]
  rintro others rfl rfl
  exact h ⟨others, rfl⟩

/-- A text with a mark after the user is cut there unless a mark stands within the user. -/
theorem splitAtMark_append (user password : List Char) :
    splitAtMark (user ++ mark ++ password) = some (user, password) ↔ ¬ mark <:+: user := by
  induction user with
  | nil => simp [splitAtMark, mark]
  | cons ch rest ih =>
    by_cases hmark : mark <+: ch :: rest
    · have hcut : splitAtMark (ch :: rest ++ mark ++ password) ≠ some (ch :: rest, password) := by
        obtain ⟨others, hothers⟩ := hmark
        rw [← hothers]
        simp [splitAtMark, mark]
      exact iff_of_false hcut (not_not_intro hmark.isInfix)
    · have hlater : ¬ mark <+: ch :: (rest ++ mark ++ password) := by
        rintro ⟨others, hothers⟩
        rw [List.append_assoc, ← List.cons_append] at hothers
        rcases eq_or_exists_of_mark hothers with ⟨hnil, -⟩ | ⟨between, hcons, -⟩
        · cases hnil
        · exact hmark ⟨between, hcons.symm⟩
      rw [List.cons_append, List.cons_append, splitAtMark_cons hlater, List.infix_cons_iff, not_or,
        ← ih]
      cases splitAtMark (rest ++ mark ++ password) with
      | none => simp
      | some parts => simp [Prod.ext_iff, hmark]

/-- A query is read back as it was written unless a mark stands within the user. -/
theorem ofQuery?_query (c : Credentials) :
    ofQuery? c.query = some c ↔ ¬ mark <:+: c.user.toList := by
  rw [← splitAtMark_append c.user.toList c.password.toList, ofQuery?, toList_query]
  simp only [Option.map_eq_some_iff]
  constructor
  · rintro ⟨parts, hparts, rfl⟩
    simpa using hparts
  · intro h
    exact ⟨_, h, by simp⟩

end Credentials

namespace SeriesSettings

open Credentials

variable {s s' : SeriesSettings} {c c' : Credentials}

structure Names (s : SeriesSettings) (c : Credentials) : Prop where
  urlBase : s.urlBase.isNull = false
  database : s.database.isNull = false
  user : s.user = .text c.user
  password : s.password = .text c.password

def endpoint (s : SeriesSettings) : String :=
  String.ofList (Text.trimEndWhile (· == '/') s.urlBase.display.toList) ++ "/db/" ++
    s.database.display ++ "/series"

theorem requireUrl_of_names (h : s.Names c) :
    s.requireUrl = .ok (s.endpoint ++ "?" ++ c.query) := by
  have huser : s.user.isNull = false := by rw [h.user]; rfl
  have hpassword : s.password.isNull = false := by rw [h.password]; rfl
  have hset : s.required.find? (fun r => r.2.isNull) = none := by
    simp [required, h.urlBase, h.database, huser, hpassword]
  rw [requireUrl, hset]
  simp only [h.user, h.password, Value.display, endpoint, query, Except.ok.injEq]
  simp [← String.toList_inj]

/-- Of two settings with the same address and database, each makes an address whose query names its
credentials. The two are the same exactly if the credentials are, or if one pair is the other with
its text cut at a later mark. The query is read back to the credentials exactly if no mark stands
within the user. -/
theorem requireUrl_eq_iff (h : s.Names c) (h' : s'.Names c') (hbase : s.urlBase = s'.urlBase)
    (hdatabase : s.database = s'.database) :
    s.requireUrl = .ok (s.endpoint ++ "?" ++ c.query) ∧
      s'.requireUrl = .ok (s.endpoint ++ "?" ++ c'.query) ∧
      (s.requireUrl = s'.requireUrl ↔ c = c' ∨ c.CutLater c' ∨ c'.CutLater c) ∧
      (ofQuery? c.query = some c ↔ ¬ mark <:+: c.user.toList) := by
  have hurl := requireUrl_of_names h
  have hurl' : s'.requireUrl = .ok (s.endpoint ++ "?" ++ c'.query) := by
    rw [requireUrl_of_names h', endpoint, endpoint, hbase, hdatabase]
  refine ⟨hurl, hurl', ?_, ofQuery?_query c⟩
  rw [hurl, hurl', Except.ok.injEq, String.append_right_inj, query_eq_iff]

def connecting (c : Credentials) : SeriesSettings where
  urlBase := .text "http://h"
  database := .text "d"
  user := .text c.user
  password := .text c.password

theorem names_connecting (c : Credentials) : (connecting c).Names c := ⟨rfl, rfl, rfl, rfl⟩

/-- The address of a password with a mark is that of a user with a mark, and is read back as the
former. -/
theorem requireUrl_eq_iff_twoMarks :
    (connecting ⟨"a", "b&p=c"⟩).Names ⟨"a", "b&p=c"⟩ ∧
      (connecting ⟨"a&p=b", "c"⟩).Names ⟨"a&p=b", "c"⟩ ∧
      (connecting ⟨"a", "b&p=c"⟩).requireUrl = (connecting ⟨"a&p=b", "c"⟩).requireUrl ∧
      ofQuery? "u=a&p=b&p=c" = some ⟨"a", "b&p=c"⟩ := by
  obtain ⟨-, -, hsame, hread⟩ := requireUrl_eq_iff (names_connecting ⟨"a", "b&p=c"⟩)
    (names_connecting ⟨"a&p=b", "c"⟩) rfl rfl
  have hlater : CutLater ⟨"a", "b&p=c"⟩ ⟨"a&p=b", "c"⟩ := ⟨['b'], rfl, rfl⟩
  exact ⟨names_connecting _, names_connecting _, hsame.2 (.inr (.inl hlater)),
    hread.2 (by decide)⟩

def connectionOf (user password : String) : Properties :=
  [(SettingName.urlBase, .text "http://h"), (SettingName.database, .text "d"),
   (SettingName.user, .text user), (SettingName.password, .text password)]

/-- Two connections with different credentials have the same address. -/
theorem requireUrl_of_mark_in_user :
    ∃ s s', ofProperties (connectionOf "a" "b&p=c") = .ok s ∧
      ofProperties (connectionOf "a&p=b" "c") = .ok s' ∧
      s.urlBase = s'.urlBase ∧ s.database = s'.database ∧
      s.user = .text "a" ∧ s.password = .text "b&p=c" ∧
      s'.user = .text "a&p=b" ∧ s'.password = .text "c" ∧
      s.requireUrl = .ok "http://h/db/d/series?u=a&p=b&p=c" ∧
      s'.requireUrl = .ok "http://h/db/d/series?u=a&p=b&p=c" :=
  ⟨_, _, rfl, rfl, rfl, rfl, rfl, rfl, rfl, rfl, rfl, rfl⟩

end SeriesSettings

end SessionTelemetry
