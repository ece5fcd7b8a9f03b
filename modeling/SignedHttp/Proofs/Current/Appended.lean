import SignedHttp.Proofs.Current.Parameters
import SignedHttp.Proofs.Headers

/-!
# A pair behind an Authorization value

Whoever can append to an Authorization value can add a pair to it.  The reader looks for six names
and passes over the others, so a pair of another name should make no difference.  But it takes only
the last word of a name, the letters and underscores in front of the equals sign.  A pair that is
called `x-id` therefore counts as an `id`, and being the last one it takes the place of the id that
was there.

* `CurrentScheme.parse_appended`: what the reader makes of a value with one more pair.
* `CurrentScheme.appended_ignored_iff`: the pair is ignored, whatever its value, just if the last
  word of its name is none of the six.
* `CurrentScheme.not_forall_ignored`: that the whole name is none of them is not enough.
-/

set_option autoImplicit false

namespace SignedHttp
namespace CurrentScheme

variable {s : CurrentScheme} {header name value : String} {a : Authorization}
  {table table' : String → String} {key : String}

/-! ## Tables of values -/

/-- The values that a header gives to the names. -/
def tableOf (header : String) : String → String :=
  Fields.lastD (Fields.scan (Token.credentials header))

/-- The parameters of a table, checked or not. -/
def ofTable (table : String → String) : Authorization where
  id := table "id"
  realm := table "realm"
  nonce := table "nonce"
  version := table "version"
  headers := splitNames (table "headers")
  signature := table "signature"

theorem ofTable_eq_of_outcome (h : s.outcome table = .ok a) : ofTable table = a := by
  rw [outcome] at h
  split at h
  · exact absurd h (by simp)
  · split at h
    · exact absurd h (by simp)
    · split at h
      · exact absurd h (by simp)
      · exact Except.ok.inj h

/-- Only the values of the six names matter. -/
theorem outcome_congr (h : ∀ name ∈ fieldNames, table name = table' name) :
    s.outcome table = s.outcome table' := by
  simp only [fieldNames, List.forall_mem_cons] at h
  obtain ⟨hheaders, hid, hnonce, hrealm, hsignature, hversion, -⟩ := h
  simp only [outcome, List.filter_cons, List.filter_nil, hheaders, hid, hnonce, hrealm, hsignature,
    hversion]

theorem outcome_update (h : key ∉ fieldNames) :
    s.outcome (Function.update table key value) = s.outcome table := by
  refine outcome_congr fun name hname => Function.update_of_ne ?_ _ _
  rintro rfl
  exact h hname

/-- Under each of the names it can be seen which of these two values it has. -/
theorem ofTable_update_ne (h : key ∈ fieldNames) :
    ofTable (Function.update table key "") ≠ ofTable (Function.update table key "x") := by
  intro heq
  rw [ofTable, ofTable, Authorization.mk.injEq] at heq
  obtain ⟨hid, hrealm, hnonce, hversion, hheaders, hsignature⟩ := heq
  have hsplit : splitNames "" ≠ splitNames "x" := by decide
  simp only [fieldNames, List.mem_cons, List.not_mem_nil, or_false] at h
  rcases h with rfl | rfl | rfl | rfl | rfl | rfl
  · exact absurd hheaders (by simpa using hsplit)
  · exact absurd hid (by simp)
  · exact absurd hnonce (by simp)
  · exact absurd hrealm (by simp)
  · exact absurd hsignature (by simp)
  · exact absurd hversion (by simp)

/-! ## One more pair -/

/-- A header with a pair behind it. -/
def appended (header name value : String) : String :=
  header ++ "," ++ Fields.render name value

/-- The name under which a pair is found. -/
def foundName (name : String) : String :=
  Text.lower (String.ofList (Fields.lastWord name.toList))

theorem key_lastWord (name : String) (value : List Char) :
    Fields.key (Fields.lastWord name.toList, value) = foundName name := by
  rw [Fields.key, foundName, Text.lower, String.toList_ofList]

theorem toList_pair (name value : String) :
    ("," ++ Fields.render name value).toList =
      ',' :: Fields.written (name.toList, value.toList) := by
  rw [String.toList_append, Fields.toList_render]
  rfl

theorem exists_credentials_appended (name value : String)
    (h : Fields.EndsClosed (Token.credentials header)) :
    Token.first (appended header name value) = Token.first header ∧
      ∃ blanks, Token.credentials (appended header name value) =
        Token.credentials header ++ (blanks ++ ',' :: Fields.written (name.toList, value.toList)) ∧
          ∀ c ∈ blanks, Text.isBlank c = true := by
  have hne : Token.credentials header ≠ [] := by
    obtain ⟨front, f, hfront, -⟩ := h
    simp [hfront]
  have hpair := toList_pair name value
  have hempty : "," ++ Fields.render name value ≠ "" := by
    intro hnil
    rw [hnil] at hpair
    exact absurd hpair (by simp)
  have hlast : ∀ c ∈ ("," ++ Fields.render name value).toList.getLast?, Text.isBlank c = false := by
    intro c hc
    rw [hpair, List.getLast?_cons, Fields.getLast?_written] at hc
    obtain rfl : '"' = c := Option.some.inj hc
    decide
  have happend := Token.exists_credentials_append hne hempty hlast
  rwa [← String.append_assoc, hpair] at happend

/-- The pair is scanned behind the others. -/
theorem scan_appended (name value : String)
    (h : Fields.EndsClosed (Token.credentials header)) :
    Fields.scan (Token.credentials (appended header name value)) =
      Fields.scan (Token.credentials header) ++
        Fields.scan (Fields.written (name.toList, value.toList)) := by
  obtain ⟨-, blanks, hcredentials, hblanks⟩ := exists_credentials_appended name value h
  have hgap : ∀ c ∈ blanks, Fields.isNameChar c = false := fun c hc =>
    Fields.isNameChar_of_isBlank (hblanks c hc)
  rw [hcredentials, h.scan_append, Fields.scan, Fields.scan, Fields.scanFrom_gap hgap,
    Fields.scanFrom_comma, ← Fields.scan, ← Fields.scan]

theorem begins_appended (h : Fields.EndsClosed (Token.credentials header)) :
    Token.begins token (appended header name value) = Token.begins token header := by
  have hfirst := (exists_credentials_appended name value h).1
  have hne : header ≠ "" := by
    rintro rfl
    obtain ⟨front, f, hfront, -⟩ := h
    exact absurd hfront (by simp [Token.credentials, Text.trim, Text.trimStart, Text.trimEnd])
  have hne' : appended header name value ≠ "" := by
    rw [appended]
    simp [hne]
  rw [Token.begins, Token.begins, hfirst, String.isEmpty_eq_false_iff.2 hne,
    String.isEmpty_eq_false_iff.2 hne']

/-- **One more pair changes the value of the name under which it is found**, and of no other.  Where
the name does not end with a word, there is none. -/
theorem parse_appended (hbegins : Token.begins token header = true)
    (h : Fields.EndsClosed (Token.credentials header)) (hname : '=' ∉ name.toList)
    (hvalue : '"' ∉ value.toList) :
    s.parse (appended header name value) =
      s.outcome (Function.update (tableOf header) (foundName name) (Percent.decode value)) := by
  have hscan := scan_appended name value h
  rw [Fields.scan_written hname hvalue] at hscan
  rw [parse_eq_outcome ((begins_appended h).trans hbegins), hscan]
  split
  · next hword =>
    have hfound : foundName name ∉ fieldNames := by
      rw [foundName, hword]
      decide
    rw [List.append_nil, outcome_update hfound, tableOf]
  · rw [Fields.lastD_concat, key_lastWord, tableOf, Percent.decode]

/-- **A pair is ignored, whatever its value, just if the last word of its name is none of the names
that the reader looks for.** -/
theorem appended_ignored_iff (hparse : s.parse header = .ok a)
    (hclosed : Fields.EndsClosed (Token.credentials header)) (htoken : Headers.IsToken name) :
    (∀ value : String, '"' ∉ value.toList → s.parse (appended header name value) =
      s.outcome (Function.update (tableOf header) (foundName name) (Percent.decode value))) ∧
    ((∀ value : String, '"' ∉ value.toList → s.parse (appended header name value) = .ok a) ↔
      foundName name ∉ fieldNames) := by
  have hbegins : Token.begins token header = true := (parse_eq_ok_iff.1 hparse).1
  have hname : '=' ∉ name.toList := fun hmem => absurd (htoken.chars '=' hmem) (by decide)
  have happended (value : String) (hvalue : '"' ∉ value.toList) :=
    parse_appended (s := s) hbegins hclosed hname hvalue
  refine ⟨happended, fun hignored hfound => ?_, fun hfound value hvalue => ?_⟩
  · -- two values cannot both be ignored under a name that is looked for
    have hempty := hignored "" (by decide)
    have hx := hignored "x" (by decide)
    rw [happended _ (by decide)] at hempty hx
    exact ofTable_update_ne hfound
      ((ofTable_eq_of_outcome hempty).trans (ofTable_eq_of_outcome hx).symm)
  · rw [happended value hvalue, outcome_update hfound, tableOf, ← parse_eq_outcome hbegins, hparse]

/-! A header to which a trace and then an id are appended. -/

def closedHeader : String :=
  "acquia-http-hmac id=\"a\",nonce=\"n\",signature=\"s\",version=\"2.0\""

def closedAuthorization : Authorization where
  id := "a"
  realm := ""
  nonce := "n"
  version := "2.0"
  headers := []
  signature := "s"

theorem closed_parse : parse ⟨.sha256, []⟩ closedHeader = .ok closedAuthorization :=
  parse_eq_ok_iff.2 (by decide)

theorem endsClosed_closedHeader : Fields.EndsClosed (Token.credentials closedHeader) :=
  ⟨"id=\"a\",nonce=\"n\",signature=\"s\",version=\"2.0".toList,
    ("version".toList, "2.0".toList), by decide, by decide⟩

theorem trace_ignored :
    parse ⟨.sha256, []⟩ closedHeader = .ok closedAuthorization ∧
      ∀ value : String, '"' ∉ value.toList →
        parse ⟨.sha256, []⟩ (appended closedHeader "x-trace" value) = .ok closedAuthorization := by
  have htoken : Headers.IsToken "x-trace" := ⟨by decide, List.all_eq_true.1 (by decide)⟩
  have hiff := (appended_ignored_iff closed_parse endsClosed_closedHeader htoken).2
  exact ⟨closed_parse, hiff.2 (by decide)⟩

/-- A name may be unknown and still end with a known word. -/
theorem not_forall_ignored :
    ¬∀ (s : CurrentScheme) (header name value : String) (a : Authorization),
      s.parse header = .ok a → Fields.EndsClosed (Token.credentials header) →
        Headers.IsToken name → Text.lower name ∉ fieldNames → '"' ∉ value.toList →
          s.parse (appended header name value) = .ok a := by
  intro hall
  have htoken : Headers.IsToken "x-id" := ⟨by decide, List.all_eq_true.1 (by decide)⟩
  have hignored := hall ⟨.sha256, []⟩ closedHeader "x-id" "b" closedAuthorization closed_parse
    endsClosed_closedHeader htoken (by decide) (by decide)
  exact absurd (parse_eq_ok_iff.1 hignored).2.1 (by decide)

end CurrentScheme
end SignedHttp
