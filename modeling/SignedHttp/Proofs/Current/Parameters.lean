import SignedHttp.Proofs.Current.Header

/-!
# What the reader makes of pairs

Whatever pairs of a name and a value are written into an Authorization value, and in whatever way,
the reader looks at the last value of each name only.  So the order matters between pairs of one
name alone.

* `CurrentScheme.Writes` is the way to write pairs: the token in any letter case, a space, and the
  pairs between commas.
* `CurrentScheme.Writes.scan_credentials`: the pairs are found again, and nothing else is.  What
  looks like a pair or a comma within a value stays in the value.
* `CurrentScheme.outcome` is what a table of values comes to, parameters or an error.
* `CurrentScheme.lastValue` is the table of the pairs.
* `CurrentScheme.parse_writes` puts these together.
-/

set_option autoImplicit false

namespace SignedHttp
namespace CurrentScheme

variable {s : CurrentScheme} {pairs pairs' : List (String × String)}

/-! ## The last value of a name -/

/-- The percent-decoded value of the last pair whose name is the given one in lower case, blank if
there is none. -/
def lastValue (pairs : List (String × String)) (name : String) : String :=
  match pairs.reverse.find? fun p => Text.lower p.1 == name with
  | some p => Percent.decode p.2
  | none => ""

theorem lastD_map_ofPair (pairs : List (String × String)) (name : String) :
    Fields.lastD (pairs.map Fields.ofPair) name = lastValue pairs name := by
  have hlast : Fields.last? (pairs.map Fields.ofPair) name =
      (pairs.reverse.find? fun p => Text.lower p.1 == name).map fun p => Percent.decode p.2 := by
    rw [Fields.last?, List.map_map, ← List.map_reverse, List.find?_map, Option.map_map]
    rfl
  rw [Fields.lastD, hlast, lastValue]
  cases pairs.reverse.find? fun p => Text.lower p.1 == name with
  | none => rfl
  | some p => rfl

/-- The value of a pair that no other pair of its name follows. -/
theorem lastValue_append_cons {front back : List (String × String)} {p : String × String}
    (hback : ∀ q ∈ back, Text.lower q.1 ≠ Text.lower p.1) :
    lastValue (front ++ p :: back) (Text.lower p.1) = Percent.decode p.2 := by
  have hnone : (back.reverse.find? fun q => Text.lower q.1 == Text.lower p.1) = none := by
    rw [List.find?_eq_none]
    intro q hq
    simpa using hback q (List.mem_reverse.1 hq)
  rw [lastValue, List.reverse_append, List.reverse_cons, List.append_assoc, List.find?_append,
    hnone, Option.none_or, List.singleton_append, List.find?_cons_of_pos (by simp)]

theorem lastValue_of_forall_ne {name : String} (h : ∀ p ∈ pairs, Text.lower p.1 ≠ name) :
    lastValue pairs name = "" := by
  have hnone : (pairs.reverse.find? fun p => Text.lower p.1 == name) = none := by
    rw [List.find?_eq_none]
    intro p hp
    simpa using h p (List.mem_reverse.1 hp)
  rw [lastValue, hnone]

/-- Where no name is repeated, every pair is the last one of its name. -/
theorem lastValue_of_mem (hdistinct : (pairs.map fun p => Text.lower p.1).Nodup)
    {p : String × String} (hp : p ∈ pairs) :
    lastValue pairs (Text.lower p.1) = Percent.decode p.2 := by
  obtain ⟨front, back, rfl⟩ := List.append_of_mem hp
  refine lastValue_append_cons fun q hq heq => ?_
  rw [List.map_append, List.map_cons] at hdistinct
  have hcons := (List.nodup_append.1 hdistinct).2.1
  refine (List.nodup_cons.1 hcons).1 ?_
  rw [← heq]
  exact List.mem_map_of_mem hq

/-- **Where no name is repeated, the order does not matter.** -/
theorem lastValue_perm (hdistinct : (pairs.map fun p => Text.lower p.1).Nodup)
    (hperm : pairs'.Perm pairs) : lastValue pairs' = lastValue pairs := by
  have hdistinct' : (pairs'.map fun p => Text.lower p.1).Nodup :=
    (hperm.map _).nodup_iff.2 hdistinct
  funext name
  by_cases hname : ∃ p ∈ pairs, Text.lower p.1 = name
  · obtain ⟨p, hp, rfl⟩ := hname
    rw [lastValue_of_mem hdistinct hp, lastValue_of_mem hdistinct' (hperm.mem_iff.2 hp)]
  · have hne : ∀ p ∈ pairs, Text.lower p.1 ≠ name := fun p hp heq => hname ⟨p, hp, heq⟩
    rw [lastValue_of_forall_ne hne,
      lastValue_of_forall_ne fun p hp => hne p (hperm.mem_iff.1 hp)]

/-! ## What a table of values comes to -/

/-- The parameters that a table of values gives.  The first fault is the one that is told: values
that are blank, another version, header fields that may not be signed. -/
def outcome (s : CurrentScheme) (value : String → String) : Except AuthError Authorization :=
  let blank := ["id", "nonce", "version", "signature"].filter fun name => (value name).isEmpty
  let headers := splitNames (value "headers")
  let disallowed := headers.filter fun name => !s.allows name
  if blank ≠ [] then .error (.parameters (.missing blank))
  else if value "version" ≠ "2.0" then
    .error (.parameters (.unsupportedVersion (value "version")))
  else if disallowed ≠ [] then .error (.parameters (.headersNotAllowed disallowed))
  else
    .ok {
      id := value "id"
      realm := value "realm"
      nonce := value "nonce"
      version := value "version"
      headers
      signature := value "signature" }

theorem blankNames_map (names : List String) (value : String → String) :
    blankNames (names.map fun name => (name, value name)) =
      names.filter fun name => (value name).isEmpty := by
  rw [blankNames, List.filter_map, List.map_map]
  exact List.map_id _

/-- **What the reader accepts or rejects**, told from the last value of each name. -/
theorem parse_eq_outcome {header : String} (h : Token.begins token header = true) :
    s.parse header = s.outcome (Fields.lastD (Fields.scan (Token.credentials header))) := by
  rw [parse, if_neg (by simp [h])]
  dsimp only [ofFields]
  generalize Fields.lastD (Fields.scan (Token.credentials header)) = value
  have hblank : blankNames [("id", value "id"), ("nonce", value "nonce"),
      ("version", value "version"), ("signature", value "signature")] = _ :=
    blankNames_map ["id", "nonce", "version", "signature"] value
  rw [checkParameters, hblank, outcome, disallowed]
  generalize ["id", "nonce", "version", "signature"].filter _ = blank
  generalize (splitNames (value "headers")).filter _ = others
  by_cases hmissing : blank = []
  · by_cases hversion : value "version" = "2.0"
    · by_cases hheaders : others = []
      · simp [hmissing, hversion, hheaders, version]
      · simp [hmissing, hversion, hheaders, version]
    · simp [hmissing, hversion, version]
  · simp [hmissing]

/-! ## Pairs in a header -/

/-- A header of pairs: the token in any letter case, a space, and the pairs with commas between
them.  A name consists of letters and underscores, a value of anything but quotes.  Around a pair
there may be spaces, or anything else that no name can be made of. -/
structure Writes (header : String) (word : List Char) (cells : List Fields.Cell)
    (pairs : List (String × String)) : Prop where
  shape : header.toList = word ++ ' ' :: [','].intercalate (cells.map Fields.Cell.written)
  recased : word.map Char.toLower = token.toList
  writable : ∀ c ∈ cells, c.Writable
  fields : cells.map Fields.Cell.field = pairs.map Fields.ofPair

variable {header : String} {word : List Char} {cells : List Fields.Cell}

theorem token_ascii : ∀ c ∈ token.toList, c.toNat < 128 := by
  have hall : token.toList.all (·.toNat < 128) = true := by decide
  intro c hc
  exact of_decide_eq_true (List.all_eq_true.1 hall c hc)

theorem lower_token : Text.lower token = token := Text.lower_eq_of_ascii token_ascii (by decide)

namespace Writes

theorem word_ne_nil (h : Writes header word cells pairs) : word ≠ [] := by
  rintro rfl
  exact absurd h.recased (by decide)

theorem isBlank_word (h : Writes header word cells pairs) :
    ∀ c ∈ word, Text.isBlank c = false := by
  have hall : token.toList.all (!Text.isBlank ·) = true := by decide
  intro c hc
  have hlower := List.all_eq_true.1 hall c.toLower (h.recased ▸ List.mem_map_of_mem hc)
  exact Text.isBlank_of_toLower (by simpa using hlower)

theorem first (h : Writes header word cells pairs) : Token.first header = String.ofList word :=
  (Token.exists_credentials h.shape h.word_ne_nil h.isBlank_word).1

theorem begins (h : Writes header word cells pairs) : Token.begins token header = true := by
  have hlower : Text.lower (String.ofList word) = token :=
    Text.lower_eq_of_ascii token_ascii (by rw [String.toList_ofList, h.recased])
  have hne : header ≠ "" := by
    rintro rfl
    exact absurd h.shape (by simp)
  rw [Token.begins, h.first, hlower, lower_token, beq_self_eq_true, Bool.and_true,
    Bool.not_eq_true', String.isEmpty_eq_false_iff]
  exact hne

/-- **The reader finds the pairs that were written**, and nothing else. -/
theorem scan_credentials (h : Writes header word cells pairs) :
    Fields.scan (Token.credentials header) = pairs.map Fields.ofPair := by
  obtain ⟨-, blanks, hrow, hblanks⟩ :=
    Token.exists_credentials h.shape h.word_ne_nil h.isBlank_word
  have hquote : '"' ∉ blanks := fun hmem => absurd (hblanks '"' hmem) (by decide)
  have hscan := Fields.scan_row h.writable
  rwa [hrow, Fields.scan, Fields.scanFrom_append hquote, h.fields] at hscan

end Writes

/-- **The reader takes the percent-decoded last value of each name**, and comes to parameters or to
an error by these alone.  So it is the same for every header that has the pairs in another order, or
that is set differently, unless a name is repeated. -/
theorem parse_writes (h : Writes header word cells pairs) :
    s.parse header = s.outcome (lastValue pairs) ∧
    Fields.scan (Token.credentials header) = pairs.map Fields.ofPair ∧
    ∀ header' word' cells' pairs', Writes header' word' cells' pairs' → pairs'.Perm pairs →
      (pairs.map fun p => Text.lower p.1).Nodup → s.parse header' = s.parse header := by
  have hparse {header word cells pairs} (h : Writes header word cells pairs) :
      s.parse header = s.outcome (lastValue pairs) := by
    rw [parse_eq_outcome h.begins, h.scan_credentials]
    exact congrArg s.outcome (funext (lastD_map_ofPair pairs))
  refine ⟨hparse h, h.scan_credentials, fun header' word' cells' pairs' h' hperm hdistinct => ?_⟩
  rw [hparse h, hparse h', lastValue_perm hdistinct hperm]

/-! Two ways to write the same pairs.  The realm holds what looks like another id and nonce. -/

def plainPairs : List (String × String) :=
  [("realm", "id=evil,nonce=x"), ("id", "a"), ("nonce", "n%201"), ("signature", "s"),
   ("version", "2.0")]

def plainHeader : String :=
  "acquia-http-hmac realm=\"id=evil,nonce=x\",id=\"a\",nonce=\"n%201\",signature=\"s\"," ++
    "version=\"2.0\""

def spacedPairs : List (String × String) :=
  [("version", "2.0"), ("nonce", "n%201"), ("realm", "id=evil,nonce=x"), ("signature", "s"),
   ("id", "a")]

def spacedHeader : String :=
  "Acquia-HTTP-HMAC  version=\"2.0\" , nonce=\"n%201\",realm=\"id=evil,nonce=x\" ," ++
    "signature=\"s\",  id=\"a\" "

def plainCells : List Fields.Cell := (plainPairs.map Fields.ofPair).map (Fields.Cell.mk [] · [])

/-- The cells of the second header, which differ in the spaces. -/
def spacedCells : List Fields.Cell :=
  List.zipWith (fun f (m, n) => ⟨List.replicate m ' ', f, List.replicate n ' '⟩)
    (spacedPairs.map Fields.ofPair) [(1, 1), (1, 0), (0, 1), (0, 0), (2, 1)]

theorem plain_writes :
    Writes plainHeader "acquia-http-hmac".toList plainCells plainPairs where
  shape := by decide
  recased := by decide
  writable := by decide
  fields := by decide

theorem spaced_writes :
    Writes spacedHeader "Acquia-HTTP-HMAC".toList spacedCells spacedPairs where
  shape := by decide
  recased := by decide
  writable := by decide
  fields := by decide

def plainAuthorization : Authorization where
  id := "a"
  realm := "id=evil,nonce=x"
  nonce := "n 1"
  version := "2.0"
  headers := []
  signature := "s"

theorem spaced_parse :
    outcome ⟨.sha256, []⟩ (lastValue plainPairs) = .ok plainAuthorization ∧
    parse ⟨.sha256, []⟩ spacedHeader = .ok plainAuthorization := by
  obtain ⟨hplain, -, hperm⟩ := parse_writes (s := ⟨.sha256, []⟩) plain_writes
  have hread : parse ⟨.sha256, []⟩ plainHeader = .ok plainAuthorization :=
    parse_eq_ok_iff.2 (by decide)
  have hspaced := hperm _ _ _ _ spaced_writes (by decide) (by decide)
  exact ⟨hplain.symm.trans hread, hspaced.trans hread⟩

end CurrentScheme
end SignedHttp
