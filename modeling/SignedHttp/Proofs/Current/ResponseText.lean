import SignedHttp.Proofs.Current.Header
import SignedHttp.Proofs.Octets
import SignedHttp.Proofs.Text
import SignedHttp.Scheme.Current
import SignedHttp.Timestamp

/-!
# What the signed text of a response determines

The signed text of a response is a nonce, a timestamp and a body with line breaks between them.
None of the three is escaped: a nonce is any text, a timestamp may have blanks around it, and a body
is any sequence of octets.  So the two line breaks in between have to be found among others.

* `CurrentScheme.decodeLossy_responseText`: the signed text, read as characters.
* `CurrentScheme.Delimited` collects what a nonce and a timestamp must satisfy so that they end
  where they seem to.
* `CurrentScheme.responseText_binds`: then equal texts hold the same nonce, timestamp and body.  In
  general they do so exactly when the line breaks of the nonces and of the timestamps are as many.
-/

set_option autoImplicit false

namespace SignedHttp
namespace CurrentScheme

variable {r r' : Response} {a a' : Authorization} {nonce nonce' timestamp timestamp' : String}

/-- Two responses with the parameters and the timestamps that are signed with them are the same
reply when all that is signed is the same. -/
structure SameReply (r : Response) (a : Authorization) (timestamp : String) (r' : Response)
    (a' : Authorization) (timestamp' : String) : Prop where
  nonce : a.nonce = a'.nonce
  timestamp : timestamp = timestamp'
  body : r.body = r'.body

theorem SameReply.responseText_eq (h : SameReply r a timestamp r' a' timestamp') :
    responseText r a timestamp = responseText r' a' timestamp' := by
  rw [responseText, responseText, h.nonce, h.timestamp, h.body]

def lineBreaks (s : String) : Nat := s.toList.count '\n'

/-! ## The two cuts -/

theorem decodeLossy_responseText (r : Response) (a : Authorization) (timestamp : String) :
    Utf8.decodeLossy (responseText r a timestamp) =
      a.nonce.toList ++ '\n' :: (timestamp.toList ++ '\n' :: Utf8.decodeLossy r.body) := by
  rw [responseText, Utf8.decodeLossy, Utf8.encode, Utf8.decodeFrom_encodeList]
  simp [Utf8.decodeLossy, String.toList_append]

/-- **Equal texts are cut at the same line breaks when equally many come before.** -/
theorem sameReply_of_lineBreaks_eq
    (h : responseText r a timestamp = responseText r' a' timestamp')
    (hnonce : lineBreaks a.nonce = lineBreaks a'.nonce)
    (htimestamp : lineBreaks timestamp = lineBreaks timestamp') :
    SameReply r a timestamp r' a' timestamp' := by
  have hread := congrArg Utf8.decodeLossy h
  rw [decodeLossy_responseText, decodeLossy_responseText] at hread
  obtain ⟨hfirst, hrest⟩ := Text.append_cons_inj_of_count hnonce hread
  obtain ⟨hsecond, -⟩ := Text.append_cons_inj_of_count htimestamp hrest
  have hnonces : a.nonce = a'.nonce := String.toList_inj.1 hfirst
  have htimestamps : timestamp = timestamp' := String.toList_inj.1 hsecond
  -- the body is compared as octets, which the characters do not determine
  rw [responseText, responseText, hnonces, htimestamps] at h
  exact ⟨hnonces, htimestamps, List.append_cancel_left h⟩

/-! ## Nonces that hold no timestamp -/

/-- The lines of a text that begin after a line break. -/
def laterLines (s : String) : List (List Char) := (Text.pieces (· == '\n') s.toList).tail

theorem mem_laterLines {s : String} {front back line : List Char}
    (hs : s.toList = front ++ '\n' :: back) (hline : line ∈ Text.pieces (· == '\n') back) :
    line ∈ laterLines s := by
  rw [laterLines, hs, Text.pieces_append (by simp),
    List.tail_append_of_ne_nil (Text.pieces_ne_nil _ _)]
  exact List.mem_append_right _ hline

/-- A line is found again before the first line break. -/
theorem mem_pieces_of_append_cons_eq {line front back back' : List Char} (hline : '\n' ∉ line)
    (h : line ++ '\n' :: back = front ++ '\n' :: back') :
    line ∈ Text.pieces (· == '\n') front := by
  have halone : Text.pieces (· == '\n') line = [line] := by
    refine Text.pieces_of_not_isSep fun c hc => ?_
    rw [beq_eq_false_iff_ne]
    rintro rfl
    exact hline hc
  rcases Text.append_cons_cases h with ⟨rfl, -⟩ | ⟨middle, rfl, -⟩ | ⟨middle, rfl, -⟩
  · simp [halone]
  · simp [Text.pieces_append, halone]
  · exact absurd (by simp) hline

/-- A timestamp that is a line of its own, under a nonce none of whose lines but the first could be
taken for a timestamp. -/
structure Delimited (nonce timestamp : String) : Prop where
  readable : ∃ n, Timestamp.readText timestamp = .ok n
  line : '\n' ∉ timestamp.toList
  nonce : ∀ line ∈ laterLines nonce, ∀ n, Timestamp.readText (String.ofList line) ≠ .ok n

/-- The one nonce does not begin with the other one and the timestamp after it. -/
theorem Delimited.not_append (h : Delimited nonce timestamp) (h' : Delimited nonce' timestamp')
    {middle back back' : List Char} (hnonce : nonce'.toList = nonce.toList ++ '\n' :: middle)
    (hrest : timestamp.toList ++ '\n' :: back = middle ++ '\n' :: back') : False := by
  obtain ⟨n, hread⟩ := h.readable
  have hlater : timestamp.toList ∈ laterLines nonce' :=
    mem_laterLines hnonce (mem_pieces_of_append_cons_eq h.line hrest)
  refine h'.nonce _ hlater n ?_
  rwa [String.ofList_toList]

/-- So the nonces end at the same line break. -/
theorem Delimited.lineBreaks_eq (h : Delimited a.nonce timestamp)
    (h' : Delimited a'.nonce timestamp')
    (heq : responseText r a timestamp = responseText r' a' timestamp') :
    lineBreaks a.nonce = lineBreaks a'.nonce := by
  have hread := congrArg Utf8.decodeLossy heq
  rw [decodeLossy_responseText, decodeLossy_responseText] at hread
  rcases Text.append_cons_cases hread with ⟨hsame, -⟩ | ⟨middle, hnonce, hrest⟩ |
    ⟨middle, hnonce, hrest⟩
  · rw [lineBreaks, lineBreaks, hsame]
  · exact (h.not_append h' hnonce hrest).elim
  · exact (h'.not_append h hnonce hrest).elim

/-- **The signed text of a response binds nonce, timestamp and body**, where the timestamp is a
line of its own and the nonce has no line but the first that could be taken for one.  Without these
conditions it binds them among all nonces with the same number of line breaks and all timestamps
with the same number of line breaks, and no further. -/
theorem responseText_binds (r r' : Response) (a a' : Authorization)
    (timestamp timestamp' : String) :
    (Delimited a.nonce timestamp → Delimited a'.nonce timestamp' →
      (responseText r a timestamp = responseText r' a' timestamp' ↔
        SameReply r a timestamp r' a' timestamp')) ∧
    (responseText r a timestamp = responseText r' a' timestamp' →
      (SameReply r a timestamp r' a' timestamp' ↔
        lineBreaks a.nonce = lineBreaks a'.nonce ∧
          lineBreaks timestamp = lineBreaks timestamp')) := by
  refine ⟨fun h h' => ⟨fun heq => ?_, SameReply.responseText_eq⟩, fun heq => ⟨fun hsame => ?_, ?_⟩⟩
  · have hline : lineBreaks timestamp = lineBreaks timestamp' := by
      rw [lineBreaks, lineBreaks, List.count_eq_zero_of_not_mem h.line,
        List.count_eq_zero_of_not_mem h'.line]
    exact sameReply_of_lineBreaks_eq heq (h.lineBreaks_eq h' heq) hline
  · rw [hsame.nonce, hsame.timestamp]
    exact ⟨rfl, rfl⟩
  · rintro ⟨hnonce, htimestamp⟩
    exact sameReply_of_lineBreaks_eq heq hnonce htimestamp

/-! A nonce of two lines, the second of which is no timestamp. -/

def twoLineAuthorization : Authorization where
  id := "a"
  realm := ""
  nonce := "first\n2nd"
  version := "2.0"
  headers := []
  signature := "QQ=="

/-- The body begins with a line break and is no UTF-8. -/
def twoLineResponse : Response := ⟨200, .empty, [10, 255]⟩

theorem twoLine_delimited : Delimited twoLineAuthorization.nonce " 00042" where
  readable := ⟨42, by rfl⟩
  line := by decide
  nonce := by
    have hlater : laterLines twoLineAuthorization.nonce = ["2nd".toList] := by decide
    have hread : Timestamp.readText (String.ofList "2nd".toList) = .error _ := rfl
    rw [hlater]
    refine List.forall_mem_singleton.2 fun n => ?_
    rw [hread]
    exact nofun

theorem twoLine_binds :
    Delimited twoLineAuthorization.nonce " 00042" ∧
    (responseText twoLineResponse twoLineAuthorization " 00042" =
        responseText { twoLineResponse with status := 404 }
          { twoLineAuthorization with id := "b" } " 00042" ↔
      SameReply twoLineResponse twoLineAuthorization " 00042"
        { twoLineResponse with status := 404 } { twoLineAuthorization with id := "b" } " 00042") ∧
    responseText twoLineResponse twoLineAuthorization " 00042" =
      responseText { twoLineResponse with status := 404 }
        { twoLineAuthorization with id := "b" } " 00042" ∧
    SameReply twoLineResponse twoLineAuthorization " 00042"
      { twoLineResponse with status := 404 } { twoLineAuthorization with id := "b" } " 00042" := by
  obtain ⟨hdelimited, hbreaks⟩ := responseText_binds twoLineResponse
    { twoLineResponse with status := 404 } twoLineAuthorization
    { twoLineAuthorization with id := "b" } " 00042" " 00042"
  exact ⟨twoLine_delimited, hdelimited twoLine_delimited twoLine_delimited, rfl,
    (hbreaks rfl).2 ⟨rfl, rfl⟩⟩

/-- The line break after a nonce cannot be told from one within a nonce. -/
theorem not_forall_responseText_binds :
    ¬∀ (s s' : CurrentScheme) (header header' : String) (a a' : Authorization)
      (timestamp timestamp' : String) (r r' : Response),
      s.parse header = .ok a → s'.parse header' = .ok a' →
        (∃ n, Timestamp.readText timestamp = .ok n) →
          (∃ n, Timestamp.readText timestamp' = .ok n) →
            responseText r a timestamp = responseText r' a' timestamp' →
              a.nonce = a'.nonce ∧ timestamp = timestamp' ∧ r.body = r'.body := by
  intro hall
  have hbound := hall ⟨.sha256, []⟩ ⟨.sha256, []⟩
    "acquia-http-hmac id=\"a\",nonce=\"n\",signature=\"QQ==\",version=\"2.0\""
    "acquia-http-hmac id=\"a\",nonce=\"n%0A1\",signature=\"QQ==\",version=\"2.0\""
    ⟨"a", "", "n", "2.0", [], "QQ=="⟩ ⟨"a", "", "n\n1", "2.0", [], "QQ=="⟩ "1" "2"
    ⟨200, .empty, [50, 10, 120]⟩ ⟨200, .empty, [120]⟩ (parse_eq_ok_iff.2 (by decide))
    (parse_eq_ok_iff.2 (by decide)) ⟨1, by rfl⟩ ⟨2, by rfl⟩ (by decide)
  exact absurd hbound.1 (by decide)

end CurrentScheme
end SignedHttp
