import SignedHttp.Proofs.Checks
import SignedHttp.Proofs.Text
import SignedHttp.Raw.Points

/-!
# Which raw texts can be written

UTF-8 has a form for exactly the texts without lone surrogates (`Points.exists_chars_iff`), and these
are the texts that come from strings (`Points.isText_iff`).  Any other text fails at its first stretch
of surrogates (`Points.exists_stretch_of_chars`).  A change between surrogates leaves them where they
are, so that the changed text can be written when the text itself can (`Points.isText_mapRuns`); on
strings it is the change that it is made from (`Points.mapRuns_ofChars`).  Joined texts can be written
when each of them can (`Points.isText_join`).
-/

set_option autoImplicit false

namespace SignedHttp
namespace Points

variable {s t : Points} {cs : List Char}

/-! ## Texts without lone surrogates -/

theorem isText_nil : IsText [] := List.forall_mem_nil _

theorem isText_cons {p : Point} : IsText (p :: t) ↔ p.isScalar = true ∧ IsText t :=
  List.forall_mem_cons

theorem isText_cons_scalar {c : Char} : IsText (.scalar c :: t) ↔ IsText t :=
  isText_cons.trans (and_iff_right rfl)

theorem isText_append : IsText (s ++ t) ↔ IsText s ∧ IsText t := List.forall_mem_append

theorem isText_ofChars (cs : List Char) : IsText (ofChars cs) :=
  List.forall_mem_map.2 fun _ _ => rfl

theorem isText_ofString (s : String) : IsText (ofString s) := isText_ofChars s.toList

theorem ofChars_inj {cs ds : List Char} : ofChars cs = ofChars ds ↔ cs = ds :=
  List.map_inj_right fun _ _ h => Point.scalar.inj h

theorem ofString_inj {a b : String} : ofString a = ofString b ↔ a = b :=
  ofChars_inj.trans String.toList_inj

theorem ofChars_append (cs ds : List Char) : ofChars (cs ++ ds) = ofChars cs ++ ofChars ds :=
  List.map_append

theorem ofString_append (a b : String) : ofString (a ++ b) = ofString a ++ ofString b := by
  rw [ofString, String.toList_append, ofChars_append, ofString, ofString]

theorem isEmpty_ofString (s : String) : (ofString s).isEmpty = s.isEmpty := by
  rw [ofString, ofChars, List.isEmpty_map, Bool.eq_iff_iff, List.isEmpty_iff, String.isEmpty_iff]
  exact String.toList_eq_nil_iff

/-! ## Writing -/

theorem chars_ofChars (cs : List Char) : chars (ofChars cs) = .ok cs := by
  induction cs with
  | nil => rfl
  | cons c cs ih =>
    rw [ofChars, List.map_cons, chars, ← ofChars, ih]

theorem eq_ofChars_of_chars (h : chars t = .ok cs) : t = ofChars cs := by
  induction t generalizing cs with
  | nil =>
    obtain rfl := Except.ok.inj h
    rfl
  | cons p t ih =>
    cases p with
    | surrogate s => exact absurd h (by simp [chars])
    | scalar c =>
      rw [chars] at h
      split at h
      · next rest hrest =>
        obtain rfl := Except.ok.inj h
        rw [ih hrest]
        rfl
      · exact absurd h (by simp)

/-- **The texts without lone surrogates are those that can be written.** -/
theorem exists_chars_iff : (∃ cs, chars t = .ok cs) ↔ IsText t := by
  constructor
  · rintro ⟨cs, hcs⟩
    rw [eq_ofChars_of_chars hcs]
    exact isText_ofChars cs
  · intro h
    induction t with
    | nil => exact ⟨[], rfl⟩
    | cons p t ih =>
      obtain ⟨hp, ht⟩ := isText_cons.1 h
      obtain ⟨cs, hcs⟩ := ih ht
      cases p with
      | surrogate s => exact absurd hp Bool.false_ne_true
      | scalar c => exact ⟨c :: cs, by rw [chars, hcs]⟩

/-- **A text that cannot be written fails at its first stretch of surrogates**: everything before it
is written, and what follows it, if anything, is a character. -/
theorem exists_stretch_of_chars {e : EncodeError} (h : chars t = .error e) :
    ∃ cs run rest, t = ofChars cs ++ .surrogate e.first :: (run ++ rest) ∧ cs.length = e.start ∧
      run.length = e.further ∧ (∀ p ∈ run, p.isScalar = false) ∧
      ∀ p ∈ rest.head?, p.isScalar = true := by
  induction t generalizing e with
  | nil => exact absurd h (by simp [chars])
  | cons p t ih =>
    cases p with
    | surrogate s =>
      obtain rfl := Except.error.inj h
      refine ⟨[], t.takeWhile (!·.isScalar), t.dropWhile (!·.isScalar), ?_, rfl, rfl, ?_, ?_⟩
      · rw [List.takeWhile_append_dropWhile]
        rfl
      · intro p hp
        simpa using List.all_eq_true.1 List.all_takeWhile p hp
      · intro p hp
        have hhead := List.head?_dropWhile_not (!·.isScalar) t
        rw [Option.mem_def.1 hp] at hhead
        simpa using hhead
    | scalar c =>
      rw [chars] at h
      split at h
      · exact absurd h (by simp)
      · next e' he' =>
        obtain rfl := Except.error.inj h
        obtain ⟨cs, run, rest, rfl, hstart, hrest⟩ := ih he'
        exact ⟨c :: cs, run, rest, rfl, congrArg (· + 1) hstart, hrest⟩

theorem isText_iff : IsText t ↔ ∃ s, t = ofString s := by
  rw [← exists_chars_iff]
  constructor
  · rintro ⟨cs, hcs⟩
    exact ⟨String.ofList cs, by rw [ofString, String.toList_ofList, eq_ofChars_of_chars hcs]⟩
  · rintro ⟨s, rfl⟩
    exact ⟨s.toList, chars_ofChars s.toList⟩

theorem encode_ofString (s : String) : encode (ofString s) = .ok (Utf8.encode s) := by
  rw [encode, ofString, chars_ofChars]
  rfl

theorem quote_ofString (s : String) : quote (ofString s) = .ok (Percent.encode s) := by
  rw [quote, ofString, chars_ofChars]
  rfl

theorem text?_ofString (s : String) : text? (ofString s) = some s := by
  rw [text?, ofString, chars_ofChars]
  exact congrArg some String.ofList_toList

theorem exists_encode_iff : (∃ octets, encode t = .ok octets) ↔ IsText t := by
  simp only [encode, map_eq_ok_iff, exists_comm (α := Octets), exists_and_left, exists_eq', and_true,
    exists_chars_iff]

theorem exists_quote_iff : (∃ s, quote t = .ok s) ↔ IsText t := by
  simp only [quote, map_eq_ok_iff, exists_comm (α := String), exists_and_left, exists_eq', and_true,
    exists_chars_iff]

theorem not_isText_of_encode {e : EncodeError} (h : encode t = .error e) : ¬IsText t := by
  intro htext
  obtain ⟨octets, hoctets⟩ := exists_encode_iff.2 htext
  exact absurd (h.symm.trans hoctets) (by simp)

theorem ne_ofString_of_not_isText (h : ¬IsText t) (s : String) : t ≠ ofString s :=
  fun hs => h (hs ▸ isText_ofString s)

/-! ## Changes between surrogates -/

theorem mapRunsFrom_ofChars (f : List Char → List Char) (run cs : List Char) :
    mapRunsFrom f run (ofChars cs) = ofChars (f (run.reverse ++ cs)) := by
  induction cs generalizing run with
  | nil => rw [List.append_nil]; rfl
  | cons c cs ih =>
    rw [ofChars, List.map_cons, mapRunsFrom, ← ofChars, ih, List.reverse_cons, List.append_assoc,
      List.singleton_append]

/-- Where there are no surrogates there is one stretch. -/
theorem mapRuns_ofChars (f : List Char → List Char) (cs : List Char) :
    mapRuns f (ofChars cs) = ofChars (f cs) :=
  mapRunsFrom_ofChars f [] cs

theorem isText_mapRunsFrom {f : List Char → List Char} {run : List Char} :
    IsText (mapRunsFrom f run t) ↔ IsText t := by
  induction t generalizing run with
  | nil => exact iff_of_true (isText_ofChars _) isText_nil
  | cons p t ih =>
    cases p with
    | scalar c => rw [mapRunsFrom, ih, isText_cons_scalar]
    | surrogate s => simp [mapRunsFrom, isText_append, isText_cons, Point.isScalar]

/-- **The surrogates stay.** -/
theorem isText_mapRuns {f : List Char → List Char} : IsText (mapRuns f t) ↔ IsText t :=
  isText_mapRunsFrom

theorem isText_lower : IsText (lower t) ↔ IsText t := isText_mapRuns

theorem isText_upper : IsText (upper t) ↔ IsText t := isText_mapRuns

theorem isText_decodeForm : IsText (decodeForm t) ↔ IsText t := isText_mapRuns

theorem lower_ofString (s : String) : lower (ofString s) = ofString (Text.lower s) := by
  rw [lower, ofString, mapRuns_ofChars, Text.lower, ofString, String.toList_ofList]

theorem upper_ofString (s : String) : upper (ofString s) = ofString (Text.upper s) := by
  rw [upper, ofString, mapRuns_ofChars, Text.upper, ofString, String.toList_ofList]

/-! ## Joining -/

theorem isText_join {sep : String} {parts : List Points} :
    IsText (join sep parts) ↔ ∀ part ∈ parts, IsText part := by
  constructor
  · intro h part hpart p hp
    exact h p ((Text.isInfix_intercalate hpart).subset hp)
  · intro h p hp
    rcases Text.mem_intercalate hp with hp | ⟨part, hpart, hp⟩
    · exact isText_ofString sep p hp
    · exact h part hpart p hp

theorem join_ofString (sep : String) (parts : List String) :
    join sep (parts.map ofString) = ofString (sep.intercalate parts) := by
  have hparts : parts.map ofString = (parts.map String.toList).map ofChars := by
    rw [List.map_map]
    rfl
  show (ofChars sep.toList).intercalate (parts.map ofString) =
    ofChars (sep.intercalate parts).toList
  rw [String.toList_intercalate, hparts]
  exact (Text.map_intercalate Point.scalar sep.toList _).symm

end Points
end SignedHttp
