import Mathlib.Data.List.DropRight
import SignedHttp.Scheme.Fields
import SignedHttp.Proofs.Percent
import SignedHttp.Proofs.Text

/-!
# Scanning quoted fields

`Fields.scan` is a machine that reads one character at a time, so what it finds in a text is told
by what it does along each part of a field: a gap, a name, a value.

* `Fields.scanFrom_written` and `Fields.scan_row`: fields that were written are found again, in
  their order, whatever follows them and whatever they are set in.
* `Fields.scanFrom_append_after`: what follows a text is scanned from where the text has led.  So
  nothing is found behind the last quote (`Fields.scanFrom_append`), and behind the quote that
  closes a field everything is found that would be found alone (`Fields.EndsClosed.scan_append`).
* `Fields.scan_written`: whatever the name of a field is, it is found under the last word of it.
* `Fields.mem_candidates`: a value is always a whole stretch between two quotes.  No
  text that is smuggled into a value can therefore give a value that reaches beyond a quote.
* `Fields.lastD_present`: looking up a name among the fields of a list that are not blank gives the
  decoded value that the list has for it, blank or not.
-/

set_option autoImplicit false

namespace SignedHttp
namespace Fields

/-! ## One field -/

/-- A field that is scanned as what it was written from. -/
structure Writable (f : List Char × List Char) : Prop where
  /-- The name is not blank. -/
  name_ne : f.1 ≠ []
  /-- The name has only the characters of names. -/
  isNameChar : ∀ c ∈ f.1, isNameChar c = true
  /-- The value does not close itself. -/
  quote : '"' ∉ f.2

instance (f : List Char × List Char) : Decidable (Writable f) :=
  decidable_of_iff (f.1 ≠ [] ∧ f.1.all Fields.isNameChar = true ∧ '"' ∉ f.2)
    ⟨fun h => ⟨h.1, List.all_eq_true.1 h.2.1, h.2.2⟩,
      fun h => ⟨h.name_ne, List.all_eq_true.2 h.isNameChar, h.quote⟩⟩

/-- The characters of a field. -/
def written (f : List Char × List Char) : List Char := f.1 ++ '=' :: '"' :: (f.2 ++ ['"'])

theorem getLast?_written (f : List Char × List Char) : (written f).getLast? = some '"' := by
  rw [written, ← List.cons_append, ← List.cons_append, ← List.append_assoc, List.getLast?_concat]

theorem toList_render (name value : String) :
    (render name value).toList = written (name.toList, value.toList) := by
  rw [render, String.toList_append, String.toList_append, String.toList_append, List.append_assoc,
    List.append_assoc]
  rfl

/-- Outside of fields, everything but the characters of names is passed over. -/
theorem scanFrom_gap {gap : List Char} (hgap : ∀ c ∈ gap, isNameChar c = false)
    (rest : List Char) : scanFrom (.name []) (gap ++ rest) = scanFrom (.name []) rest := by
  induction gap with
  | nil => rfl
  | cons c gap ih =>
    rw [List.cons_append, scanFrom, if_neg (by simp [hgap c List.mem_cons_self]),
      if_neg (by simp), ih fun d hd => hgap d (List.mem_cons_of_mem c hd)]

/-- No name is made of blanks. -/
theorem isNameChar_of_isBlank {c : Char} (h : Text.isBlank c = true) : isNameChar c = false := by
  rw [isNameChar, Bool.or_eq_false_iff, Bool.eq_false_iff, beq_eq_false_iff_ne]
  constructor
  · intro halpha
    have halnum : c.isAlphanum = true := by rw [Char.isAlphanum, halpha, Bool.true_or]
    exact absurd h (by simp [Text.isBlank_of_isAlphanum halnum])
  · rintro rfl
    exact absurd h (by decide)

theorem scanFrom_name {name : List Char} (hname : ∀ c ∈ name, isNameChar c = true)
    (read rest : List Char) :
    scanFrom (.name read) (name ++ rest) = scanFrom (.name (name.reverse ++ read)) rest := by
  induction name generalizing read with
  | nil => rfl
  | cons c name ih =>
    rw [List.cons_append, scanFrom, if_pos (hname c List.mem_cons_self),
      ih fun d hd => hname d (List.mem_cons_of_mem c hd)]
    rw [List.reverse_cons, List.append_assoc, List.singleton_append]

/-- Up to its opening quote, a field is read as its name. -/
theorem scanFrom_open {name : List Char} (hne : name ≠ [])
    (hname : ∀ c ∈ name, isNameChar c = true) (rest : List Char) :
    scanFrom (.name []) (name ++ '=' :: '"' :: rest) = scanFrom (.value name []) rest := by
  rw [scanFrom_name hname, List.append_nil, scanFrom, if_neg (by decide),
    if_pos (by simpa using hne), List.reverse_reverse, scanFrom, if_pos rfl]

/-- From its opening quote on, it is read up to the next one. -/
theorem scanFrom_close {value : List Char} (hvalue : '"' ∉ value) (name read rest : List Char) :
    scanFrom (.value name read) (value ++ '"' :: rest) =
      (name, read.reverse ++ value) :: scanFrom (.name []) rest := by
  induction value generalizing read with
  | nil => rw [List.nil_append, scanFrom, if_pos rfl, List.append_nil]
  | cons c value ih =>
    rw [List.mem_cons, not_or] at hvalue
    rw [List.cons_append, scanFrom, if_neg (Ne.symm hvalue.1), ih hvalue.2, List.reverse_cons,
      List.append_assoc, List.singleton_append]

/-- **A field is found where it was written**, whatever follows. -/
theorem scanFrom_written {f : List Char × List Char} (hf : Writable f) (rest : List Char) :
    scanFrom (.name []) (written f ++ rest) = f :: scanFrom (.name []) rest := by
  rw [written, List.append_assoc, List.cons_append, List.cons_append, List.append_assoc,
    scanFrom_open hf.name_ne hf.isNameChar, List.singleton_append, scanFrom_close hf.quote,
    List.reverse_nil, List.nil_append]

/-! ## Fields in a row -/

theorem scanFrom_comma (rest : List Char) :
    scanFrom (.name []) (',' :: rest) = scanFrom (.name []) rest :=
  scanFrom_gap (List.forall_mem_singleton.2 (by decide)) rest

/-- Fields, each with a comma after it, are found again before whatever follows them. -/
theorem scanFrom_flatMap {fs : List (List Char × List Char)} (hfs : ∀ f ∈ fs, Writable f)
    (rest : List Char) :
    scanFrom (.name []) (fs.flatMap (fun f => written f ++ [',']) ++ rest) =
      fs ++ scanFrom (.name []) rest := by
  induction fs with
  | nil => rfl
  | cons f fs ih =>
    rw [List.flatMap_cons, List.append_assoc, List.append_assoc,
      scanFrom_written (hfs f List.mem_cons_self), List.singleton_append, scanFrom_comma,
      ih fun g hg => hfs g (List.mem_cons_of_mem f hg), List.cons_append]

/-- A field in a row, with what stands around it. -/
structure Cell where
  before : List Char
  field : List Char × List Char
  after : List Char

def Cell.written (c : Cell) : List Char := c.before ++ Fields.written c.field ++ c.after

/-- Around the field stands nothing that a name could be made of, such as spaces. -/
structure Cell.Writable (c : Cell) : Prop where
  before : ∀ x ∈ c.before, Fields.isNameChar x = false
  field : Fields.Writable c.field
  after : ∀ x ∈ c.after, Fields.isNameChar x = false

instance (c : Cell) : Decidable c.Writable :=
  decidable_of_iff (Fields.Writable c.field ∧
      (c.before ++ c.after).all (fun x => Fields.isNameChar x == false) = true) <| by
    simp only [List.all_eq_true, beq_iff_eq, List.forall_mem_append]
    exact ⟨fun h => ⟨h.2.1, h.1, h.2.2⟩, fun h => ⟨h.field, h.before, h.after⟩⟩

theorem scanFrom_cell {c : Cell} (hc : c.Writable) (rest : List Char) :
    scanFrom (.name []) (c.written ++ rest) = c.field :: scanFrom (.name []) rest := by
  rw [Cell.written, List.append_assoc, List.append_assoc, scanFrom_gap hc.before,
    scanFrom_written hc.field, scanFrom_gap hc.after]

/-- **Fields that commas separate are found again**, in whatever they are set. -/
theorem scan_row {cells : List Cell} (h : ∀ c ∈ cells, c.Writable) :
    scan ([','].intercalate (cells.map Cell.written)) = cells.map Cell.field := by
  rw [scan]
  induction cells with
  | nil => rfl
  | cons c cells ih =>
    have hc := scanFrom_cell (h c List.mem_cons_self)
    cases cells with
    | nil =>
      rw [List.map_singleton, List.intercalate_singleton, ← List.append_nil c.written, hc]
      rfl
    | cons d cells =>
      rw [List.map_cons, List.map_cons, List.intercalate_cons_cons, List.append_assoc, hc,
        List.singleton_append, scanFrom_comma, ← List.map_cons,
        ih fun e he => h e (List.mem_cons_of_mem c he), ← List.map_cons]

theorem scan_intercalate {fs : List (List Char × List Char)} (hfs : ∀ f ∈ fs, Writable f) :
    scan ([','].intercalate (fs.map written)) = fs := by
  have hcells : ∀ c ∈ fs.map (Cell.mk [] · []), c.Writable :=
    List.forall_mem_map.2 fun f hf => ⟨by simp, hfs f hf, by simp⟩
  have hwritten : Cell.written ∘ (Cell.mk [] · []) = written := funext fun f => List.append_nil _
  have hfield : Cell.field ∘ (Cell.mk [] · []) = id := rfl
  have h := scan_row hcells
  rwa [List.map_map, List.map_map, hwritten, hfield, List.map_id] at h

/-! ## Reading on

What a text adds to the fields depends on the progress that was made before it, and on nothing
else. -/

/-- The progress after one more character. -/
def advance : Progress → Char → Progress
  | .name read, c =>
    if isNameChar c then .name (c :: read)
    else if c = '=' && !read.isEmpty then .equals read.reverse
    else .name []
  | .equals name, c => if c = '"' then .value name [] else restart c
  | .value name read, c => if c = '"' then .name [] else .value name (c :: read)

/-- The field that a character closes. -/
def closes? : Progress → Char → Option (List Char × List Char)
  | .name _, _ | .equals _, _ => none
  | .value name read, c => if c = '"' then some (name, read.reverse) else none

/-- The progress after a text. -/
def after (progress : Progress) (cs : List Char) : Progress := cs.foldl advance progress

theorem scanFrom_cons (progress : Progress) (c : Char) (cs : List Char) :
    scanFrom progress (c :: cs) =
      (closes? progress c).toList ++ scanFrom (advance progress c) cs := by
  cases progress with
  | name read =>
    rw [scanFrom, advance, closes?]
    split
    · rfl
    · split <;> rfl
  | equals name =>
    rw [scanFrom, advance, closes?]
    split <;> rfl
  | value name read =>
    rw [scanFrom, advance, closes?]
    split <;> rfl

/-- **A text is read on from where the text before it has led.** -/
theorem scanFrom_append_after (progress : Progress) (front back : List Char) :
    scanFrom progress (front ++ back) =
      scanFrom progress front ++ scanFrom (after progress front) back := by
  induction front generalizing progress with
  | nil => cases progress <;> rfl
  | cons c front ih =>
    rw [List.cons_append, scanFrom_cons, ih, scanFrom_cons progress c front, List.append_assoc]
    rfl

/-! ## The last quote -/

theorem scanFrom_of_not_mem {cs : List Char} (h : '"' ∉ cs) (progress : Progress) :
    scanFrom progress cs = [] := by
  induction cs generalizing progress with
  | nil => cases progress <;> rfl
  | cons c cs ih =>
    rw [List.mem_cons, not_or] at h
    cases progress <;> simp only [scanFrom, ih h.2, if_neg (Ne.symm h.1), ite_self]

/-- **Nothing is found behind the last quote.** -/
theorem scanFrom_append {back : List Char} (h : '"' ∉ back) (progress : Progress)
    (front : List Char) : scanFrom progress (front ++ back) = scanFrom progress front := by
  rw [scanFrom_append_after, scanFrom_of_not_mem h, List.append_nil]

/-- The text ends with the quote that closes its last field: without it, that field would be
missing. -/
def EndsClosed (cs : List Char) : Prop :=
  ∃ front f, cs = front ++ ['"'] ∧ scan cs = scan front ++ [f]

/-- Then reading starts afresh behind it. -/
theorem EndsClosed.after_eq {cs : List Char} (h : EndsClosed cs) :
    after (.name []) cs = .name [] := by
  obtain ⟨front, f, rfl, hscan⟩ := h
  rw [scan, scan, scanFrom_append_after, List.append_cancel_left_eq] at hscan
  have hafter : after (.name []) (front ++ ['"']) = advance (after (.name []) front) '"' := by
    rw [after, List.foldl_append]
    rfl
  rw [hafter]
  -- only inside a value is there a field for the quote to close
  cases hprogress : after (.name []) front with
  | name read =>
    rw [hprogress] at hscan
    simp [scanFrom, isNameChar] at hscan
  | equals name =>
    rw [hprogress] at hscan
    simp [scanFrom] at hscan
  | value name read => rfl

theorem EndsClosed.scan_append {cs : List Char} (h : EndsClosed cs) (rest : List Char) :
    scan (cs ++ rest) = scan cs ++ scan rest := by
  rw [scan, scanFrom_append_after, h.after_eq, scan, scan]

/-! ## Names of any kind

In front of a value only the last word counts as its name, whatever else stands before it. -/

/-- The word at the end of a text. -/
def lastWord (cs : List Char) : List Char := cs.rtakeWhile isNameChar

/-- Up to an equals sign, the reader keeps the word that it is in. -/
theorem scanFrom_word {cs : List Char} (h : '=' ∉ cs) {read : List Char}
    (hread : ∀ c ∈ read, isNameChar c = true) (rest : List Char) :
    scanFrom (.name read) (cs ++ rest) =
      scanFrom (.name ((cs.reverse ++ read).takeWhile isNameChar)) rest := by
  induction cs generalizing read with
  | nil =>
    rw [List.nil_append, List.reverse_nil, List.nil_append, List.takeWhile_eq_self_iff.2 hread]
  | cons c cs ih =>
    rw [List.mem_cons, not_or] at h
    rw [List.cons_append, scanFrom, List.reverse_cons, List.append_assoc, List.singleton_append]
    by_cases hc : isNameChar c = true
    · rw [if_pos hc, ih h.2 (List.forall_mem_cons.2 ⟨hc, hread⟩)]
    · have hstop : (cs.reverse ++ c :: read).takeWhile isNameChar =
          (cs.reverse ++ []).takeWhile isNameChar := by
        rw [List.takeWhile_append, List.takeWhile_append, List.takeWhile_cons_of_neg hc,
          List.takeWhile_nil]
      rw [if_neg hc, if_neg (by simp [Ne.symm h.1]), ih h.2 (by simp), hstop]

/-- A single quote closes nothing. -/
theorem scanFrom_lone_quote {cs : List Char} (h : '"' ∉ cs) {progress : Progress}
    (hopen : ∀ name read, progress ≠ .value name read) : scanFrom progress (cs ++ ['"']) = [] := by
  induction cs generalizing progress with
  | nil =>
    cases progress with
    | name read => simp [scanFrom, isNameChar]
    | equals name => rfl
    | value name read => exact absurd rfl (hopen name read)
  | cons c cs ih =>
    rw [List.mem_cons, not_or] at h
    cases progress with
    | name read =>
      rw [List.cons_append, scanFrom, ih h.2 (by simp), ih h.2 (by simp), ih h.2 (by simp),
        ite_self, ite_self]
    | equals name =>
      rw [List.cons_append, scanFrom, if_neg (Ne.symm h.1), ih h.2 (by simp [restart])]
    | value name read => exact absurd rfl (hopen name read)

/-- **A field is found under the last word of its name**, and not at all if the name does not end
with a word. -/
theorem scan_written {f : List Char × List Char} (hname : '=' ∉ f.1) (hvalue : '"' ∉ f.2) :
    scan (written f) = if lastWord f.1 = [] then [] else [(lastWord f.1, f.2)] := by
  have hword : (f.1.reverse ++ []).takeWhile isNameChar = (lastWord f.1).reverse := by
    rw [lastWord, List.rtakeWhile, List.reverse_reverse, List.append_nil]
  rw [scan, written, scanFrom_word hname (by simp), hword]
  by_cases hempty : lastWord f.1 = []
  · rw [if_pos hempty, hempty]
    have hgap : ∀ c ∈ ['=', '"'], isNameChar c = false := by simp [isNameChar]
    exact (scanFrom_gap hgap _).trans (scanFrom_lone_quote hvalue (by simp))
  · rw [if_neg hempty, scanFrom, if_neg (by decide), if_pos (by simpa using hempty),
      List.reverse_reverse, scanFrom, if_pos rfl, scanFrom_close hvalue]
    rfl

/-! ## Values and quotes -/

/-- The stretches between the quotes of a text. -/
def stretches (cs : List Char) : List (List Char) := Text.pieces (· == '"') cs

/-- The stretches that can still become values.  Outside of a value the first one is lost, because
no quote has opened it. -/
def candidates : Progress → List Char → List (List Char)
  | .name _, cs => (stretches cs).tail
  | .equals _, cs => (stretches cs).tail
  | .value _ read, cs => stretches (read.reverse ++ cs)

theorem stretches_append (front back : List Char) :
    stretches (front ++ '"' :: back) = stretches front ++ stretches back :=
  Text.pieces_append (by decide) front back

theorem stretches_of_not_mem {cs : List Char} (h : '"' ∉ cs) : stretches cs = [cs] := by
  refine Text.pieces_of_not_isSep fun c hc => ?_
  rw [beq_eq_false_iff_ne]
  rintro rfl
  exact h hc

theorem mem_tail_stretches_cons {cs v : List Char} (c : Char) (h : v ∈ (stretches cs).tail) :
    v ∈ (stretches (c :: cs)).tail := by
  rw [stretches, Text.pieces]
  split
  · exact List.mem_of_mem_tail h
  · cases hp : Text.pieces (· == '"') cs with
    | nil => exact absurd hp (Text.pieces_ne_nil _ cs)
    | cons first others => rwa [stretches, hp] at h

/-- A character that ends a field lets a value begin later at the earliest. -/
theorem mem_tail_of_mem_restart {c : Char} {cs v : List Char}
    (h : v ∈ candidates (restart c) cs) : v ∈ (stretches (c :: cs)).tail :=
  mem_tail_stretches_cons c h

/-- **Every value is a whole stretch between two quotes.**  While a value is open, what has been
read of it has no quote. -/
theorem mem_candidates {progress : Progress} {cs : List Char} {f : List Char × List Char}
    (hopen : ∀ name read, progress = .value name read → '"' ∉ read)
    (h : f ∈ scanFrom progress cs) : f.2 ∈ candidates progress cs := by
  induction cs generalizing progress with
  | nil => cases progress <;> simp [scanFrom] at h
  | cons c cs ih =>
    cases progress with
    | name read =>
      refine mem_tail_stretches_cons c ?_
      rw [scanFrom] at h
      split at h
      · exact ih (by simp) h
      · split at h
        · exact ih (by simp) h
        · exact ih (by simp) h
    | equals name =>
      rw [scanFrom] at h
      split at h
      · next hc =>
        have hv := ih (by simp) h
        rw [candidates, hc, stretches, Text.pieces, if_pos (by decide)]
        exact hv
      · exact mem_tail_of_mem_restart (ih (by simp [restart]) h)
    | value name read =>
      have hread : '"' ∉ read := hopen name read rfl
      rw [scanFrom] at h
      split at h
      · next hc =>
        rw [candidates, hc, stretches_append, stretches_of_not_mem (by simpa using hread)]
        rcases List.mem_cons.1 h with rfl | h
        · exact List.mem_append_left _ List.mem_cons_self
        · exact List.mem_append_right _ (List.mem_of_mem_tail (ih (by simp) h))
      · next hc =>
        have hv := @ih (.value name (c :: read)) (by grind) h
        rwa [candidates, List.reverse_cons, List.append_assoc] at hv

/-! ## Looking a field up -/

/-- A name and its value as the scanner would give them. -/
def ofPair (p : String × String) : List Char × List Char := (p.1.toList, p.2.toList)

/-- The name that a field is looked up by. -/
def key (f : List Char × List Char) : String := String.ofList (Text.lowerList f.1)

theorem last?_cons (f : List Char × List Char) (fs : List (List Char × List Char))
    (name : String) :
    last? (f :: fs) name = (last? fs name).or
      (if key f = name then some (String.ofList (Percent.decodeList f.2)) else none) := by
  rw [last?, last?, List.map_cons, List.reverse_cons, List.find?_append, Option.map_or]
  congr 1
  by_cases h : key f = name
  · rw [if_pos h, List.find?_cons_of_pos (by simpa [key] using h)]
    rfl
  · rw [if_neg h, List.find?_cons_of_neg (by simpa [key] using h)]
    rfl

/-- **The last field of a name hides the others**, and leaves the other names alone. -/
theorem lastD_concat (fs : List (List Char × List Char)) (f : List Char × List Char) :
    lastD (fs ++ [f]) =
      Function.update (lastD fs) (key f) (String.ofList (Percent.decodeList f.2)) := by
  funext name
  rw [lastD, last?, List.map_append, List.reverse_append, List.map_singleton,
    List.reverse_singleton, List.singleton_append]
  by_cases h : key f = name
  · rw [List.find?_cons_of_pos (by simpa [key] using h), ← h, Function.update_self]
    rfl
  · rw [List.find?_cons_of_neg (by simpa [key] using h), Function.update_of_ne (Ne.symm h)]
    rfl

/-- The field that a look-up finds has the name and decodes to the value. -/
theorem exists_of_last? {fs : List (List Char × List Char)} {name value : String}
    (h : last? fs name = some value) :
    ∃ f ∈ fs, key f = name ∧ String.ofList (Percent.decodeList f.2) = value := by
  induction fs with
  | nil => simp [last?] at h
  | cons f fs ih =>
    rw [last?_cons, Option.or_eq_some_iff] at h
    rcases h with h | ⟨-, h⟩
    · obtain ⟨g, hg, hkey⟩ := ih h
      exact ⟨g, List.mem_cons_of_mem f hg, hkey⟩
    · split at h
      · next hkey => exact ⟨f, List.mem_cons_self, hkey, Option.some.inj h⟩
      · simp at h

theorem last?_eq_none {fs : List (List Char × List Char)} {name : String}
    (h : ∀ f ∈ fs, key f ≠ name) : last? fs name = none := by
  cases hlast : last? fs name with
  | none => rfl
  | some value =>
    obtain ⟨f, hf, hkey, -⟩ := exists_of_last? hlast
    exact absurd hkey (h f hf)

/-- A value that is not blank belongs to a field that has the name and decodes to it. -/
theorem exists_of_lastD {fs : List (List Char × List Char)} {name value : String}
    (h : lastD fs name = value) (hvalue : value ≠ "") :
    ∃ f ∈ fs, key f = name ∧ String.ofList (Percent.decodeList f.2) = value := by
  rw [lastD] at h
  cases hlast : last? fs name with
  | none =>
    rw [hlast] at h
    exact absurd h.symm hvalue
  | some found =>
    rw [hlast] at h
    obtain rfl : found = value := h
    exact exists_of_last? hlast

/-- **Leaving blank values out does no harm.**  A name that is looked up among the other fields of a
list without repeated names gives its decoded value all the same. -/
theorem lastD_present {fields : List (String × String)}
    (hdistinct : (fields.map fun p => Text.lower p.1).Nodup) {name value : String}
    (hlower : Text.lower name = name) (hmem : (name, value) ∈ fields) :
    lastD ((fields.filter (!·.2.isEmpty)).map ofPair) name = Percent.decode value := by
  rw [lastD]
  induction fields with
  | nil => simp at hmem
  | cons p ps ih =>
    rw [List.map_cons, List.nodup_cons] at hdistinct
    rcases List.mem_cons.1 hmem with rfl | hmem
    · have hnone : last? ((ps.filter (!·.2.isEmpty)).map ofPair) name = none := by
        refine last?_eq_none fun f hf hkey => hdistinct.1 ?_
        obtain ⟨q, hq, rfl⟩ := List.mem_map.1 hf
        rw [hlower, ← hkey]
        exact List.mem_map_of_mem (List.mem_filter.1 hq).1
      by_cases hvalue : value = ""
      · rw [List.filter_cons_of_neg (by simp [hvalue]), hnone, hvalue]
        rfl
      · rw [List.filter_cons_of_pos (by simpa using hvalue), List.map_cons, last?_cons, hnone,
          if_pos (show key (ofPair (name, value)) = name from hlower)]
        rfl
    · have hne : key (ofPair p) ≠ name := by
        intro hkey
        refine hdistinct.1 (List.mem_map.2 ⟨(name, value), hmem, ?_⟩)
        exact hlower.trans hkey.symm
      have htail := ih hdistinct.2 hmem
      by_cases hvalue : p.2 = ""
      · rwa [List.filter_cons_of_neg (by simp [hvalue])]
      · rwa [List.filter_cons_of_pos (by simpa using hvalue), List.map_cons, last?_cons,
          if_neg hne, Option.or_none]

end Fields
end SignedHttp
