import SignedHttp.Text.Blank
import SignedHttp.Text.Case
import SignedHttp.Text.Split

/-!
# Trimmed, cut and recased texts

What the readers of header values rely on:

* `Text.trim_eq_self` and `Text.trim_trim` say when trimming changes nothing, and
  `Text.mem_of_mem_trim` and `Text.exists_trim` what it takes away.
* `Text.pieces_append` says that cutting at separators distributes over a separator.  From it
  `Text.pieces_intercalate` recovers pieces that were joined, and `Text.intercalate_inj` makes the
  joined form unambiguous.  `Text.append_cons_inj` does without separators, where a marker stands,
  and `Text.append_cons_cases` compares two cuts at any occurrence of a character.
* `Text.mem_of_mem_lower` and `Text.mem_of_mem_upper` say that a change of letter case
  makes no punctuation: a character below `A` in the result was in the text before.  In ASCII the
  lower case is found character by character (`Text.lower_eq_of_ascii`), and a lower case in ASCII
  without a `k` is found in no other way (`Text.lower_eq_iff_of_isPlain`).
-/

set_option autoImplicit false

namespace SignedHttp
namespace Text

/-! ## Trimming -/

theorem dropWhile_eq_self {α : Type} {p : α → Bool} {xs : List α}
    (h : ∀ x ∈ xs.head?, p x = false) : xs.dropWhile p = xs := by
  cases xs with
  | nil => rfl
  | cons x xs => rw [List.dropWhile_cons_of_neg (by simpa using h x rfl)]

theorem trimEnd_eq_self {cs : List Char} (hlast : ∀ c ∈ cs.getLast?, isBlank c = false) :
    trimEnd cs = cs := by
  rw [trimEnd, dropWhile_eq_self, List.reverse_reverse]
  rwa [List.head?_reverse]

/-- A text that begins and ends with characters other than blanks is trimmed already. -/
theorem trim_eq_self {cs : List Char} (hfirst : ∀ c ∈ cs.head?, isBlank c = false)
    (hlast : ∀ c ∈ cs.getLast?, isBlank c = false) : trim cs = cs := by
  rw [trim, trimStart, dropWhile_eq_self hfirst, trimEnd_eq_self hlast]

/-- Trimming the beginning stops at a character that is no blank. -/
theorem trimStart_append_cons {c : Char} (hc : isBlank c = false) (front back : List Char) :
    trimStart (front ++ c :: back) = trimStart front ++ c :: back := by
  have hstop : (c :: back).dropWhile isBlank = c :: back :=
    List.dropWhile_cons_of_neg (by simp [hc])
  rw [trimStart, trimStart, List.dropWhile_append]
  split
  · next hempty => rw [hstop, List.isEmpty_iff.1 hempty, List.nil_append]
  · rfl

/-- Trimming the end stops there, too. -/
theorem trimEnd_append_cons {c : Char} (hc : isBlank c = false) (front back : List Char) :
    trimEnd (front ++ c :: back) = front ++ c :: trimEnd back := by
  have h := trimStart_append_cons hc back.reverse front.reverse
  rw [trimStart, trimStart] at h
  rw [trimEnd, trimEnd, List.reverse_append, List.reverse_cons, List.append_assoc,
    List.singleton_append, h]
  simp

/-- Behind a word without blanks, only the end is trimmed. -/
theorem trim_append {word back : List Char} (hne : word ≠ [])
    (hword : ∀ c ∈ word, isBlank c = false) : trim (word ++ back) = word ++ trimEnd back := by
  have hstart : trimStart (word ++ back) = word ++ back := by
    obtain ⟨c, tail, rfl⟩ := List.exists_cons_of_ne_nil hne
    exact List.dropWhile_cons_of_neg (by simp [hword c List.mem_cons_self])
  obtain ⟨front, last, rfl⟩ := (List.eq_nil_or_concat word).resolve_left hne
  rw [List.concat_eq_append] at hword hstart ⊢
  rw [trim, hstart, List.append_assoc, List.singleton_append,
    trimEnd_append_cons (hword last (by simp)), List.append_assoc, List.singleton_append]

theorem toNat_of_isAlphanum {c : Char} (h : c.isAlphanum = true) :
    0x30 ≤ c.toNat ∧ c.toNat ≤ 0x7A := by
  delta Char.isAlphanum Char.isAlpha Char.isUpper Char.isLower Char.isDigit at h
  simp only [Bool.or_eq_true, Bool.and_eq_true, decide_eq_true_eq, ge_iff_le,
    UInt32.le_iff_toNat_le] at h
  have hc : c.toNat = c.val.toNat := rfl
  rcases h with (h | h) | h <;> (simp at h; omega)

theorem isBlank_of_isAlphanum {c : Char} (h : c.isAlphanum = true) : isBlank c = false := by
  obtain ⟨hlow, hhigh⟩ := toNat_of_isAlphanum h
  simp only [isBlank, Bool.or_eq_false_iff, Bool.and_eq_false_iff, decide_eq_false_iff_not,
    beq_eq_false_iff_ne]
  omega

theorem isBlank_of_mem_head?_trimStart {cs : List Char} :
    ∀ c ∈ (trimStart cs).head?, isBlank c = false := by
  intro c hc
  have h := List.head?_dropWhile_not isBlank cs
  rw [trimStart, Option.mem_def] at hc
  rwa [hc] at h

theorem isPrefix_trimEnd (cs : List Char) : trimEnd cs <+: cs := by
  have h : (cs.reverse.dropWhile isBlank) <:+ cs.reverse := List.dropWhile_suffix isBlank
  rwa [← List.reverse_prefix, List.reverse_reverse] at h

theorem isBlank_of_mem_getLast?_trimEnd {cs : List Char} :
    ∀ c ∈ (trimEnd cs).getLast?, isBlank c = false := by
  intro c hc
  rw [trimEnd, List.getLast?_reverse] at hc
  exact isBlank_of_mem_head?_trimStart c hc

theorem isBlank_of_mem_head?_trim {cs : List Char} :
    ∀ c ∈ (trim cs).head?, isBlank c = false := by
  intro c hc
  obtain ⟨rest, hrest⟩ := isPrefix_trimEnd (trimStart cs)
  refine @isBlank_of_mem_head?_trimStart cs c ?_
  rw [← hrest, List.head?_append, show (trimEnd (trimStart cs)).head? = some c from hc]
  rfl

theorem trim_trim (cs : List Char) : trim (trim cs) = trim cs :=
  trim_eq_self isBlank_of_mem_head?_trim isBlank_of_mem_getLast?_trimEnd

theorem mem_of_mem_trim {c : Char} {cs : List Char} (h : c ∈ trim cs) : c ∈ cs :=
  (List.dropWhile_suffix isBlank).mem ((isPrefix_trimEnd (trimStart cs)).mem h)

/-- Trimming the end takes away blanks only. -/
theorem exists_trimEnd (cs : List Char) :
    ∃ blanks, cs = trimEnd cs ++ blanks ∧ ∀ c ∈ blanks, isBlank c = true := by
  refine ⟨(cs.reverse.takeWhile isBlank).reverse, ?_, fun c hc => ?_⟩
  · rw [trimEnd, ← List.reverse_append, List.takeWhile_append_dropWhile, List.reverse_reverse]
  · exact List.all_eq_true.1 List.all_takeWhile c (List.mem_reverse.1 hc)

theorem trimEnd_of_blank {blanks : List Char} (h : ∀ c ∈ blanks, isBlank c = true) :
    trimEnd blanks = [] := by
  have hreverse : ∀ c ∈ blanks.reverse, isBlank c = true := fun c hc => h c (List.mem_reverse.1 hc)
  rw [trimEnd, ← List.append_nil blanks.reverse, List.dropWhile_append_of_pos hreverse]
  rfl

/-- A word without blanks is what is left of it between blanks. -/
theorem trim_surrounded {leading word trailing : List Char}
    (hleading : ∀ c ∈ leading, isBlank c = true) (hword : ∀ c ∈ word, isBlank c = false)
    (hne : word ≠ []) (htrailing : ∀ c ∈ trailing, isBlank c = true) :
    trim (leading ++ (word ++ trailing)) = word := by
  have hstart : trimStart (leading ++ (word ++ trailing)) = trimStart (word ++ trailing) :=
    List.dropWhile_append_of_pos hleading
  rw [trim, hstart, ← trim, trim_append hne hword, trimEnd_of_blank htrailing, List.append_nil]

/-- What trimming takes away stands at the two ends. -/
theorem exists_trim (cs : List Char) :
    ∃ leading trailing, cs = leading ++ (trim cs ++ trailing) ∧
      (∀ c ∈ leading, isBlank c = true) ∧ ∀ c ∈ trailing, isBlank c = true := by
  obtain ⟨trailing, hend, htrailing⟩ := exists_trimEnd (trimStart cs)
  refine ⟨cs.takeWhile isBlank, trailing, ?_, List.all_eq_true.1 List.all_takeWhile, htrailing⟩
  rw [trim, ← hend]
  exact List.takeWhile_append_dropWhile.symm

/-! ## Pieces -/

section Pieces

variable {isSep : Char → Bool}

/-- **Cutting distributes over a separator.** -/
theorem pieces_append {sep : Char} (hsep : isSep sep = true) (front back : List Char) :
    pieces isSep (front ++ sep :: back) = pieces isSep front ++ pieces isSep back := by
  induction front with
  | nil => simp [pieces, hsep]
  | cons c front ih =>
    rw [List.cons_append, pieces, pieces]
    split
    · rw [ih, List.cons_append]
    · rw [ih]
      cases hp : pieces isSep front with
      | nil => exact absurd hp (pieces_ne_nil isSep front)
      | cons piece others => rfl

theorem pieces_of_not_isSep {cs : List Char} (h : ∀ c ∈ cs, isSep c = false) :
    pieces isSep cs = [cs] := by
  induction cs with
  | nil => rfl
  | cons c cs ih =>
    rw [pieces, if_neg (by simpa using h c List.mem_cons_self),
      ih fun d hd => h d (List.mem_cons_of_mem c hd)]

/-- Pieces without separators are found again in the text that joins them. -/
theorem pieces_intercalate {sep : Char} (hsep : isSep sep = true) {parts : List (List Char)}
    (hne : parts ≠ []) (h : ∀ part ∈ parts, ∀ c ∈ part, isSep c = false) :
    pieces isSep ([sep].intercalate parts) = parts := by
  induction parts with
  | nil => exact absurd rfl hne
  | cons part parts ih =>
    have hpart := pieces_of_not_isSep (h part List.mem_cons_self)
    cases parts with
    | nil => rw [List.intercalate_singleton, hpart]
    | cons next parts =>
      have hrest := ih (by simp) fun p hp => h p (List.mem_cons_of_mem part hp)
      rw [List.intercalate_cons_cons, List.append_assoc, List.singleton_append,
        pieces_append hsep, hpart, hrest, List.singleton_append]

theorem length_le_of_mem_pieces {cs piece : List Char} (h : piece ∈ pieces isSep cs) :
    piece.length ≤ cs.length := by
  induction cs generalizing piece with
  | nil => simp_all [pieces]
  | cons c cs ih =>
    rw [pieces] at h
    split at h
    · rcases List.mem_cons.1 h with rfl | h
      · simp
      · exact Nat.le_trans (ih h) (by simp)
    · cases hp : pieces isSep cs with
      | nil => exact absurd hp (pieces_ne_nil isSep cs)
      | cons first others =>
        rw [hp] at h ih
        rcases List.mem_cons.1 h with rfl | h
        · simpa using ih List.mem_cons_self
        · exact Nat.le_trans (ih (List.mem_cons_of_mem first h)) (by simp)

/-- The pieces of a text that has a separator are shorter than the text. -/
theorem length_lt_of_mem_pieces {sep : Char} {cs piece : List Char} (hsep : isSep sep = true)
    (hmem : sep ∈ cs) (h : piece ∈ pieces isSep cs) : piece.length < cs.length := by
  obtain ⟨front, back, rfl⟩ := List.append_of_mem hmem
  rw [pieces_append hsep, List.mem_append] at h
  rw [List.length_append, List.length_cons]
  rcases h with h | h
  · have := length_le_of_mem_pieces h
    omega
  · have := length_le_of_mem_pieces h
    omega

end Pieces

/-- Texts joined by a separator that occurs in none of them can be told apart. -/
theorem intercalate_inj {sep : Char} {xs ys : List (List Char)} (hx : ∀ x ∈ xs, sep ∉ x)
    (hy : ∀ y ∈ ys, sep ∉ y) (hxne : xs ≠ []) (hyne : ys ≠ [])
    (h : [sep].intercalate xs = [sep].intercalate ys) : xs = ys := by
  have recover (zs : List (List Char)) (hz : ∀ z ∈ zs, sep ∉ z) (hne : zs ≠ []) :
      pieces (· == sep) ([sep].intercalate zs) = zs := by
    refine pieces_intercalate (by simp) hne fun z hmem c hc => ?_
    rw [beq_eq_false_iff_ne]
    rintro rfl
    exact hz z hmem hc
  rw [← recover xs hx hxne, h, recover ys hy hyne]

/-- Cutting loses the separators and nothing else. -/
theorem flatten_pieces {α : Type} (isSep : α → Bool) (cs : List α) :
    (pieces isSep cs).flatten = cs.filter (!isSep ·) := by
  induction cs with
  | nil => rfl
  | cons c cs ih =>
    rw [pieces, List.filter_cons]
    by_cases hc : isSep c
    · simp [hc, ih]
    · cases hpieces : pieces isSep cs with
      | nil => exact absurd hpieces (pieces_ne_nil isSep cs)
      | cons piece others =>
        rw [hpieces, List.flatten_cons] at ih
        simp [hc, ← ih]

section Joined

variable {α : Type} {sep part : List α} {parts front back : List (List α)}

theorem mem_intercalate {c : α} (h : c ∈ sep.intercalate parts) :
    c ∈ sep ∨ ∃ part ∈ parts, c ∈ part := by
  induction parts with
  | nil => simp at h
  | cons part parts ih =>
    cases parts with
    | nil =>
      rw [List.intercalate_singleton] at h
      exact .inr ⟨part, List.mem_cons_self, h⟩
    | cons next parts =>
      rw [List.intercalate_cons_cons, List.mem_append, List.mem_append] at h
      rcases h with (h | h) | h
      · exact .inr ⟨part, List.mem_cons_self, h⟩
      · exact .inl h
      · rcases ih h with h | ⟨p, hp, h⟩
        · exact .inl h
        · exact .inr ⟨p, List.mem_cons_of_mem part hp, h⟩

theorem map_intercalate {β : Type} (f : α → β) (sep : List α) (parts : List (List α)) :
    (sep.intercalate parts).map f = (sep.map f).intercalate (parts.map (List.map f)) := by
  induction parts with
  | nil => rfl
  | cons part parts ih =>
    cases parts with
    | nil => rw [List.intercalate_singleton, List.map_singleton, List.intercalate_singleton]
    | cons next parts =>
      rw [List.intercalate_cons_cons, List.map_append, List.map_append, ih]
      exact List.intercalate_cons_cons.symm

theorem intercalate_append (hback : back ≠ []) :
    sep.intercalate (front ++ back) = front.flatMap (· ++ sep) ++ sep.intercalate back := by
  induction front with
  | nil => rfl
  | cons part front ih =>
    obtain ⟨next, rest, hnext⟩ := List.exists_cons_of_ne_nil (l := front ++ back) (by simp [hback])
    rw [List.cons_append, hnext, List.intercalate_cons_cons, ← hnext, ih, List.flatMap_cons,
      List.append_assoc (part ++ sep)]

/-- Each part is found again in the joined text. -/
theorem isInfix_intercalate (h : part ∈ parts) : part <:+: sep.intercalate parts := by
  obtain ⟨front, back, rfl⟩ := List.append_of_mem h
  rw [intercalate_append (by simp)]
  refine (List.IsPrefix.isInfix ?_).trans (List.suffix_append _ _).isInfix
  cases back with
  | nil => exact List.intercalate_singleton ▸ List.prefix_rfl
  | cons next back =>
    rw [List.intercalate_cons_cons, List.append_assoc]
    exact List.prefix_append _ _

end Joined

/-- The same for strings, which a string of one character separates. -/
theorem join_inj {sep : String} {c : Char} (hsep : sep.toList = [c]) {xs ys : List String}
    (hx : ∀ x ∈ xs, c ∉ x.toList) (hy : ∀ y ∈ ys, c ∉ y.toList) (hxne : xs ≠ []) (hyne : ys ≠ [])
    (h : sep.intercalate xs = sep.intercalate ys) : xs = ys := by
  have hlists := congrArg String.toList h
  rw [String.toList_intercalate, String.toList_intercalate, hsep] at hlists
  refine (List.map_inj_right fun _ _ => String.toList_inj.1).1 ?_
  exact intercalate_inj (List.forall_mem_map.2 hx) (List.forall_mem_map.2 hy) (by simpa using hxne)
    (by simpa using hyne) hlists

/-- A character that is in neither the separator nor the parts is not in the joined text. -/
theorem not_mem_join {c : Char} {sep : String} (hsep : c ∉ sep.toList) {parts : List String}
    (hparts : ∀ part ∈ parts, c ∉ part.toList) : c ∉ (sep.intercalate parts).toList := by
  intro hmem
  rw [String.toList_intercalate] at hmem
  rcases mem_intercalate hmem with hmem | ⟨cs, hcs, hmem⟩
  · exact hsep hmem
  · obtain ⟨part, hpart, rfl⟩ := List.mem_map.1 hcs
    exact hparts part hpart hmem

/-- A list is cut in one way only at the first of its elements that lacks a property. -/
theorem append_cons_inj {α : Type} {p : α → Prop} {front front' back back' : List α} {x x' : α}
    (hfront : ∀ y ∈ front, p y) (hfront' : ∀ y ∈ front', p y) (hx : ¬p x) (hx' : ¬p x')
    (h : front ++ x :: back = front' ++ x' :: back') : front = front' ∧ x = x' ∧ back = back' := by
  induction front generalizing front' with
  | nil =>
    cases front' with
    | nil => simpa using h
    | cons y front' =>
      obtain rfl : x = y := (List.cons.inj h).1
      exact absurd (hfront' x List.mem_cons_self) hx
  | cons y front ih =>
    cases front' with
    | nil =>
      obtain rfl : y = x' := (List.cons.inj h).1
      exact absurd (hfront y List.mem_cons_self) hx'
    | cons y' front' =>
      obtain ⟨rfl, htail⟩ := List.cons.inj h
      obtain ⟨rfl, hrest⟩ := ih (fun z hz => hfront z (List.mem_cons_of_mem y hz))
        (fun z hz => hfront' z (List.mem_cons_of_mem y hz)) htail
      exact ⟨rfl, hrest⟩

/-- Two cuts of a list at the same element are at the same place, or one comes first. -/
theorem append_cons_cases {α : Type} {x : α} {front front' back back' : List α}
    (h : front ++ x :: back = front' ++ x :: back') :
    (front = front' ∧ back = back') ∨
      (∃ middle, front' = front ++ x :: middle ∧ back = middle ++ x :: back') ∨
        ∃ middle, front = front' ++ x :: middle ∧ back' = middle ++ x :: back := by
  rcases List.append_eq_append_iff.1 h with ⟨rest, hfront, hback⟩ | ⟨rest, hfront, hback⟩
  · cases rest with
    | nil => exact .inl ⟨by simpa using hfront.symm, by simpa using hback⟩
    | cons y middle =>
      obtain ⟨rfl, htail⟩ := List.cons.inj hback
      exact .inr (.inl ⟨middle, hfront, htail⟩)
  · cases rest with
    | nil => exact .inl ⟨by simpa using hfront, by simpa using hback.symm⟩
    | cons y middle =>
      obtain ⟨rfl, htail⟩ := List.cons.inj hback
      exact .inr (.inr ⟨middle, hfront, htail⟩)

/-- They are at the same place when the element occurs equally often before them. -/
theorem append_cons_inj_of_count {x : Char} {front front' back back' : List Char}
    (hcount : front.count x = front'.count x) (h : front ++ x :: back = front' ++ x :: back') :
    front = front' ∧ back = back' := by
  rcases append_cons_cases h with hsame | ⟨middle, rfl, -⟩ | ⟨middle, rfl, -⟩
  · exact hsame
  · rw [List.count_append, List.count_cons_self] at hcount
    omega
  · rw [List.count_append, List.count_cons_self] at hcount
    omega

/-! Lines that are each ended by a separator. -/

theorem flatMap_ended {sep : List Char} {parts : List (List Char)} (hne : parts ≠ []) :
    parts.flatMap (· ++ sep) = sep.intercalate parts ++ sep := by
  obtain ⟨front, last, rfl⟩ := (List.eq_nil_or_concat parts).resolve_left hne
  rw [List.concat_eq_append, intercalate_append (by simp), List.intercalate_singleton,
    List.flatMap_append, List.flatMap_singleton, List.append_assoc]

/-- As many ended lines as are known to be there are found again, whatever follows them. -/
theorem flatMap_ended_inj {sep : Char} {xs ys : List (List Char)} {rest rest' : List Char}
    (hx : ∀ x ∈ xs, sep ∉ x) (hy : ∀ y ∈ ys, sep ∉ y) (hlength : xs.length = ys.length)
    (h : xs.flatMap (· ++ [sep]) ++ rest = ys.flatMap (· ++ [sep]) ++ rest') :
    xs = ys ∧ rest = rest' := by
  induction xs generalizing ys with
  | nil =>
    obtain rfl : ys = [] := List.length_eq_zero_iff.1 hlength.symm
    exact ⟨rfl, h⟩
  | cons x xs ih =>
    cases ys with
    | nil => exact absurd hlength (by simp)
    | cons y ys =>
      have hne {z : List Char} (hz : sep ∉ z) : ∀ c ∈ z, c ≠ sep := by
        rintro c hc rfl
        exact hz hc
      rw [List.forall_mem_cons] at hx hy
      simp only [List.flatMap_cons, List.append_assoc, List.singleton_append] at h
      obtain ⟨rfl, -, htail⟩ := append_cons_inj (hne hx.1) (hne hy.1) (by simp) (by simp) h
      obtain ⟨rfl, hrest⟩ := ih hx.2 hy.2 (Nat.succ.inj hlength) htail
      exact ⟨rfl, hrest⟩

/-- They have one separator each. -/
theorem count_flatMap_ended {sep : Char} {xs : List (List Char)} (hx : ∀ x ∈ xs, sep ∉ x) :
    (xs.flatMap (· ++ [sep])).count sep = xs.length := by
  induction xs with
  | nil => rfl
  | cons x xs ih =>
    rw [List.forall_mem_cons] at hx
    rw [List.flatMap_cons, List.count_append, List.count_append, List.count_eq_zero_of_not_mem hx.1,
      List.count_singleton_self, ih hx.2, List.length_cons]
    omega

/-- Two strings around a separator that the first of them lacks are determined by the whole. -/
theorem append_sep_inj {sep : String} {c : Char} (hsep : sep.toList = [c])
    {front front' back back' : String} (h : c ∉ front.toList) (h' : c ∉ front'.toList)
    (heq : front ++ sep ++ back = front' ++ sep ++ back') : front = front' ∧ back = back' := by
  have hne {s : String} (hs : c ∉ s.toList) : ∀ d ∈ s.toList, d ≠ c := by
    rintro d hd rfl
    exact hs hd
  have hlists := congrArg String.toList heq
  simp only [String.toList_append, hsep, List.append_assoc, List.singleton_append] at hlists
  obtain ⟨hfront, -, hback⟩ := append_cons_inj (hne h) (hne h') (by simp) (by simp) hlists
  exact ⟨String.toList_inj.1 hfront, String.toList_inj.1 hback⟩

/-! ## Letter case

Both mappings move letters to letters, so they can make no character below `A`.  The bound is far
below anything that the tables hold. -/

theorem lt_shifted {runs : List CaseRun} (hruns : ∀ run ∈ runs, 64 < run.first + run.shift)
    {n : Nat} (hn : 64 < n) : 64 < shifted runs n := by
  rw [shifted]
  split
  · next run hfind =>
    have hrun := hruns run (List.mem_of_find?_eq_some hfind)
    have hcovers := List.find?_some hfind
    simp only [CaseRun.covers, Bool.and_eq_true, decide_eq_true_eq] at hcovers
    omega
  · exact hn

theorem lowerRuns_bound : ∀ run ∈ lowerRuns, 64 < run.first + run.shift := by decide +kernel

theorem upperRuns_bound : ∀ run ∈ upperRuns, 64 < run.first + run.shift := by decide +kernel

theorem upperExpansions_bound : ∀ p ∈ upperExpansions, ∀ n ∈ p.2, 64 < n := by decide

theorem toLower_ascii :
    ∀ n < 128, (Char.ofNat n).toLower = Char.ofNat n ∨ 64 < (Char.ofNat n).toLower.toNat := by
  decide

theorem toUpper_ascii :
    ∀ n < 128, (Char.ofNat n).toUpper = Char.ofNat n ∨ 64 < (Char.ofNat n).toUpper.toNat := by
  decide

/-- The character of a number that is no code point is NUL. -/
theorem toNat_ofNat_or (n : Nat) : (Char.ofNat n).toNat = n ∨ Char.ofNat n = '\x00' := by
  by_cases hvalid : n.isValidChar
  · have hchar : Char.ofNat n = Char.ofNatAux n hvalid := dif_pos hvalid
    rw [hchar]
    exact .inl rfl
  · exact .inr (dif_neg hvalid)

theorem ofNat_ne {n : Nat} (hn : 64 < n) {c : Char} (hc : c.toNat ≤ 64) (hnul : c ≠ '\x00') :
    Char.ofNat n ≠ c := by
  rintro rfl
  rcases toNat_ofNat_or n with hchar | hchar
  · omega
  · exact hnul hchar

/-! ASCII is mapped character by character, and nothing else is mapped to it so.  Blanks stay as
they are. -/

theorem toNat_lt_of_toLower {c : Char} (h : c.toLower.toNat < 128) : c.toNat < 128 := by
  delta Char.toLower at h
  split at h
  · next hupper =>
    have hle : c.toNat ≤ 90 := UInt32.le_iff_toNat_le.1 hupper.2
    omega
  · exact h

theorem isBlank_of_toLower {c : Char} (h : isBlank c.toLower = false) : isBlank c = false := by
  delta Char.toLower at h
  split at h
  · next hupper =>
    have hlow : 65 ≤ c.toNat := UInt32.le_iff_toNat_le.1 hupper.1
    have hhigh : c.toNat ≤ 90 := UInt32.le_iff_toNat_le.1 hupper.2
    simp only [isBlank, Bool.or_eq_false_iff, Bool.and_eq_false_iff, decide_eq_false_iff_not,
      beq_eq_false_iff_ne]
    omega
  · exact h

theorem lowerFrom_of_ascii {before cs : List Char} (h : ∀ c ∈ cs, c.toNat < 128) :
    lowerFrom before cs = cs.map Char.toLower := by
  induction cs generalizing before with
  | nil => rfl
  | cons c cs ih =>
    rw [List.forall_mem_cons] at h
    have hsigma : c ≠ 'Σ' := by
      rintro rfl
      exact absurd h.1 (by decide)
    rw [lowerFrom, if_neg hsigma, lowerChar, if_pos h.1, ih h.2]
    rfl

/-- **In ASCII, lower case is found character by character.** -/
theorem lower_eq_of_ascii {s t : String} (ht : ∀ c ∈ t.toList, c.toNat < 128)
    (h : s.toList.map Char.toLower = t.toList) : lower s = t := by
  have hs : ∀ c ∈ s.toList, c.toNat < 128 := fun c hc =>
    toNat_lt_of_toLower (ht _ (h ▸ List.mem_map_of_mem hc))
  rw [lower, lowerList, lowerFrom_of_ascii hs, h, String.ofList_toList]

/-! Characters beyond ASCII stay beyond it, but for the Kelvin sign, which is mapped to `k`. -/

theorem lowerRuns_ascii :
    ∀ run ∈ lowerRuns, 128 ≤ run.first + run.shift ∨
      run.first = run.last ∧ run.first + run.shift = 107 := by
  decide +kernel

/-- An ASCII character other than `k`, and other than NUL, which stands in for what is no code
point. -/
def IsPlain (c : Char) : Prop := c.toNat < 128 ∧ c ≠ '\x00' ∧ c ≠ 'k'

theorem shifted_lowerRuns {n : Nat} (hn : 128 ≤ n) :
    128 ≤ shifted lowerRuns n ∨ shifted lowerRuns n = 107 := by
  rw [shifted]
  split
  · next run hfind =>
    have hrun := lowerRuns_ascii run (List.mem_of_find?_eq_some hfind)
    have hcovers := List.find?_some hfind
    simp only [CaseRun.covers, Bool.and_eq_true, decide_eq_true_eq] at hcovers
    omega
  · exact .inl hn

theorem not_isPlain_ofNat {n : Nat} (h : 128 ≤ n ∨ n = 107) : ¬IsPlain (Char.ofNat n) := by
  rintro ⟨hascii, hnul, hk⟩
  rcases h with h | rfl
  · rcases toNat_ofNat_or n with hchar | hchar
    · omega
    · exact hnul hchar
  · exact hk rfl

/-- **What has a plain lower case is in ASCII.** -/
theorem toNat_lt_of_lowerChar {c : Char} (h : ∀ d ∈ lowerChar c, IsPlain d) : c.toNat < 128 := by
  rw [lowerChar] at h
  split at h
  · next hc => exact hc
  · next hc =>
    split at h
    · exact absurd (h (Char.ofNat 0x307) (by simp)).1 (by decide)
    · exact absurd (h _ List.mem_cons_self) (not_isPlain_ofNat (shifted_lowerRuns (by omega)))

theorem not_isPlain_lowerSigma (before after : List Char) : ¬IsPlain (lowerSigma before after) := by
  rintro ⟨hascii, -⟩
  rw [lowerSigma] at hascii
  split at hascii
  · exact absurd hascii (by decide)
  · exact absurd hascii (by decide)

theorem toNat_lt_of_lowerFrom {before cs : List Char} (h : ∀ d ∈ lowerFrom before cs, IsPlain d) :
    ∀ c ∈ cs, c.toNat < 128 := by
  induction cs generalizing before with
  | nil => simp
  | cons c cs ih =>
    rw [lowerFrom, List.forall_mem_append] at h
    refine List.forall_mem_cons.2 ⟨?_, ih h.2⟩
    split at h
    · exact absurd (h.1 _ List.mem_cons_self) (not_isPlain_lowerSigma before cs)
    · exact toNat_lt_of_lowerChar h.1

/-- **A text has a plain lower case just when it has it character by character.** -/
theorem lower_eq_iff_of_isPlain {s t : String} (ht : ∀ c ∈ t.toList, IsPlain c) :
    lower s = t ↔ s.toList.map Char.toLower = t.toList := by
  constructor
  · intro h
    have hlist : lowerFrom [] s.toList = t.toList := by
      rw [← h, lower, String.toList_ofList, lowerList]
    have hs : ∀ c ∈ s.toList, c.toNat < 128 := toNat_lt_of_lowerFrom (hlist ▸ ht)
    rw [← hlist, lowerFrom_of_ascii hs]
  · exact lower_eq_of_ascii fun c hc => (ht c hc).1

/-! The Kelvin sign is why `k` is not plain. -/

example : lower "\u212A" = "k" := by decide +kernel

variable {c : Char} (hc : c.toNat ≤ 64) (hnul : c ≠ '\x00')

include hc hnul

theorem eq_of_mem_lowerChar {d : Char} (h : c ∈ lowerChar d) : c = d := by
  rw [lowerChar] at h
  split at h
  · next hd =>
    rw [List.mem_singleton] at h
    have hlower := toLower_ascii d.toNat hd
    rw [Char.ofNat_toNat, ← h] at hlower
    exact hlower.resolve_right (by omega)
  · next hd =>
    split at h
    · simp only [List.mem_cons, List.not_mem_nil, or_false] at h
      rcases h with rfl | rfl
      · exact absurd hc (by decide)
      · exact absurd hc (by decide)
    · rw [List.mem_singleton] at h
      exact absurd h.symm (ofNat_ne (lt_shifted lowerRuns_bound (by omega)) hc hnul)

theorem eq_of_mem_upperChar {d : Char} (h : c ∈ upperChar d) : c = d := by
  rw [upperChar] at h
  split at h
  · next hd =>
    rw [List.mem_singleton] at h
    have hupper := toUpper_ascii d.toNat hd
    rw [Char.ofNat_toNat, ← h] at hupper
    exact hupper.resolve_right (by omega)
  · next hd =>
    split at h
    · next expansion hlookup =>
      obtain ⟨n, hn, rfl⟩ := List.mem_map.1 h
      obtain ⟨front, back, hentries, -⟩ := List.lookup_eq_some_iff.1 hlookup
      have hmem : (d.toNat, expansion) ∈ upperExpansions := by rw [hentries]; simp
      exact absurd rfl (ofNat_ne (upperExpansions_bound _ hmem n hn) hc hnul)
    · rw [List.mem_singleton] at h
      exact absurd h.symm (ofNat_ne (lt_shifted upperRuns_bound (by omega)) hc hnul)

theorem mem_of_mem_lowerFrom {before cs : List Char} (h : c ∈ lowerFrom before cs) : c ∈ cs := by
  induction cs generalizing before with
  | nil => simp [lowerFrom] at h
  | cons d cs ih =>
    rw [lowerFrom, List.mem_append] at h
    rcases h with h | h
    · split at h
      · rw [List.mem_singleton, lowerSigma] at h
        split at h
        · exact absurd hc (by rw [h]; decide)
        · exact absurd hc (by rw [h]; decide)
      · rw [eq_of_mem_lowerChar hc hnul h]
        exact List.mem_cons_self
    · exact List.mem_cons_of_mem d (ih h)

/-- **Lower case makes no punctuation.** -/
theorem mem_of_mem_lower {s : String} (h : c ∈ (lower s).toList) : c ∈ s.toList := by
  rw [lower, String.toList_ofList] at h
  exact mem_of_mem_lowerFrom hc hnul h

/-- **Upper case makes no punctuation.** -/
theorem mem_of_mem_upper {s : String} (h : c ∈ (upper s).toList) : c ∈ s.toList := by
  rw [upper, String.toList_ofList, upperList, List.mem_flatMap] at h
  obtain ⟨d, hd, h⟩ := h
  rwa [eq_of_mem_upperChar hc hnul h]

end Text
end SignedHttp
