import SignedHttp.Proofs.Token
import SignedHttp.Proofs.Verification
import SignedHttp.Signing

/-!
# Which scheme a value belongs to

The token of an Authorization value decides which scheme it belongs to.  It is compared in the full
lower case of Unicode, where a character beyond ASCII may become one in ASCII; but the only one to
do so is the Kelvin sign, and no token has a `k` in it.  So just the ASCII spellings of a token count
as that token, and whether one token begins with another makes no difference.

* `Token.Spells`: a word that is a token but for the case of its letters.
* `Scheme.identifies_iff`: the values that belong to a scheme.
* `Registry.identify_exact`: a value belongs to one scheme at most, in whatever order the schemes
  are registered, and verification does not show the order either.
-/

set_option autoImplicit false

namespace SignedHttp

/-! ## Tokens in any letter case -/

namespace Token

instance (c : Char) : Decidable (Text.IsPlain c) := inferInstanceAs (Decidable (_ ∧ _))

/-- A word in ASCII that is the token but for the case of its letters. -/
structure Spells (word : List Char) (token : String) : Prop where
  ascii : ∀ c ∈ word, c.toNat < 128
  letters : word.map Char.toLower = token.toList.map Char.toLower

/-- What a token is made of for its spellings to be told apart from everything else. -/
structure Plain (token : String) : Prop where
  ne : token ≠ ""
  chars : ∀ c ∈ token.toList, Text.IsPlain c.toLower
  space : ∀ c ∈ token.toList, c.toLower ≠ ' '

variable {token value : String} {word : List Char}

/-- That a token is made so can be seen character by character. -/
theorem Plain.of_all (hne : token ≠ "")
    (hchars : token.toList.all fun c => decide (Text.IsPlain c.toLower) && c.toLower != ' ') :
    Plain token := by
  have hchar (c : Char) (hc : c ∈ token.toList) : Text.IsPlain c.toLower ∧ c.toLower ≠ ' ' := by
    simpa using List.all_eq_true.1 hchars c hc
  exact ⟨hne, fun c hc => (hchar c hc).1, fun c hc => (hchar c hc).2⟩

theorem toList_lower (h : Plain token) :
    (Text.lower token).toList = token.toList.map Char.toLower := by
  have hascii : ∀ c ∈ token.toList, c.toNat < 128 := fun c hc =>
    Text.toNat_lt_of_toLower (h.chars c hc).1
  rw [Text.lower, Text.lowerList, Text.lowerFrom_of_ascii hascii, String.toList_ofList]

/-- **A word has the lower case of a token just when it spells the token.** -/
theorem lower_eq_iff (h : Plain token) :
    Text.lower (String.ofList word) = Text.lower token ↔ Spells word token := by
  have hplain : ∀ c ∈ (Text.lower token).toList, Text.IsPlain c := by
    rw [toList_lower h]
    exact List.forall_mem_map.2 h.chars
  rw [Text.lower_eq_iff_of_isPlain hplain, String.toList_ofList, toList_lower h]
  constructor
  · intro hletters
    refine ⟨fun c hc => Text.toNat_lt_of_toLower ?_, hletters⟩
    have hmem : c.toLower ∈ token.toList.map Char.toLower :=
      hletters ▸ List.mem_map_of_mem hc
    obtain ⟨d, hd, hcd⟩ := List.mem_map.1 hmem
    exact hcd ▸ (h.chars d hd).1
  · exact Spells.letters

theorem Spells.ne_nil (h : Spells word token) (hne : token ≠ "") : word ≠ [] := by
  rintro rfl
  exact hne (String.toList_eq_nil_iff.1 (List.map_eq_nil_iff.1 h.letters.symm))

theorem Spells.not_mem_space (h : Spells word token) (hplain : Plain token) : ' ' ∉ word := by
  intro hmem
  have hspace : ' ' ∈ token.toList.map Char.toLower :=
    h.letters ▸ List.mem_map.2 ⟨' ', hmem, by decide⟩
  obtain ⟨c, hc, hlower⟩ := List.mem_map.1 hspace
  exact hplain.space c hc hlower

/-- **A value begins with a token** that stands alone in it or before a space. -/
theorem begins_iff (h : Plain token) :
    begins token value = true ↔ ∃ word rest, Text.trim value.toList = word ++ rest ∧
      Spells word token ∧ (rest = [] ∨ rest.head? = some ' ') := by
  rw [begins, Bool.and_eq_true, beq_iff_eq, first, lower_eq_iff h]
  constructor
  · rintro ⟨-, hspells⟩
    refine ⟨_, _, List.takeWhile_append_dropWhile.symm, hspells, ?_⟩
    cases hrest : (Text.trim value.toList).dropWhile (· != ' ') with
    | nil => exact .inl rfl
    | cons c rest =>
      have hstop := List.head?_dropWhile_not (· != ' ') (Text.trim value.toList)
      rw [hrest, List.head?_cons] at hstop
      exact .inr (congrArg some (by simpa using hstop))
  · rintro ⟨word, rest, htrim, hspells, hrest⟩
    have htake : (Text.trim value.toList).takeWhile (· != ' ') = word := by
      rw [htrim, List.takeWhile_append_of_pos (bne_space (hspells.not_mem_space h))]
      rcases hrest with rfl | hrest
      · rw [List.takeWhile_nil, List.append_nil]
      · obtain ⟨others, rfl⟩ := List.head?_eq_some_iff.1 hrest
        rw [List.takeWhile_cons_of_neg (by simp), List.append_nil]
    refine ⟨?_, htake ▸ hspells⟩
    rw [Bool.not_eq_true', String.isEmpty_eq_false_iff]
    rintro rfl
    exact hspells.ne_nil h.ne (List.append_eq_nil_iff.1 htrim.symm).1

end Token

/-! ## Schemes -/

namespace Scheme

theorem plain_token (s : Scheme) : Token.Plain s.token := by
  cases s with
  | legacy _ =>
    change Token.Plain LegacyScheme.token
    exact .of_all (by decide) (by decide)
  | current _ =>
    change Token.Plain CurrentScheme.token
    exact .of_all (by decide) (by decide)

/-- **The values that belong to a scheme**: its token, alone or before a space. -/
theorem identifies_iff {s : Scheme} {value : String} :
    s.identifies value = true ↔ ∃ word rest, Text.trim value.toList = word ++ rest ∧
      Token.Spells word s.token ∧ (rest = [] ∨ rest.head? = some ' ') :=
  Token.begins_iff s.plain_token

/-- A value that is no text belongs to no scheme. -/
theorem identifiesValue_iff {s : Scheme} {v : Value} :
    s.identifiesValue v = true ↔ ∃ text, v = .text text ∧ s.identifies text = true := by
  cases v with
  | text text => simp [identifiesValue, Value.text?]
  | _ => simp [identifiesValue, Value.text?]

end Scheme

/-! ## Registries -/

variable {reg reg' : Registry}

namespace Registry

theorem identify_eq_of_perm (h : reg.schemes.Perm reg'.schemes) (value : Option String) :
    reg.identify value = reg'.identify value := by
  rw [identify, identify, schemeOf?_eq_of_perm h]

theorem scheme_eq_of_perm (h : reg.schemes.Perm reg'.schemes) (version : String) :
    reg.scheme version = reg'.scheme version := by
  rw [scheme, scheme, find?_eq_of_perm h]

end Registry

/-- **Verification does not show the order of registration.**  It asks the registry once, for the
scheme of the value. -/
theorem Verifier.verify_eq_of_perm (h : reg.schemes.Perm reg'.schemes) (tolerance : Int)
    (clock : Clock) (lookup : String → Option Credential) (r : Request) (value : Option String) :
    (Verifier.mk reg tolerance).verify clock lookup r value =
      (Verifier.mk reg' tolerance).verify clock lookup r value := by
  rw [verify, verify, verifyValue, verifyValue, Registry.identify_eq_of_perm h]
  rfl

/-- **Identification is exact, and the order of registration does not matter.**  A value belongs to
a scheme just when it is a text that spells the scheme's token, alone or before a space.  So it
belongs to one scheme of a registry at most, and two registries with the same schemes find the same
and verify to the same. -/
theorem Registry.identify_exact :
    (∀ (s : Scheme) (v : Value), s.identifiesValue v = true ↔
      ∃ text word rest, v = .text text ∧ Text.trim text.toList = word ++ rest ∧
        Token.Spells word s.token ∧ (rest = [] ∨ rest.head? = some ' ')) ∧
    (∀ (reg : Registry) (v : Value), ∀ s ∈ reg.schemes, ∀ t ∈ reg.schemes,
      s.identifiesValue v = true → t.identifiesValue v = true → s = t) ∧
    ∀ reg reg' : Registry, reg.schemes.Perm reg'.schemes →
      (∀ value, reg.identify value = reg'.identify value) ∧
      (∀ version, reg.scheme version = reg'.scheme version) ∧
      ∀ tolerance clock lookup r value,
        (Verifier.mk reg tolerance).verify clock lookup r value =
          (Verifier.mk reg' tolerance).verify clock lookup r value := by
  refine ⟨fun s v => ?_, fun reg v s hs t ht hsv htv => ?_, fun reg reg' h => ?_⟩
  · simp only [Scheme.identifiesValue_iff, Scheme.identifies_iff, exists_and_left]
  · obtain ⟨text, rfl, hstext⟩ := Scheme.identifiesValue_iff.1 hsv
    obtain ⟨_, ⟨⟩, httext⟩ := Scheme.identifiesValue_iff.1 htv
    exact eq_of_id_eq hs ht (id_eq_of_identifies hstext httext)
  · exact ⟨identify_eq_of_perm h, scheme_eq_of_perm h, Verifier.verify_eq_of_perm h⟩

/-! Both schemes in the other order, and a value of the second one in odd capitals, with a wide blank
in front of it. -/

def swappedRegistry : Registry where
  schemes := [.current ⟨.sha256, []⟩, .legacy ⟨.sha1, []⟩]
  distinct := by decide

def capitalValue : String := "\u2003ACQUIA-http-HMAC id=\"a\""

theorem swapped_identify :
    (Registry.pair ⟨.sha1, []⟩ ⟨.sha256, []⟩).schemes.Perm swappedRegistry.schemes ∧
      (Scheme.current ⟨.sha256, []⟩).identifiesValue (.text capitalValue) = true ∧
      (Scheme.legacy ⟨.sha1, []⟩).identifiesValue (.text capitalValue) = false ∧
      (Registry.pair ⟨.sha1, []⟩ ⟨.sha256, []⟩).identify (some capitalValue) =
        swappedRegistry.identify (some capitalValue) := by
  obtain ⟨hexact, honly, horder⟩ := Registry.identify_exact
  have hperm : (Registry.pair ⟨.sha1, []⟩ ⟨.sha256, []⟩).schemes.Perm swappedRegistry.schemes :=
    .swap _ _ _
  have hascii : ("ACQUIA-http-HMAC".toList.all fun c => decide (c.toNat < 128)) = true := by decide
  have hspells : Token.Spells "ACQUIA-http-HMAC".toList CurrentScheme.token :=
    ⟨fun c hc => of_decide_eq_true (List.all_eq_true.1 hascii c hc), by decide⟩
  have hcurrent : (Scheme.current ⟨.sha256, []⟩).identifiesValue (.text capitalValue) = true :=
    (hexact _ _).2 ⟨_, _, " id=\"a\"".toList, rfl, by decide, hspells, .inr rfl⟩
  refine ⟨hperm, hcurrent, ?_, (horder _ _ hperm).1 _⟩
  rw [Bool.eq_false_iff]
  intro hlegacy
  have hsame := honly swappedRegistry _ _ (by simp [swappedRegistry]) _ (by simp [swappedRegistry])
    hlegacy hcurrent
  exact absurd hsame (by simp)

end SignedHttp
