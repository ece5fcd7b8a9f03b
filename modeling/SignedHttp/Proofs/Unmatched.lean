import SignedHttp.Proofs.Token
import SignedHttp.Proofs.Verification

/-!
# What the log says of an unmatched value

Of an Authorization value that belongs to no scheme the log shows what stands before the first
*space*.  A value may have other blanks between its scheme token and the rest, and then this is more
than the token: whatever stands before the first space, if there is one at all, is shown with it,
signatures included.

* `Token.Spaced`: a token, one or more blanks of any kind, and the rest.
* `Token.overrun`: what is shown beyond the token; nothing just when the first blank is a space
  (`Token.Spaced.overrun_eq_empty_iff`).
* `Registry.unmatched_log`: what the log says, and when it says no more than the token.
-/

set_option autoImplicit false

namespace SignedHttp

/-! ## A token, blanks and the rest -/

namespace Token

/-- A token without blanks, one or more blanks, and a rest that begins with something else. -/
structure Spaced (token blanks rest : String) : Prop where
  token_ne : token ≠ ""
  token : ∀ c ∈ token.toList, Text.isBlank c = false
  blanks_ne : blanks ≠ ""
  blanks : ∀ c ∈ blanks.toList, Text.isBlank c = true
  rest : ∃ c cs, rest.toList = c :: cs ∧ Text.isBlank c = false

/-- What is shown beyond the token. -/
def overrun (blanks rest : String) : String :=
  String.ofList ((blanks.toList ++ Text.trimEnd rest.toList).takeWhile (· != ' '))

variable {token blanks rest : String}

namespace Spaced

theorem trim_eq (h : Spaced token blanks rest) :
    Text.trim (token ++ blanks ++ rest).toList =
      token.toList ++ (blanks.toList ++ Text.trimEnd rest.toList) := by
  obtain ⟨c, cs, hrest, hc⟩ := h.rest
  have hne : token.toList ≠ [] := String.toList_eq_nil_iff.not.2 h.token_ne
  have hend : Text.trimEnd (c :: cs) = c :: Text.trimEnd cs := Text.trimEnd_append_cons hc [] cs
  rw [String.toList_append, String.toList_append, List.append_assoc, Text.trim_append hne h.token,
    hrest, Text.trimEnd_append_cons hc, hend]

theorem first_eq_overrun (h : Spaced token blanks rest) :
    first (token ++ blanks ++ rest) = token ++ overrun blanks rest := by
  have hspace : ' ' ∉ token.toList := fun hmem => absurd (h.token ' ' hmem) (by decide)
  rw [first, h.trim_eq, List.takeWhile_append_of_pos (bne_space hspace), String.ofList_append,
    String.ofList_toList, overrun]

/-- **Nothing beyond the token is shown just when a space follows it.** -/
theorem overrun_eq_empty_iff (h : Spaced token blanks rest) :
    overrun blanks rest = "" ↔ blanks.toList.head? = some ' ' := by
  obtain ⟨b, bs, hb⟩ := List.exists_cons_of_ne_nil (String.toList_eq_nil_iff.not.2 h.blanks_ne)
  rw [overrun, hb, List.head?_cons, ← String.toList_inj, String.toList_ofList, List.cons_append]
  by_cases hspace : b = ' '
  · rw [List.takeWhile_cons_of_neg (by simp [hspace]), hspace]
    exact ⟨fun _ => rfl, fun _ => rfl⟩
  · rw [List.takeWhile_cons_of_pos (by simp [hspace])]
    constructor
    · intro hcons
      exact absurd hcons (List.cons_ne_nil _ _)
    · intro hsome
      exact absurd (Option.some.inj hsome) hspace

theorem ne_empty (h : Spaced token blanks rest) : token ++ blanks ++ rest ≠ "" := by
  intro hempty
  rw [String.append_eq_empty_iff, String.append_eq_empty_iff] at hempty
  exact h.token_ne hempty.1.1

end Spaced

/-- Which scheme a value belongs to is decided by what stands before the first space. -/
theorem begins_congr {scheme value value' : String} (hne : value ≠ "") (hne' : value' ≠ "")
    (h : first value = first value') : begins scheme value = begins scheme value' := by
  rw [begins, begins, String.isEmpty_eq_false_iff.2 hne, String.isEmpty_eq_false_iff.2 hne', h]

end Token

/-! ## The log -/

namespace Registry

variable {reg : Registry} {value : String}

theorem schemeOf?_eq_none_iff :
    reg.schemeOf? (some value) = none ↔ ∀ s ∈ reg.schemes, s.identifies value = false := by
  rw [schemeOf?, List.find?_eq_none]
  exact forall₂_congr fun s _ => Bool.not_eq_true (s.identifies value) ▸ Iff.rfl

theorem unmatchedToken_some (hne : value ≠ "") :
    unmatchedToken (some value) = some (Token.first value) := by
  rw [unmatchedToken, String.isEmpty_eq_false_iff.2 hne]
  rfl

theorem log_identify_of_unmatched (hscheme : ∀ s ∈ reg.schemes, s.identifies value = false)
    (hne : value ≠ "") :
    (reg.identify (some value)).log = [.schemeUnmatched (some (Token.first value))] := by
  rw [identify, schemeOf?_eq_none_iff.2 hscheme, unmatchedToken_some hne]

end Registry

namespace Verifier

variable {v : Verifier} {clock : Clock} {lookup : String → Option Credential} {r : Request}
  {value : String}

theorem verify_of_unmatched (hscheme : ∀ s ∈ v.registry.schemes, s.identifies value = false)
    (hne : value ≠ "") :
    v.verify clock lookup r (some value) =
      reject r none .unrecognizedScheme [] [.schemeUnmatched (some (Token.first value))] := by
  have hreason : unidentified (some value) = .unrecognizedScheme := by
    rw [unidentified, Option.getD_some, String.isEmpty_eq_false_iff.2 hne]
    rfl
  rw [verify, Option.some_or,
    verifyValue_eq_reject_unidentified (Registry.schemeOf?_eq_none_iff.2 hscheme), hreason,
    Registry.unmatchedToken_some hne]

/-- Two values of which the log would show the same are not told apart. -/
theorem verify_congr_first {value' : String}
    (hscheme : ∀ s ∈ v.registry.schemes, s.identifies value = false) (hne : value ≠ "")
    (hne' : value' ≠ "") (hfirst : Token.first value = Token.first value') :
    v.verify clock lookup r (some value) = v.verify clock lookup r (some value') := by
  have hscheme' : ∀ s ∈ v.registry.schemes, s.identifies value' = false := by
    intro s hs
    rw [Scheme.identifies, ← Token.begins_congr hne hne' hfirst]
    exact hscheme s hs
  rw [verify_of_unmatched hscheme hne, verify_of_unmatched hscheme' hne', hfirst]

end Verifier

/-- **What the log says of an unmatched value.**  It shows the token with everything up to the first
space.  So it shows the token alone just when a space follows it, and then the rest of the value
makes no difference to the whole verification. -/
theorem Registry.unmatched_log (reg : Registry) {token blanks rest : String}
    (h : Token.Spaced token blanks rest)
    (hscheme : ∀ s ∈ reg.schemes, s.identifies (token ++ blanks ++ rest) = false) :
    (reg.identify (some (token ++ blanks ++ rest))).log =
        [.schemeUnmatched (some (token ++ Token.overrun blanks rest))] ∧
      ((reg.identify (some (token ++ blanks ++ rest))).log = [.schemeUnmatched (some token)] ↔
        blanks.toList.head? = some ' ') ∧
      ∀ (tolerance : Int) (clock : Clock) (lookup : String → Option Credential) (r : Request),
        ((Verifier.mk reg tolerance).verify clock lookup r
            (some (token ++ blanks ++ rest))).log =
          [.schemeUnmatched (some (token ++ Token.overrun blanks rest)),
            .requestRejected none .unrecognizedScheme r.method (.text r.path)] ∧
        ∀ blanks' rest' : String, Token.Spaced token blanks' rest' →
          blanks.toList.head? = some ' ' → blanks'.toList.head? = some ' ' →
            (Verifier.mk reg tolerance).verify clock lookup r (some (token ++ blanks ++ rest)) =
              (Verifier.mk reg tolerance).verify clock lookup r
                (some (token ++ blanks' ++ rest')) := by
  have hlog := log_identify_of_unmatched hscheme h.ne_empty
  rw [h.first_eq_overrun] at hlog
  refine ⟨hlog, ?_, fun tolerance clock lookup r => ⟨?_, fun blanks' rest' h' hb hb' => ?_⟩⟩
  · rw [hlog, ← h.overrun_eq_empty_iff]
    simp [String.append_eq_left_iff]
  · rw [Verifier.verify_of_unmatched hscheme h.ne_empty, h.first_eq_overrun]
    rfl
  · refine Verifier.verify_congr_first hscheme h.ne_empty h'.ne_empty ?_
    rw [h.first_eq_overrun, h'.first_eq_overrun, h.overrun_eq_empty_iff.2 hb,
      h'.overrun_eq_empty_iff.2 hb']

/-! A value of another scheme, with a space and a tabulator after its token.  Nothing but the token
is shown of it. -/

theorem Registry.unmatched_pair {value : String} {legacy : LegacyScheme} {current : CurrentScheme}
    (hlegacy : Token.begins LegacyScheme.token value = false)
    (hcurrent : Token.begins CurrentScheme.token value = false) :
    ∀ s ∈ (pair legacy current).schemes, s.identifies value = false := by
  intro s hs
  rcases mem_pair_iff.1 hs with rfl | rfl
  · exact hlegacy
  · exact hcurrent

theorem Token.unblank_of_all {cs : List Char} (h : cs.all (!Text.isBlank ·) = true) :
    ∀ c ∈ cs, Text.isBlank c = false := by
  simpa using h

theorem spaced_bearer : Token.Spaced "Bearer" " \t" "c2lnbmF0dXJl" where
  token_ne := by decide
  token := Token.unblank_of_all (by decide)
  blanks_ne := by decide
  blanks := List.all_eq_true.1 (by decide)
  rest := ⟨'c', "2lnbmF0dXJl".toList, by decide, by decide⟩

theorem Registry.bearer_log :
    (∀ s ∈ (pair ⟨.sha1, []⟩ ⟨.sha256, []⟩).schemes,
      s.identifies ("Bearer" ++ " \t" ++ "c2lnbmF0dXJl") = false) ∧
    ((pair ⟨.sha1, []⟩ ⟨.sha256, []⟩).identify
      (some ("Bearer" ++ " \t" ++ "c2lnbmF0dXJl"))).log = [.schemeUnmatched (some "Bearer")] := by
  have hscheme : ∀ s ∈ (pair ⟨.sha1, []⟩ ⟨.sha256, []⟩).schemes,
      s.identifies ("Bearer" ++ " \t" ++ "c2lnbmF0dXJl") = false :=
    unmatched_pair (by decide +kernel) (by decide +kernel)
  exact ⟨hscheme, (unmatched_log _ spaced_bearer hscheme).2.1.2 (by decide)⟩

/-! With a tabulator alone between them the value belongs to no scheme, and all of it is shown. -/

theorem spaced_tab : Token.Spaced "Acquia" "\t" "my-id:c2lnbmF0dXJl" where
  token_ne := by decide
  token := Token.unblank_of_all (by decide)
  blanks_ne := by decide
  blanks := List.all_eq_true.1 (by decide)
  rest := ⟨'m', "y-id:c2lnbmF0dXJl".toList, by decide, by decide⟩

theorem Registry.not_forall_log_token :
    ¬∀ (reg : Registry) (token blanks rest : String), Token.Spaced token blanks rest →
      (∀ s ∈ reg.schemes, s.identifies (token ++ blanks ++ rest) = false) →
      (reg.identify (some (token ++ blanks ++ rest))).log = [.schemeUnmatched (some token)] := by
  intro h
  have hscheme : ∀ s ∈ (pair ⟨.sha1, []⟩ ⟨.sha256, []⟩).schemes,
      s.identifies ("Acquia" ++ "\t" ++ "my-id:c2lnbmF0dXJl") = false :=
    unmatched_pair (by decide +kernel) (by decide +kernel)
  have hlog := h _ "Acquia" "\t" "my-id:c2lnbmF0dXJl" spaced_tab hscheme
  rw [log_identify_of_unmatched hscheme spaced_tab.ne_empty, spaced_tab.first_eq_overrun] at hlog
  have hshown : "Acquia" ++ Token.overrun "\t" "my-id:c2lnbmF0dXJl" = "Acquia" := by
    simpa using hlog
  exact absurd (spaced_tab.overrun_eq_empty_iff.1 (String.append_eq_left_iff.1 hshown)) (by decide)

end SignedHttp
