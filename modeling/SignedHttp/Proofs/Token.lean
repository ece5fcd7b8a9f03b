import Mathlib.Data.List.Basic
import SignedHttp.Scheme.Token
import SignedHttp.Proofs.Text

/-!
# Reading scheme tokens

A value that consists of a token, a space and something more is read as such, provided that no
blank stands at either end of it: `Token.first_eq` and `Token.credentials_eq`.  Blanks at the end
are left out: `Token.exists_credentials`.  What is appended to a value goes to the end of the
credentials: `Token.exists_credentials_append`.
-/

set_option autoImplicit false

namespace SignedHttp
namespace Token

variable {value : String} {token rest : List Char}

theorem bne_space (hspace : ' ' ∉ token) : ∀ c ∈ token, (c != ' ') = true := by
  intro c hc
  rw [bne_iff_ne]
  rintro rfl
  exact hspace hc

theorem first_eq (h : Text.trim value.toList = token ++ ' ' :: rest) (hspace : ' ' ∉ token) :
    first value = String.ofList token := by
  rw [first, h, List.takeWhile_append_of_pos (bne_space hspace),
    List.takeWhile_cons_of_neg (by simp), List.append_nil]

theorem credentials_eq (h : Text.trim value.toList = token ++ ' ' :: rest) (hspace : ' ' ∉ token) :
    credentials value = rest := by
  rw [credentials, h, List.dropWhile_append_of_pos (bne_space hspace),
    List.dropWhile_cons_of_neg (by simp)]
  rfl

/-- **What follows the token is read up to blanks at its end**, which may be all that follows. -/
theorem exists_credentials (h : value.toList = token ++ ' ' :: rest) (hne : token ≠ [])
    (htoken : ∀ c ∈ token, Text.isBlank c = false) :
    first value = String.ofList token ∧
      ∃ blanks, rest = credentials value ++ blanks ∧ ∀ c ∈ blanks, Text.isBlank c = true := by
  have hspace : ' ' ∉ token := fun hmem => absurd (htoken ' ' hmem) (by decide)
  have htrim : Text.trim value.toList = token ++ Text.trimEnd (' ' :: rest) := by
    rw [h, Text.trim_append hne htoken]
  obtain ⟨blanks, hrest, hblanks⟩ := Text.exists_trimEnd (' ' :: rest)
  cases hend : Text.trimEnd (' ' :: rest) with
  | nil =>
    rw [hend] at htrim
    rw [hend, List.nil_append] at hrest
    have hfirst : first value = String.ofList token := by
      rw [first, htrim, List.takeWhile_append_of_pos (bne_space hspace), List.takeWhile_nil,
        List.append_nil]
    have hcredentials : credentials value = [] := by
      rw [credentials, htrim, List.dropWhile_append_of_pos (bne_space hspace), List.dropWhile_nil,
        List.drop_nil]
    refine ⟨hfirst, rest, by rw [hcredentials, List.nil_append], fun c hc => hblanks c ?_⟩
    rw [← hrest]
    exact List.mem_cons_of_mem ' ' hc
  | cons c kept =>
    rw [hend] at htrim hrest
    obtain ⟨rfl, hkept⟩ := List.cons.inj hrest
    exact ⟨first_eq htrim hspace, blanks, by rw [credentials_eq htrim hspace]; exact hkept, hblanks⟩

/-! ## Appending -/

variable {suffix : String}

/-- A value with something in it is trimmed to what it was, with the blanks that were at its end. -/
theorem exists_trim_append (hvalue : Text.trim value.toList ≠ []) (hsuffix : suffix ≠ "")
    (hlast : ∀ c ∈ suffix.toList.getLast?, Text.isBlank c = false) :
    ∃ blanks, Text.trim (value ++ suffix).toList =
      Text.trim value.toList ++ (blanks ++ suffix.toList) ∧
        ∀ c ∈ blanks, Text.isBlank c = true := by
  obtain ⟨blanks, hend, hblanks⟩ := Text.exists_trimEnd (Text.trimStart value.toList)
  have hstart : Text.trimStart (value ++ suffix).toList =
      Text.trimStart value.toList ++ suffix.toList := by
    have hne : Text.trimStart value.toList ≠ [] := by
      intro hnil
      exact hvalue (by rw [Text.trim, hnil]; rfl)
    rw [String.toList_append, Text.trimStart, List.dropWhile_append, if_neg]
    · rfl
    · rwa [List.isEmpty_iff]
  refine ⟨blanks, ?_, hblanks⟩
  rw [Text.trim, hstart, Text.trimEnd_eq_self, ← List.append_assoc, Text.trim, ← hend]
  rw [List.getLast?_append_of_ne_nil _ (by simpa using hsuffix)]
  exact hlast

/-- **What is appended to a value goes to the end of its credentials**, and the token stays. -/
theorem exists_credentials_append (hvalue : credentials value ≠ []) (hsuffix : suffix ≠ "")
    (hlast : ∀ c ∈ suffix.toList.getLast?, Text.isBlank c = false) :
    first (value ++ suffix) = first value ∧
      ∃ blanks, credentials (value ++ suffix) = credentials value ++ (blanks ++ suffix.toList) ∧
        ∀ c ∈ blanks, Text.isBlank c = true := by
  have hrest : (Text.trim value.toList).dropWhile (· != ' ') ≠ [] := by
    intro hnil
    exact hvalue (by rw [credentials, hnil]; rfl)
  have htrim : Text.trim value.toList ≠ [] := by
    intro hnil
    exact hrest (by rw [hnil]; rfl)
  obtain ⟨blanks, happend, hblanks⟩ := exists_trim_append htrim hsuffix hlast
  have hshort : ((Text.trim value.toList).takeWhile (· != ' ')).length ≠
      (Text.trim value.toList).length := by
    have hsplit := congrArg List.length
      (List.takeWhile_append_dropWhile (p := (· != ' ')) (l := Text.trim value.toList))
    rw [List.length_append] at hsplit
    have hpos := List.length_pos_iff.2 hrest
    omega
  refine ⟨?_, blanks, ?_, hblanks⟩
  · rw [first, happend, List.takeWhile_append, if_neg hshort, first]
  · rw [credentials, happend, List.dropWhile_append, if_neg (by simpa using hrest),
      List.drop_append_of_le_length (List.length_pos_iff.2 hrest), credentials]

end Token
end SignedHttp
