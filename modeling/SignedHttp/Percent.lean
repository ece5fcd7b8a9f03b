import SignedHttp.Text.Hex

/-!
# Percent-encoding

Text is written with letters, digits and four marks as they are, and each octet of everything
else as a percent sign and two upper-case hexadecimal digits.

* `Percent.encode`: the written form; `Percent.encodePlus` writes a space as a plus sign.
* `Percent.decode`: reads it back. Every maximal run of ASCII characters is decoded on its own, and
  a percent sign without two digits stands for itself.

Decoding gives back what was encoded (`decode_encode`).
-/

set_option autoImplicit false

namespace SignedHttp
namespace Percent

/-- The characters that are never escaped. -/
def isUnreserved (c : Char) : Bool :=
  c.isAlphanum || c == '_' || c == '.' || c == '-' || c == '~'

def encodeByte (b : UInt8) : List Char :=
  ['%', Hex.upperDigit (b.toNat / 16), Hex.upperDigit (b.toNat % 16)]

def encodeChar (c : Char) : List Char :=
  if isUnreserved c then [c] else (String.utf8EncodeChar c).flatMap encodeByte

def encodeList (cs : List Char) : List Char := cs.flatMap encodeChar

def encode (s : String) : String := String.ofList (encodeList s.toList)

def encodePlusList (cs : List Char) : List Char :=
  cs.flatMap fun c => if c = ' ' then ['+'] else encodeChar c

def encodePlus (s : String) : String := String.ofList (encodePlusList s.toList)

/-- Decodes with the octets of the run read so far at hand, latest first. -/
def decodeFrom (run : Octets) : List Char → List Char
  | [] => Utf8.decodeLossy run.reverse
  | '%' :: high :: low :: rest =>
    match Hex.value? high, Hex.value? low with
    | some x, some y => decodeFrom (UInt8.ofNat (x * 16 + y) :: run) rest
    | _, _ => decodeFrom (0x25 :: run) (high :: low :: rest)
  | c :: rest =>
    if c.toNat < 128 then decodeFrom (UInt8.ofNat c.toNat :: run) rest
    else Utf8.decodeLossy run.reverse ++ c :: decodeFrom [] rest

def decodeList (cs : List Char) : List Char := decodeFrom [] cs

def decode (s : String) : String := String.ofList (decodeList s.toList)

/-! ## Reading what was written -/

theorem decodeFrom_encodeByte (run : Octets) (b : UInt8) (rest : List Char) :
    decodeFrom run (encodeByte b ++ rest) = decodeFrom (b :: run) rest := by
  have hb : b.toNat < 256 := b.toNat_lt
  have h : UInt8.ofNat (b.toNat / 16 * 16 + b.toNat % 16) = b := by
    rw [Nat.div_add_mod']; exact UInt8.ofNat_toNat
  change decodeFrom run ('%' :: Hex.upperDigit _ :: Hex.upperDigit _ :: rest) = _
  rw [decodeFrom, Hex.value?_upperDigit _ (by omega), Hex.value?_upperDigit _ (by omega)]
  simp only [h]

theorem decodeFrom_encodeBytes (run bytes : Octets) (rest : List Char) :
    decodeFrom run (bytes.flatMap encodeByte ++ rest) = decodeFrom (bytes.reverse ++ run) rest := by
  induction bytes generalizing run with
  | nil => rfl
  | cons b bytes ih =>
    rw [List.flatMap_cons, List.append_assoc, decodeFrom_encodeByte, ih, List.reverse_cons,
      List.append_assoc, List.singleton_append]

theorem toNat_lt_of_isUnreserved {c : Char} (h : isUnreserved c = true) : c.toNat < 128 := by
  delta isUnreserved Char.isAlphanum Char.isAlpha Char.isUpper Char.isLower Char.isDigit at h
  simp only [Bool.or_eq_true, Bool.and_eq_true, decide_eq_true_eq, beq_iff_eq,
    UInt32.le_iff_toNat_le] at h
  have hc : c.toNat = c.val.toNat := rfl
  rcases h with (((h | rfl) | rfl) | rfl) | rfl
  · rcases h with (h | h) | h <;> (simp at h; omega)
  all_goals decide

theorem decodeFrom_of_isUnreserved (run : Octets) {c : Char} (h : isUnreserved c = true)
    (rest : List Char) :
    decodeFrom run (c :: rest) = decodeFrom (UInt8.ofNat c.toNat :: run) rest := by
  have hc : c ≠ '%' := fun hc => absurd (hc ▸ h) (by decide)
  rw [decodeFrom, if_pos (toNat_lt_of_isUnreserved h)]
  intro high low tail hcs
  exact absurd hcs hc

theorem decodeFrom_encodeChar (run : Octets) (c : Char) (rest : List Char) :
    decodeFrom run (encodeChar c ++ rest) =
      decodeFrom ((String.utf8EncodeChar c).reverse ++ run) rest := by
  rw [encodeChar]
  split
  · next h =>
    have hc := toNat_lt_of_isUnreserved h
    have hu : String.utf8EncodeChar c = [UInt8.ofNat c.toNat] := by
      unfold String.utf8EncodeChar
      exact if_pos (Nat.le_of_lt_succ hc)
    rw [List.singleton_append, decodeFrom_of_isUnreserved run h, hu]
    rfl
  · exact decodeFrom_encodeBytes run _ rest

/-- Text that is written character by character is read back, if each character is. -/
theorem decodeFrom_flatMap {write : Char → List Char}
    (hread : ∀ run c rest, decodeFrom run (write c ++ rest) =
      decodeFrom ((String.utf8EncodeChar c).reverse ++ run) rest)
    (run : Octets) (cs rest : List Char) :
    decodeFrom run (cs.flatMap write ++ rest) =
      decodeFrom ((Utf8.encodeList cs).reverse ++ run) rest := by
  induction cs generalizing run with
  | nil => rfl
  | cons c cs ih =>
    rw [List.flatMap_cons, List.append_assoc, hread, ih, Utf8.encodeList, Utf8.encodeList,
      List.flatMap_cons, List.reverse_append, List.append_assoc]

theorem decodeFrom_encodeList (run : Octets) (cs rest : List Char) :
    decodeFrom run (encodeList cs ++ rest) =
      decodeFrom ((Utf8.encodeList cs).reverse ++ run) rest :=
  decodeFrom_flatMap decodeFrom_encodeChar run cs rest

theorem decodeList_encodeList (cs : List Char) : decodeList (encodeList cs) = cs := by
  have h := decodeFrom_encodeList [] cs []
  rwa [List.append_nil, List.append_nil, decodeFrom, List.reverse_reverse,
    Utf8.decodeLossy_encodeList] at h

/-- Every text survives percent-encoding. -/
theorem decode_encode (s : String) : decode (encode s) = s := by
  rw [decode, encode, String.toList_ofList, decodeList_encodeList, String.ofList_toList]

end Percent
end SignedHttp
