import Mathlib.Data.List.Basic

/-!
# Lossy UTF-8 decoding

`fromUtf8Lossy` follows `String::from_utf8_lossy`: each maximal invalid part of
the input becomes one replacement character. On the encoding of a string it is
the identity.
-/

namespace CudaTrace.Base

/-- The UTF-8 bytes of a string. -/
def utf8Bytes (s : String) : List UInt8 := s.toList.flatMap String.utf8EncodeChar

def isContinuation (b : UInt8) : Bool := 0x80 ≤ b && b ≤ 0xbf

/-- Whether `second` may follow the first byte of a three or four byte sequence. -/
def secondByteOk (lead second : UInt8) : Bool :=
  if lead = 0xe0 then 0xa0 ≤ second && second ≤ 0xbf
  else if lead = 0xed then 0x80 ≤ second && second ≤ 0x9f
  else if 0xe1 ≤ lead && lead ≤ 0xef then isContinuation second
  else if lead = 0xf0 then 0x90 ≤ second && second ≤ 0xbf
  else if 0xf1 ≤ lead && lead ≤ 0xf3 then isContinuation second
  else if lead = 0xf4 then 0x80 ≤ second && second ≤ 0x8f
  else false

/-- Length of the maximal invalid part that starts with `lead`. -/
def invalidLen (lead : UInt8) (rest : List UInt8) : ℕ :=
  if secondByteOk lead (rest.getD 0 0) then
    if 0xf0 ≤ lead && isContinuation (rest.getD 1 0) then 3 else 2
  else 1

/-- The decoding loop; `fuel` bounds the number of characters. -/
def lossyChars : ℕ → List UInt8 → List Char
  | 0, _ => []
  | _ + 1, [] => []
  | fuel + 1, b :: rest =>
    match (b :: rest).toByteArray.utf8DecodeChar? 0 with
    | some c => c :: lossyChars fuel ((b :: rest).drop c.utf8Size)
    | none => '\uFFFD' :: lossyChars fuel ((b :: rest).drop (invalidLen b rest))

/-- `String::from_utf8_lossy`. -/
def fromUtf8Lossy (bytes : List UInt8) : String := String.ofList (lossyChars bytes.length bytes)

theorem lossyChars_encode (c : Char) (bytes : List UInt8) (fuel : ℕ) :
    lossyChars (fuel + 1) (String.utf8EncodeChar c ++ bytes) = c :: lossyChars fuel bytes := by
  have hlen : (String.utf8EncodeChar c).length = c.utf8Size := String.length_utf8EncodeChar c
  have hdec : (String.utf8EncodeChar c ++ bytes).toByteArray.utf8DecodeChar? 0 = some c := by
    rw [List.toByteArray_append]
    exact ByteArray.utf8DecodeChar?_utf8EncodeChar_append
  cases henc : String.utf8EncodeChar c with
  | nil => exact absurd henc String.utf8EncodeChar_ne_nil
  | cons b rest =>
    rw [henc, List.cons_append] at hdec
    have hdrop : (b :: (rest ++ bytes)).drop c.utf8Size = bytes := by
      rw [← List.cons_append, ← henc, ← hlen, List.drop_left]
    simp only [List.cons_append, lossyChars, hdec, hdrop]

theorem lossyChars_flatMap (cs : List Char) (fuel : ℕ) (h : cs.length ≤ fuel) :
    lossyChars fuel (cs.flatMap String.utf8EncodeChar) = cs := by
  induction cs generalizing fuel with
  | nil => cases fuel <;> rfl
  | cons c cs ih =>
    cases fuel with
    | zero => simp at h
    | succ fuel =>
      rw [List.flatMap_cons, lossyChars_encode, ih fuel (by simpa using h)]

theorem length_le_flatMap_encode (cs : List Char) :
    cs.length ≤ (cs.flatMap String.utf8EncodeChar).length := by
  induction cs with
  | nil => simp
  | cons c cs ih =>
    have hc := c.utf8Size_pos
    rw [List.flatMap_cons, List.length_append, String.length_utf8EncodeChar, List.length_cons]
    omega

/-- Decoding the bytes of a string gives the string back. -/
theorem fromUtf8Lossy_utf8Bytes (s : String) : fromUtf8Lossy (utf8Bytes s) = s := by
  unfold fromUtf8Lossy utf8Bytes
  rw [lossyChars_flatMap s.toList _ (length_le_flatMap_encode s.toList), String.ofList_toList]

end CudaTrace.Base
