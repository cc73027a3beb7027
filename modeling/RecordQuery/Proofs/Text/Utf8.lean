/-
# Bytes of a text are decoded as the text

The bytes of a character are a leading byte and up to three followers:

    below 0x80       x₀
    below 0x800      0xC0 + x₁   0x80 + x₀
    below 0x10000    0xE0 + x₂   0x80 + x₁   0x80 + x₀
    any other        0xF0 + x₃   0x80 + x₂   0x80 + x₁   0x80 + x₀

where the `xᵢ` are the digits of the code point to the base 64.  `character` takes just
these bytes away from what is behind them (`character_encoded`), so a text is decoded
character by character (`decode_toUTF8`).
-/
import RecordQuery.Text.Utf8

namespace RecordQuery.Text.Utf8

/-! ## One character -/

theorem toNat_lt (c : Char) : c.toNat < 0x110000 := by
  have h := c.valid
  simp only [UInt32.isValidChar, Nat.isValidChar] at h
  show c.val.toNat < 0x110000
  omega

theorem toNat_byte {n : Nat} (h : n < 256) : (UInt8.ofNat n).toNat = n := by
  rw [UInt8.toNat_ofNat']
  exact Nat.mod_eq_of_lt h

theorem leading_two {x : Nat} (hx : x < 32) : leading (x + 192) = some (1, x, 0x80) := by
  rw [leading, if_neg (by omega), if_neg (by omega), if_pos (by omega), Nat.add_sub_cancel]

theorem leading_three {x : Nat} (hx : x < 16) : leading (x + 224) = some (2, x, 0x800) := by
  rw [leading, if_neg (by omega), if_neg (by omega), if_neg (by omega), if_pos (by omega),
    Nat.add_sub_cancel]

theorem leading_four {x : Nat} (hx : x < 8) : leading (x + 240) = some (3, x, 0x10000) := by
  rw [leading, if_neg (by omega), if_neg (by omega), if_neg (by omega), if_neg (by omega),
    if_pos (by omega), Nat.add_sub_cancel]

/-- A follower adds a digit. -/
theorem followers_digit {x : Nat} (hx : x < 64) (n code : Nat) (bytes : List UInt8) :
    followers (n + 1) code (UInt8.ofNat (x + 128) :: bytes)
      = followers n (64 * code + x) bytes := by
  have hbyte : (UInt8.ofNat (x + 128)).toNat = x + 128 := toNat_byte (by omega)
  rw [followers, hbyte, if_pos (by omega), Nat.add_sub_cancel]

theorem character_of_followers {b count bits least code : Nat} {bytes rest : List UInt8} {c : Char}
    (hb : b < 256) (hleading : leading b = some (count, bits, least))
    (hfollowers : followers count bits bytes = some (code, rest)) (hcode : code = c.toNat)
    (hleast : least ≤ code) : character (UInt8.ofNat b) bytes = some (c, rest) := by
  subst hcode
  have hscalar : scalar? least c.toNat = some c := by
    rw [scalar?, if_pos ⟨hleast, c.valid⟩, Char.ofNat_toNat]
  simp only [character, toNat_byte hb, hleading, hfollowers, hscalar, Option.map_some]

/-- The bytes of a character, whatever is behind them. -/
theorem character_encoded (c : Char) (rest : List UInt8) :
    ∃ b bytes, String.utf8EncodeChar c = b :: bytes
      ∧ character b (bytes ++ rest) = some (c, rest) := by
  obtain ⟨v, hv⟩ : ∃ v, v = c.toNat := ⟨_, rfl⟩
  have hlt : v < 0x110000 := hv ▸ toNat_lt c
  have hval : c.val.toNat = v := hv.symm
  rw [String.utf8EncodeChar, hval]
  split
  · exact ⟨_, [], rfl, character_of_followers (by omega) (if_pos (by omega)) rfl hv (by omega)⟩
  split
  · refine ⟨_, [_], rfl, ?_⟩
    have hdigits : followers 1 (v / 64 % 32) (UInt8.ofNat (v % 64 + 128) :: rest)
        = some (v, rest) := by
      rw [followers_digit (by omega), followers, show 64 * (v / 64 % 32) + v % 64 = v by omega]
    exact character_of_followers (by omega) (leading_two (by omega)) hdigits hv (by omega)
  split
  · refine ⟨_, [_, _], rfl, ?_⟩
    have hdigits : followers 2 (v / 4096 % 16)
        (UInt8.ofNat (v / 64 % 64 + 128) :: UInt8.ofNat (v % 64 + 128) :: rest)
        = some (v, rest) := by
      rw [followers_digit (by omega), followers_digit (by omega), followers,
        show 64 * (64 * (v / 4096 % 16) + v / 64 % 64) + v % 64 = v by omega]
    exact character_of_followers (by omega) (leading_three (by omega)) hdigits hv (by omega)
  · refine ⟨_, [_, _, _], rfl, ?_⟩
    have hdigits : followers 3 (v / 262144 % 8)
        (UInt8.ofNat (v / 4096 % 64 + 128) :: UInt8.ofNat (v / 64 % 64 + 128)
          :: UInt8.ofNat (v % 64 + 128) :: rest) = some (v, rest) := by
      rw [followers_digit (by omega), followers_digit (by omega), followers_digit (by omega),
        followers, show 64 * (64 * (64 * (v / 262144 % 8) + v / 4096 % 64) + v / 64 % 64)
          + v % 64 = v by omega]
    exact character_of_followers (by omega) (leading_four (by omega)) hdigits hv (by omega)

/-! ## A text -/

theorem decodeFrom_flatMap : ∀ (good : Nat) (cs : List Char),
    decodeFrom good (cs.flatMap String.utf8EncodeChar) = .ok cs
  | good, [] => by
      rw [List.flatMap_nil, decodeFrom]
  | good, c :: cs => by
      obtain ⟨b, bytes, hbytes, hcharacter⟩ :=
        character_encoded c (cs.flatMap String.utf8EncodeChar)
      rw [List.flatMap_cons, hbytes, List.cons_append, decodeFrom]
      split
      · rename_i hnone
        rw [hcharacter] at hnone
        cases hnone
      · rename_i c' rest hsome
        rw [hcharacter] at hsome
        cases hsome
        rw [decodeFrom_flatMap]
        rfl

/-- The bytes of an array, read off from place `n` on. -/
theorem toList_loop (bytes : ByteArray) (n : Nat) (done : List UInt8) :
    ByteArray.toList.loop bytes n done = done.reverse ++ bytes.data.toList.drop n := by
  fun_induction ByteArray.toList.loop bytes n done with
  | case1 n done hn ih =>
      have hlength : n < bytes.data.toList.length := by
        rw [Array.length_toList]
        exact hn
      have hbyte : bytes.get! n = bytes.data.toList[n] := by
        rw [Array.getElem_toList]
        exact getElem!_pos bytes.data n hn
      rw [ih, List.drop_eq_getElem_cons hlength, List.reverse_cons, List.append_assoc, hbyte,
        List.singleton_append]
  | case2 n done hn =>
      rw [List.drop_eq_nil_of_le, List.append_nil]
      rw [Array.length_toList]
      exact Nat.le_of_not_lt hn

theorem toList_toUTF8 (cs : List Char) :
    (String.ofList cs).toUTF8.toList = cs.flatMap String.utf8EncodeChar := by
  show (String.ofList cs).toByteArray.toList = _
  rw [ByteArray.toList, toList_loop, String.toByteArray_ofList, List.utf8Encode,
    List.toList_data_toByteArray]
  rfl

/-- Decoding is the inverse of writing a text down in bytes. -/
theorem decode_toUTF8 (cs : List Char) : decode (String.ofList cs).toUTF8.toList = .ok cs := by
  rw [toList_toUTF8]
  exact decodeFrom_flatMap 0 cs

end RecordQuery.Text.Utf8
