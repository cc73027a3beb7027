/-
# UTF-8

Bytes are decoded one character at a time: a leading byte says how many bytes
follow, each follower carries six bits, and the code point must be a character
that needs so many bytes.  Where no character begins, decoding stops and tells
how many bytes were good.
-/

namespace RecordQuery.Text.Utf8

/-- The character with a code point that is not below `least`. -/
def scalar? (least code : Nat) : Option Char :=
  if least ≤ code ∧ code.isValidChar then some (Char.ofNat code) else none

/-- The code point that `code` begins and so many followers complete, and the bytes
after them. -/
def followers : Nat → Nat → List UInt8 → Option (Nat × List UInt8)
  | 0, code, bytes => some (code, bytes)
  | _ + 1, _, [] => none
  | n + 1, code, b :: bytes =>
      if 0x80 ≤ b.toNat ∧ b.toNat < 0xC0 then followers n (64 * code + (b.toNat - 0x80)) bytes
      else none

theorem length_followers : ∀ {n code : Nat} {bytes : List UInt8} {code' : Nat}
    {rest : List UInt8}, followers n code bytes = some (code', rest) →
      rest.length ≤ bytes.length
  | 0, _, _, _, _, h => by
      simp only [followers, Option.some.injEq, Prod.mk.injEq] at h
      simp [← h.2]
  | _ + 1, _, [], _, _, h => by simp [followers] at h
  | n + 1, _, b :: bytes, _, _, h => by
      unfold followers at h
      split at h
      · exact Nat.le_succ_of_le (length_followers h)
      · cases h

/-- How many followers a leading byte has, the bits that it carries, and the least
code point that needs so many bytes. -/
def leading (b : Nat) : Option (Nat × Nat × Nat) :=
  if b < 0x80 then some (0, b, 0)
  else if b < 0xC0 then none
  else if b < 0xE0 then some (1, b - 0xC0, 0x80)
  else if b < 0xF0 then some (2, b - 0xE0, 0x800)
  else if b < 0xF8 then some (3, b - 0xF0, 0x10000)
  else none

/-- The character that begins with a byte, and the bytes after it. -/
def character (b : UInt8) (bytes : List UInt8) : Option (Char × List UInt8) :=
  match leading b.toNat with
  | none => none
  | some (count, bits, least) =>
      match followers count bits bytes with
      | none => none
      | some (code, rest) => (scalar? least code).map fun c => (c, rest)

theorem length_character {b : UInt8} {bytes : List UInt8} {c : Char} {rest : List UInt8}
    (h : character b bytes = some (c, rest)) : rest.length ≤ bytes.length := by
  unfold character at h
  split at h
  · cases h
  · split at h
    · cases h
    · rename_i hfollow
      obtain ⟨_, _, heq⟩ := Option.map_eq_some_iff.mp h
      rw [← (Prod.mk.inj heq).2]
      exact length_followers hfollow

/-- The characters of bytes of which `good` have been decoded before, or the number
of good bytes. -/
def decodeFrom (good : Nat) (bytes : List UInt8) : Except Nat (List Char) :=
  match bytes with
  | [] => .ok []
  | b :: bytes =>
      match h : character b bytes with
      | none => .error good
      | some (c, rest) =>
          have := length_character h
          (decodeFrom (good + (bytes.length + 1 - rest.length)) rest).map (c :: ·)
termination_by bytes.length

/-- The characters of bytes, or the number of bytes before the first that begins no
character. -/
def decode (bytes : List UInt8) : Except Nat (List Char) :=
  decodeFrom 0 bytes

end RecordQuery.Text.Utf8
