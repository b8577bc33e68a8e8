import Mathlib.Tactic.Common
import SshTunnel.Bytes.Base64
import SshTunnel.Text.Blank

/-!
Base64 there and back.  What is written of some bytes has no blanks in it and is read as these bytes, by every
one of the readers.
-/

namespace SshTunnel.Base64

open Text

/-! ### What is written -/

/-- What holds of the digits and of the padding holds of everything that is written. -/
theorem forall_mem_encode {p : Char → Prop} (hdigit : ∀ n, p (digit n)) (hpad : p '=') :
    ∀ {b : Bytes} {c : Char}, c ∈ encode b → p c
  | [], c, h => by simp [encode] at h
  | [x], c, h => by
    simp only [encode, List.mem_cons, List.not_mem_nil, or_false] at h
    rcases h with rfl | rfl | rfl | rfl
    · exact hdigit _
    · exact hdigit _
    · exact hpad
    · exact hpad
  | [x, y], c, h => by
    simp only [encode, List.mem_cons, List.not_mem_nil, or_false] at h
    rcases h with rfl | rfl | rfl | rfl
    · exact hdigit _
    · exact hdigit _
    · exact hdigit _
    · exact hpad
  | x :: y :: z :: rest, c, h => by
    simp only [encode, List.mem_cons] at h
    rcases h with rfl | rfl | rfl | rfl | h
    · exact hdigit _
    · exact hdigit _
    · exact hdigit _
    · exact hdigit _
    · exact forall_mem_encode hdigit hpad h

theorem digit_of_le {n : Nat} (h : 63 ≤ n) : digit n = '/' := by
  unfold digit
  rw [if_neg (by omega), if_neg (by omega), if_neg (by omega), if_neg (by omega)]

theorem isBlank_digit (n : Nat) : isBlank (digit n) = false := by
  by_cases h : n < 63
  · revert n
    decide
  · rw [digit_of_le (by omega)]
    decide

theorem digit_ne_hash (n : Nat) : digit n ≠ '#' := by
  by_cases h : n < 63
  · revert n
    decide
  · rw [digit_of_le (by omega)]
    decide

theorem isBlank_of_mem_encode {b : Bytes} {c : Char} (h : c ∈ encode b) : isBlank c = false :=
  forall_mem_encode (p := fun c => isBlank c = false) isBlank_digit (by decide) h

theorem encode_ne_nil {b : Bytes} (h : b ≠ []) : encode b ≠ [] := by
  match b, h with
  | [x], _ => simp [encode]
  | [x, y], _ => simp [encode]
  | x :: y :: z :: rest, _ => simp [encode]

/-! ### Reading it -/

theorem digit_ne_pad {n : Nat} (h : n < 64) : digit n ≠ '=' := by
  intro hpad
  have hvalue : value? '=' = some n := hpad ▸ value?_digit h
  have hnone : value? '=' = none := by decide
  rw [hnone] at hvalue
  cases hvalue

theorem byte_eq {n : Nat} {x : UInt8} (h : n % 256 = x.toNat) : UInt8.ofNat n = x := by
  apply UInt8.toNat_inj.1
  simpa using h

section Groups

variable (loose : Bool) (x y z : UInt8)

theorem group?_one :
    group? loose (digit (x.toNat / 4)) (digit (x.toNat % 4 * 16)) '=' '=' = some [x] := by
  have hx := x.toNat_lt
  have h1 : x.toNat / 4 < 64 := by omega
  have h2 : x.toNat % 4 * 16 < 64 := by omega
  have hbits : x.toNat % 4 * 16 % 16 = 0 := by omega
  have hbyte : UInt8.ofNat (x.toNat / 4 * 4 + x.toNat % 4 * 16 / 16) = x := byte_eq (by omega)
  simp only [group?, value?_digit h1, value?_digit h2, Option.bind_eq_bind, Option.bind_some, hbits,
    hbyte, if_true, or_true, and_self]

theorem group?_two : group? loose (digit (x.toNat / 4)) (digit (x.toNat % 4 * 16 + y.toNat / 16))
    (digit (y.toNat % 16 * 4)) '=' = some [x, y] := by
  have hx := x.toNat_lt
  have hy := y.toNat_lt
  have h1 : x.toNat / 4 < 64 := by omega
  have h2 : x.toNat % 4 * 16 + y.toNat / 16 < 64 := by omega
  have h3 : y.toNat % 16 * 4 < 64 := by omega
  have hbits : y.toNat % 16 * 4 % 4 = 0 := by omega
  have hfirst : UInt8.ofNat (x.toNat / 4 * 4 + (x.toNat % 4 * 16 + y.toNat / 16) / 16) = x :=
    byte_eq (by omega)
  have hsecond : UInt8.ofNat ((x.toNat % 4 * 16 + y.toNat / 16) % 16 * 16 + y.toNat % 16 * 4 / 4) = y :=
    byte_eq (by omega)
  simp only [group?, value?_digit h1, value?_digit h2, value?_digit h3, Option.bind_eq_bind,
    Option.bind_some, if_neg (digit_ne_pad h3), hbits, hfirst, hsecond, if_true, or_true]

theorem group?_three : group? loose (digit (x.toNat / 4)) (digit (x.toNat % 4 * 16 + y.toNat / 16))
    (digit (y.toNat % 16 * 4 + z.toNat / 64)) (digit (z.toNat % 64)) = some [x, y, z] := by
  have hx := x.toNat_lt
  have hy := y.toNat_lt
  have hz := z.toNat_lt
  have h1 : x.toNat / 4 < 64 := by omega
  have h2 : x.toNat % 4 * 16 + y.toNat / 16 < 64 := by omega
  have h3 : y.toNat % 16 * 4 + z.toNat / 64 < 64 := by omega
  have h4 : z.toNat % 64 < 64 := by omega
  have hfirst : UInt8.ofNat (x.toNat / 4 * 4 + (x.toNat % 4 * 16 + y.toNat / 16) / 16) = x :=
    byte_eq (by omega)
  have hsecond : UInt8.ofNat ((x.toNat % 4 * 16 + y.toNat / 16) % 16 * 16 +
      (y.toNat % 16 * 4 + z.toNat / 64) / 4) = y := byte_eq (by omega)
  have hthird : UInt8.ofNat ((y.toNat % 16 * 4 + z.toNat / 64) % 4 * 64 + z.toNat % 64) = z :=
    byte_eq (by omega)
  simp only [group?, value?_digit h1, value?_digit h2, value?_digit h3, value?_digit h4,
    Option.bind_eq_bind, Option.bind_some, if_neg (digit_ne_pad h3), if_neg (digit_ne_pad h4), hfirst,
    hsecond, hthird]

/-- **What is written of some bytes is read as these bytes.** -/
theorem groups?_encode (joined : Bool) : ∀ b : Bytes, groups? loose joined (encode b) = some b
  | [] => rfl
  | [x] => by simp [encode, groups?, group?_one]
  | [x, y] => by simp [encode, groups?, group?_two]
  | x :: y :: z :: rest => by
    have hpad : digit (z.toNat % 64) ≠ '=' := digit_ne_pad (by omega)
    simp [encode, groups?, group?_three, hpad, groups?_encode joined rest]

end Groups

theorem decodeGroups?_encode (b : Bytes) : decodeGroups? (encode b) = some b := by
  have hends : (encode b).filter (fun c => c ≠ '\r' ∧ c ≠ '\n') = encode b := by
    refine List.filter_eq_self.2 fun c hc => ?_
    have hblank := isBlank_of_mem_encode hc
    simp only [decide_eq_true_eq]
    constructor
    · rintro rfl
      exact absurd hblank (by decide)
    · rintro rfl
      exact absurd hblank (by decide)
  rw [decodeGroups?, hends, groups?_encode]

end SshTunnel.Base64
