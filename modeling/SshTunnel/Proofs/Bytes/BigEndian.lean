import Mathlib.Tactic.Common
import Mathlib.Tactic.Ring
import SshTunnel.Bytes.Basic

/-!
Numbers in bytes.  What is written of a number is read back as far as the bytes go, and bytes are what is
written of the number that they stand for.
-/

namespace SshTunnel.Bytes

/-! ### The number of some bytes -/

theorem foldl_toNat (n : Nat) : ∀ b : Bytes,
    b.foldl (fun n x => n * 256 + x.toNat) n = n * 256 ^ b.length + toNat b
  | [] => by simp [toNat]
  | x :: b => by
    rw [List.foldl_cons, foldl_toNat _ b, List.length_cons]
    show _ = _ + b.foldl _ (0 * 256 + x.toNat)
    rw [foldl_toNat _ b]
    ring

theorem toNat_cons (x : UInt8) (b : Bytes) : toNat (x :: b) = x.toNat * 256 ^ b.length + toNat b := by
  rw [toNat, List.foldl_cons, foldl_toNat]
  simp

theorem toNat_lt : ∀ b : Bytes, toNat b < 256 ^ b.length
  | [] => by simp [toNat]
  | x :: b => by
    have hx : x.toNat + 1 ≤ 256 := x.toNat_lt
    calc toNat (x :: b) = x.toNat * 256 ^ b.length + toNat b := toNat_cons x b
      _ < x.toNat * 256 ^ b.length + 256 ^ b.length := Nat.add_lt_add_left (toNat_lt b) _
      _ = (x.toNat + 1) * 256 ^ b.length := by ring
      _ ≤ 256 * 256 ^ b.length := Nat.mul_le_mul_right _ hx
      _ = 256 ^ (x :: b).length := by rw [List.length_cons]; ring

/-! ### Writing and reading -/

/-- The last bytes of a number are all that is written of it. -/
theorem toNat_ofNat (n : Nat) : ∀ len : Nat, toNat (ofNat len n) = n % 256 ^ len
  | 0 => by simp [ofNat, toNat, Nat.mod_one]
  | len + 1 => by
    rw [ofNat, toNat_cons, length_ofNat, toNat_ofNat n len, Nat.mod_pow_succ, UInt8.toNat_ofNat']
    show n / 256 ^ len % 2 ^ 8 * 256 ^ len + n % 256 ^ len = _
    ring

theorem ofNat_mul_add (c n : Nat) : ∀ len : Nat, ofNat len (c * 256 ^ len + n) = ofNat len n
  | 0 => rfl
  | len + 1 => by
    have hpos : 0 < 256 ^ len := Nat.pow_pos (by decide)
    have hsplit : c * 256 ^ (len + 1) + n = c * 256 * 256 ^ len + n := by ring
    have hhead : (c * 256 * 256 ^ len + n) / 256 ^ len = c * 256 + n / 256 ^ len := by
      rw [Nat.add_comm, Nat.add_mul_div_right _ _ hpos, Nat.add_comm]
    rw [hsplit, ofNat, ofNat_mul_add, ofNat]
    show UInt8.ofNat ((c * 256 * 256 ^ len + n) / 256 ^ len) :: _ = UInt8.ofNat (n / 256 ^ len) :: _
    rw [hhead]
    congr 1
    apply UInt8.toNat_inj.1
    simp

theorem ofNat_toNat : ∀ b : Bytes, ofNat b.length (toNat b) = b
  | [] => rfl
  | x :: b => by
    have hpos : 0 < 256 ^ b.length := Nat.pow_pos (by decide)
    rw [List.length_cons, ofNat, toNat_cons, ofNat_mul_add, ofNat_toNat b]
    show UInt8.ofNat ((x.toNat * 256 ^ b.length + toNat b) / 256 ^ b.length) :: b = x :: b
    rw [Nat.add_comm, Nat.add_mul_div_right _ _ hpos, Nat.div_eq_of_lt (toNat_lt b)]
    simp

end SshTunnel.Bytes
