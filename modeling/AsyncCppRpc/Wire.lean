import Mathlib.Data.List.Basic
import Mathlib.Algebra.Group.Nat.Basic

namespace AsyncCppRpc.Wire

/-- `std::vector<std::byte>`: the `payload_t` of a message and the storage of a `Writer`. -/
abbrev Bytes := List UInt8

/-- The object representation of an unsigned integer of `w` bytes on a little-endian
target: what `Writer` copies for a `uint16_t`, `uint32_t` or `HRESULT`. -/
def leBytes : Nat → Nat → Bytes
  | 0, _ => []
  | w + 1, n => UInt8.ofNat n :: leBytes w (n / 256)

def leValue : Bytes → Nat
  | [] => 0
  | b :: bs => b.toNat + 256 * leValue bs

@[simp] theorem uint8_toNat_ofNat (n : Nat) : (UInt8.ofNat n).toNat = n % 256 := by
  simp [UInt8.toNat, UInt8.ofNat, BitVec.toNat_ofNat]

@[simp] theorem leBytes_length (w n : Nat) : (leBytes w n).length = w := by
  induction w generalizing n with
  | zero => rfl
  | succ w ih => simp [leBytes, ih]

theorem leValue_leBytes (w n : Nat) : leValue (leBytes w n) = n % 256 ^ w := by
  induction w generalizing n with
  | zero => simp [leBytes, leValue, Nat.mod_one]
  | succ w ih =>
    simp only [leBytes, leValue, uint8_toNat_ofNat, ih, Nat.pow_succ, Nat.mul_comm _ 256,
      Nat.mod_mul]

theorem leBytes_mod : ∀ w n : Nat, leBytes w (n % 256 ^ w) = leBytes w n
  | 0, _ => rfl
  | w + 1, n => by
    have hd : 256 ∣ 256 ^ (w + 1) := Nat.pow_succ .. ▸ Nat.dvd_mul_left 256 (256 ^ w)
    have h8 : UInt8.ofNat (n % 256 ^ (w + 1)) = UInt8.ofNat n :=
      UInt8.eq_of_toBitVec_eq (BitVec.eq_of_toNat_eq (by
        show (UInt8.ofNat _).toNat = (UInt8.ofNat _).toNat
        rw [uint8_toNat_ofNat, uint8_toNat_ofNat, Nat.mod_mod_of_dvd _ hd]))
    rw [leBytes, leBytes, h8, Nat.pow_succ', Nat.mod_mul_right_div_self, leBytes_mod w]

theorem leValue_lt (bs : Bytes) : leValue bs < 256 ^ bs.length := by
  induction bs with
  | nil => simp [leValue]
  | cons b bs ih =>
    have hb : b.toNat < 256 := b.toBitVec.isLt
    simp only [leValue, List.length_cons, Nat.pow_succ]
    omega

@[simp] theorem uint32_lt_iff (a b : UInt32) : a < b ↔ a.toNat < b.toNat := by
  simp [UInt32.lt_def, BitVec.lt_def, UInt32.toNat]

@[simp] theorem uint32_le_iff (a b : UInt32) : a ≤ b ↔ a.toNat ≤ b.toNat := by
  simp [UInt32.le_def, BitVec.le_def, UInt32.toNat]

theorem uint32_eq_iff (a b : UInt32) : a = b ↔ a.toNat = b.toNat :=
  ⟨congrArg _, fun h => UInt32.eq_of_toBitVec_eq (BitVec.eq_of_toNat_eq h)⟩

theorem uint32_toNat_add (a b : UInt32) : (a + b).toNat = (a.toNat + b.toNat) % 2 ^ 32 := rfl

theorem uint32_toNat_lt (a : UInt32) : a.toNat < 2 ^ 32 := a.toBitVec.isLt

@[simp] theorem uint32_ofNat_toNat (a : UInt32) : UInt32.ofNat a.toNat = a :=
  (uint32_eq_iff _ _).mpr (UInt32.toNat_ofNat_of_lt (uint32_toNat_lt a))

/-- The `HRESULT`s the library reports. -/
def sOk : UInt32 := 0
def eFail : UInt32 := 0x80004005
def eNotImpl : UInt32 := 0x80004001
def eInvalidArg : UInt32 := 0x80070057
def eAbort : UInt32 := 0x80004004

end AsyncCppRpc.Wire
