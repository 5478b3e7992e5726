import Dispatcher.Basic

/-! The database key of a concern: `impl db_key::Key for Concern` and `Concern::to_bytes` of
`configuration/src/lib.rs`, forty bytes, the contract's address and then the user's. -/

namespace Dispatcher

def toBytesLE : Nat → Nat → List UInt8
  | 0, _ => []
  | w + 1, n => UInt8.ofNat (n % 256) :: toBytesLE w (n / 256)

def ofBytesLE : List UInt8 → Nat
  | [] => 0
  | b :: bs => b.toNat + 256 * ofBytesLE bs

theorem uint8_ofNat_toNat (b : UInt8) : UInt8.ofNat b.toNat = b :=
  UInt8.toNat.inj (Nat.mod_eq_of_lt b.toNat_lt_size)

@[simp] theorem length_toBytesLE (w n : Nat) : (toBytesLE w n).length = w := by
  induction w generalizing n with
  | zero => rfl
  | succ w ih => simp [toBytesLE, ih]

theorem ofBytesLE_toBytesLE (w n : Nat) : ofBytesLE (toBytesLE w n) = n % 256 ^ w := by
  induction w generalizing n with
  | zero => simp [toBytesLE, ofBytesLE, Nat.mod_one]
  | succ w ih =>
    rw [toBytesLE, ofBytesLE, ih, pow_succ', Nat.mod_mul]
    exact congrArg (· + _) (Nat.mod_mod n 256)

theorem ofBytesLE_lt (bs : List UInt8) : ofBytesLE bs < 256 ^ bs.length := by
  induction bs with
  | nil => simp [ofBytesLE]
  | cons b bs ih =>
    have hb : b.toNat < 256 := b.toNat_lt_size
    rw [ofBytesLE, List.length_cons, pow_succ]
    omega

theorem toBytesLE_ofBytesLE (bs : List UInt8) : toBytesLE bs.length (ofBytesLE bs) = bs := by
  induction bs with
  | nil => rfl
  | cons b bs ih =>
    have hb : b.toNat < 256 := b.toNat_lt_size
    rw [List.length_cons, toBytesLE, ofBytesLE]
    congr 1
    · rw [Nat.add_mul_mod_self_left, Nat.mod_eq_of_lt hb, uint8_ofNat_toNat]
    · rw [Nat.add_mul_div_left _ _ (by decide), Nat.div_eq_of_lt hb, Nat.zero_add, ih]

def addressBytes (a : Address) : List UInt8 := (toBytesLE 20 a.toNat).reverse

def addressOfBytes (bytes : List UInt8) : Address := BitVec.ofNat 160 (ofBytesLE bytes.reverse)

@[simp] theorem length_addressBytes (a : Address) : (addressBytes a).length = 20 := by
  simp [addressBytes]

theorem two_pow_160 : (2 : Nat) ^ 160 = 256 ^ 20 := by decide

theorem addressOfBytes_addressBytes (a : Address) : addressOfBytes (addressBytes a) = a := by
  apply BitVec.eq_of_toNat_eq
  have ha : a.toNat < 256 ^ 20 := two_pow_160 ▸ a.isLt
  rw [addressOfBytes, addressBytes, List.reverse_reverse, BitVec.toNat_ofNat,
    ofBytesLE_toBytesLE, Nat.mod_eq_of_lt ha, Nat.mod_eq_of_lt (two_pow_160 ▸ ha)]

theorem addressBytes_addressOfBytes {bytes : List UInt8} (h : bytes.length = 20) :
    addressBytes (addressOfBytes bytes) = bytes := by
  have hlt : ofBytesLE bytes.reverse < 2 ^ 160 := by
    simpa [two_pow_160, h] using ofBytesLE_lt bytes.reverse
  have hlen : bytes.reverse.length = 20 := by rw [List.length_reverse, h]
  rw [addressBytes, addressOfBytes, BitVec.toNat_ofNat, Nat.mod_eq_of_lt hlt, ← hlen,
    toBytesLE_ofBytesLE, List.reverse_reverse]

/-- The forty bytes `transmute` sees in a `Concern`: its two `H160`s in declaration order. -/
def Concern.layout (c : Concern) : List UInt8 :=
  addressBytes c.contractAddress ++ addressBytes c.userAddress

def Concern.ofLayout (bytes : List UInt8) : Concern :=
  { contractAddress := addressOfBytes (bytes.take 20)
    userAddress := addressOfBytes (bytes.drop 20) }

def copyTo (a : Address) (dest : List UInt8) (start : Nat) : List UInt8 :=
  dest.take start ++ addressBytes a ++ dest.drop (start + 20)

def Concern.toBytes (c : Concern) : List UInt8 :=
  copyTo c.userAddress (copyTo c.contractAddress (List.replicate 40 0) 0) 20

def copyEnumerated : List UInt8 → Nat → List UInt8 → List UInt8
  | result, _, [] => result
  | result, i, val :: key => copyEnumerated (result.set i val) (i + 1) key

def Concern.fromU8 (key : List UInt8) : Except Error Concern :=
  if key.length = 40 then .ok (Concern.ofLayout (copyEnumerated (List.replicate 40 0) 0 key))
  else .error (.panic "assertion failed: key.len() == 40")

def Concern.asSlice {T : Type} (c : Concern) (f : List UInt8 → T) : T := f c.layout

theorem Concern.length_layout (c : Concern) : c.layout.length = 40 := by
  simp [Concern.layout]

theorem Concern.ofLayout_layout (c : Concern) : Concern.ofLayout c.layout = c := by
  simp [Concern.ofLayout, Concern.layout, addressOfBytes_addressBytes]

theorem Concern.layout_ofLayout {bytes : List UInt8} (h : bytes.length = 40) :
    (Concern.ofLayout bytes).layout = bytes := by
  rw [Concern.layout, Concern.ofLayout,
    addressBytes_addressOfBytes (by simp only [List.length_take, h]; rfl),
    addressBytes_addressOfBytes (by simp only [List.length_drop, h]), List.take_append_drop]

theorem Concern.toBytes_eq_layout (c : Concern) : c.toBytes = c.layout := by
  simp [Concern.toBytes, copyTo, Concern.layout]

theorem copyEnumerated_append (key pre rest : List UInt8) (h : key.length ≤ rest.length) :
    copyEnumerated (pre ++ rest) pre.length key = pre ++ key ++ rest.drop key.length := by
  induction key generalizing pre rest with
  | nil => simp [copyEnumerated]
  | cons val key ih =>
    obtain _ | ⟨x, rest⟩ := rest
    · simp at h
    have hset : (pre ++ x :: rest).set pre.length val = (pre ++ [val]) ++ rest := by simp
    have hlen : pre.length + 1 = (pre ++ [val]).length := by simp
    rw [copyEnumerated, hset, hlen, ih _ _ (by simpa using h)]
    simp

theorem copyEnumerated_zeros {key : List UInt8} (h : key.length = 40) :
    copyEnumerated (List.replicate 40 0) 0 key = key := by
  simpa [h] using copyEnumerated_append key [] (List.replicate 40 0) (by simp [h])

/-- `from_u8` accepts exactly the keys `as_slice` hands out, and returns the concern each came
from: the key format is a bijection between concerns and forty-byte strings. -/
theorem Concern.fromU8_eq_ok {key : List UInt8} {c : Concern} :
    Concern.fromU8 key = .ok c ↔ c.asSlice id = key := by
  rw [Concern.asSlice, id]
  by_cases hlen : key.length = 40
  · rw [Concern.fromU8, if_pos hlen, copyEnumerated_zeros hlen, Except.ok.injEq]
    constructor
    · rintro rfl
      exact Concern.layout_ofLayout hlen
    · rintro rfl
      exact Concern.ofLayout_layout c
  · rw [Concern.fromU8, if_neg hlen]
    exact iff_of_false nofun fun h => hlen (h ▸ c.length_layout)

theorem Concern.fromU8_eq_error {key : List UInt8} {e : Error} :
    Concern.fromU8 key = .error e ↔
      key.length ≠ 40 ∧ e = .panic "assertion failed: key.len() == 40" := by
  unfold Concern.fromU8
  split <;> simp_all [eq_comm]

/-- The bytes `to_bytes` writes are a key `from_u8` reads back as the same concern. -/
theorem Concern.fromU8_toBytes (c : Concern) : Concern.fromU8 c.toBytes = .ok c := by
  rw [Concern.toBytes_eq_layout, Concern.fromU8, if_pos c.length_layout,
    copyEnumerated_zeros c.length_layout, Concern.ofLayout_layout]

end Dispatcher
