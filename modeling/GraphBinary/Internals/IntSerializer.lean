import GraphBinary.Internals.Ioc

/-!
# `Internals.IntSerializer` — the `{length}` codec

`IntSerializer.js` is not in the excerpt. The spec fixes its wire form (§3: "Length fields: always
big-endian signed 32-bit (4 bytes)"), and that is all the list serializer depends on: value-only
mode is the bare four bytes, read back as a two's-complement `int32`.

The round trip (`deserialize_writeInt32BE`) and its converse (`writeInt32BE_readInt32BE`) are
proved over the byte values by `Nat` arithmetic (`Nat.mod_mul`, `omega`), with no bit-blasting.
-/

namespace GraphBinary
namespace IntSerializer

/-- `buf.writeInt32BE(value)`: the four big-endian bytes of `value` in two's complement. -/
def writeInt32BE (value : Int) : Bytes :=
  let u := (value % 2 ^ 32).toNat
  [UInt8.ofNat (u / 2 ^ 24 % 256), UInt8.ofNat (u / 2 ^ 16 % 256), UInt8.ofNat (u / 2 ^ 8 % 256),
    UInt8.ofNat (u % 256)]

/-- `buf.readInt32BE()`: the signed 32-bit integer whose big-endian bytes are `b0 b1 b2 b3`. -/
def readInt32BE (b0 b1 b2 b3 : UInt8) : Int :=
  let u : Nat := b0.toNat * 2 ^ 24 + b1.toNat * 2 ^ 16 + b2.toNat * 2 ^ 8 + b3.toNat
  if u < 2 ^ 31 then (u : Int) else (u : Int) - 2 ^ 32

end IntSerializer

open IntSerializer in
/-- Modelled from the spec: `IntSerializer`, not in the excerpt, in the value-only form the list
    serializer calls. §3 makes a length field four big-endian bytes of a signed 32-bit integer;
    §7 names `BufferEmpty` for an empty input and `UnexpectedLengthFieldSize` for a short one. -/
def intSerializer : IntSerializer where
  INT32_MAX := 2147483647
  serialize item :=
    if -2147483648 ≤ item ∧ item ≤ 2147483647 then .ok (writeInt32BE item)
    else .error "value is out of int32 range"
  deserialize
    | [] => .error "buffer is empty"
    | b0 :: b1 :: b2 :: b3 :: _ => .ok (readInt32BE b0 b1 b2 b3, 4)
    | _ => .error "unexpected \x7bvalue\x7d length"

namespace IntSerializer

@[simp] theorem intSerializer_INT32_MAX : intSerializer.INT32_MAX = 2147483647 := rfl

@[simp] theorem deserialize_cons4 (b0 b1 b2 b3 : UInt8) (r : Bytes) :
    intSerializer.deserialize (b0 :: b1 :: b2 :: b3 :: r) = .ok (readInt32BE b0 b1 b2 b3, 4) :=
  rfl

@[simp] theorem deserialize_nil : intSerializer.deserialize [] = .error "buffer is empty" := rfl

theorem serialize_of_range {item : Int} (h0 : -2147483648 ≤ item) (h1 : item ≤ 2147483647) :
    intSerializer.serialize item = .ok (writeInt32BE item) :=
  if_pos ⟨h0, h1⟩

private theorem toNat_ofNat_mod (n : Nat) : (UInt8.ofNat (n % 256)).toNat = n % 256 :=
  UInt8.toNat_ofNat_of_lt (Nat.mod_lt _ (by decide))

@[simp] theorem writeInt32BE_length (value : Int) : (writeInt32BE value).length = 4 := rfl

/-- A success reads exactly four bytes, and what it reads is their two's-complement value. -/
theorem deserialize_eq_ok {c : Bytes} {length : Int} {n : Nat} :
    intSerializer.deserialize c = .ok (length, n) ↔
      ∃ b0 b1 b2 b3 r, c = b0 :: b1 :: b2 :: b3 :: r ∧ length = readInt32BE b0 b1 b2 b3 ∧ n = 4 := by
  constructor
  · intro h
    match c, h with
    | [], h | [_], h | [_, _], h | [_, _, _], h => cases h
    | b0 :: b1 :: b2 :: b3 :: r, h => cases h; exact ⟨b0, b1, b2, b3, r, rfl, rfl, rfl⟩
  · rintro ⟨b0, b1, b2, b3, r, rfl, rfl, rfl⟩
    rfl

/-- One more base-256 digit: the digit of weight `a` and the value below it. -/
private theorem digit_step (u a : Nat) : u / a % 256 * a + u % a = u % (a * 256) := by
  rw [Nat.mod_mul, Nat.add_comm, Nat.mul_comm]

/-- The four bytes `writeInt32BE` writes are the base-256 digits of the value modulo `2 ^ 32`. -/
private theorem digits_sum (u : Nat) :
    u / 2 ^ 24 % 256 * 2 ^ 24 + u / 2 ^ 16 % 256 * 2 ^ 16 + u / 2 ^ 8 % 256 * 2 ^ 8 + u % 256 =
      u % 2 ^ 32 := by
  rw [Nat.add_assoc, Nat.add_assoc, show u % 256 = u % 2 ^ 8 by norm_num, digit_step,
    show 2 ^ 8 * 256 = 2 ^ 16 by norm_num, digit_step, show 2 ^ 16 * 256 = 2 ^ 24 by norm_num,
    digit_step, show 2 ^ 24 * 256 = 2 ^ 32 by norm_num]

/-- **Round trip.** Every `int32` comes back from its four bytes, whatever follows them. -/
theorem deserialize_writeInt32BE {value : Int} (h0 : -2147483648 ≤ value)
    (h1 : value ≤ 2147483647) (r : Bytes) :
    intSerializer.deserialize (writeInt32BE value ++ r) = .ok (value, 4) := by
  simp only [writeInt32BE, List.cons_append, List.nil_append, deserialize_cons4, readInt32BE,
    toNat_ofNat_mod, digits_sum]
  congr 2
  split <;> omega

private theorem toNat_lt_256 (b : UInt8) : b.toNat < 256 := UInt8.toNat_lt_size b

/-- The unsigned value of four bytes fits in 32 bits. -/
private theorem bytes_lt (b0 b1 b2 b3 : UInt8) :
    b0.toNat * 2 ^ 24 + b1.toNat * 2 ^ 16 + b2.toNat * 2 ^ 8 + b3.toNat < 2 ^ 32 := by
  have := toNat_lt_256 b0; have := toNat_lt_256 b1; have := toNat_lt_256 b2
  have := toNat_lt_256 b3
  omega

/-- The two's-complement reading of a 32-bit unsigned value is that value modulo `2 ^ 32`. -/
private theorem signed_emod {u : Nat} (hu : u < 2 ^ 32) :
    ((if u < 2 ^ 31 then (u : Int) else (u : Int) - 2 ^ 32) % 2 ^ 32).toNat = u := by
  have h : (u : Int) % 2 ^ 32 = u := Int.emod_eq_of_lt (Int.natCast_nonneg u) (by exact_mod_cast hu)
  split
  · rw [h]; rfl
  · rw [Int.emod_sub_cancel, h]; rfl

/-- `readInt32BE` is the two's-complement reading: modulo `2 ^ 32` it is the unsigned value of the
    four bytes. -/
private theorem readInt32BE_emod (b0 b1 b2 b3 : UInt8) :
    (readInt32BE b0 b1 b2 b3 % 2 ^ 32).toNat =
      b0.toNat * 2 ^ 24 + b1.toNat * 2 ^ 16 + b2.toNat * 2 ^ 8 + b3.toNat :=
  signed_emod (bytes_lt b0 b1 b2 b3)

/-- **No other framing.** The four bytes read are the bytes `writeInt32BE` writes for the value. -/
theorem writeInt32BE_readInt32BE (b0 b1 b2 b3 : UInt8) :
    writeInt32BE (readInt32BE b0 b1 b2 b3) = [b0, b1, b2, b3] := by
  have := toNat_lt_256 b0; have := toNat_lt_256 b1; have := toNat_lt_256 b2
  have := toNat_lt_256 b3
  simp only [writeInt32BE, readInt32BE_emod, List.cons.injEq, and_true]
  refine ⟨UInt8.toNat.inj ?_, UInt8.toNat.inj ?_, UInt8.toNat.inj ?_, UInt8.toNat.inj ?_⟩ <;>
    rw [toNat_ofNat_mod] <;> omega

/-- An `int32` is written as four bytes that read back as it. -/
theorem exists_writeInt32BE {value : Int} (h0 : -2147483648 ≤ value) (h1 : value ≤ 2147483647) :
    ∃ b0 b1 b2 b3, writeInt32BE value = [b0, b1, b2, b3] ∧ readInt32BE b0 b1 b2 b3 = value :=
  ⟨_, _, _, _, rfl, (Prod.mk.inj (Except.ok.inj (deserialize_writeInt32BE h0 h1 []))).1⟩

/-- What `readInt32BE` reads lies in the `int32` range. -/
theorem readInt32BE_range (b0 b1 b2 b3 : UInt8) :
    -2147483648 ≤ readInt32BE b0 b1 b2 b3 ∧ readInt32BE b0 b1 b2 b3 ≤ 2147483647 := by
  have := bytes_lt b0 b1 b2 b3
  simp only [readInt32BE]
  split <;> omega

end IntSerializer
end GraphBinary

