import GraphBinary.Internals.IntSerializer
import GraphBinary.Internals.ListSerializer

/-!
# `Correctness.Framing` — the list format over the int32 `{length}` codec

`ListSerializer` is generic in `ioc`; the program runs it with `intSerializer`. These are its two
directions with the length codec fixed: `serialize_int32` (what is written) and
`deserializeValue_int32_eq_ok` (what is accepted after the header). The correctness modules state
their claims over `⟨any, intSerializer⟩` and reason through these two lemmas.
-/

namespace GraphBinary
namespace ListSerializer

open IntSerializer

variable {α : Type} {any : AnySerializer α} {fq : Bool}

/-- A list of at most `INT32_MAX` items is written as the header, the four bytes of its length and
    its items; it throws only where an item throws. -/
theorem serialize_int32 {xs : List α} (h : xs.length ≤ 2147483647) :
    serialize ⟨any, intSerializer⟩ (some xs) fq =
      (serializeItems ⟨any, intSerializer⟩ xs).map (header fq ++ writeInt32BE xs.length ++ ·) := by
  rw [serialize_some_of_le (by simp; omega), serialize_of_range (by omega) (by omega)]
  cases serializeItems _ xs <;> rfl

/-- The first `n` bytes of a framed list, where `n` counts the header, `{length}` and `s` more. -/
theorem take_header_append (fq : Bool) (b0 b1 b2 b3 : UInt8) (rest : Bytes) (s : Nat) :
    (header fq ++ b0 :: b1 :: b2 :: b3 :: rest).take ((header fq).length + 4 + s) =
      header fq ++ b0 :: b1 :: b2 :: b3 :: rest.take s := by
  rw [show (header fq).length + 4 + s = s + 4 + (header fq).length by omega]
  cases fq <;> rfl

/-- After the header, a non-negative `int32` count hands the rest to the loop. -/
theorem deserializeValue_writeInt32BE {len : Nat} {length : Int} (h0 : 0 ≤ length)
    (h1 : length ≤ 2147483647) (c : Bytes) :
    deserializeValue ⟨any, intSerializer⟩ len (writeInt32BE length ++ c) =
      (deserializeItems ⟨any, intSerializer⟩ 0 length.toNat (len + 4) c []).map
        fun (v, len) => (some v, len) := by
  simp only [deserializeValue, deserialize_writeInt32BE (by omega) h1, Int.not_lt.mpr h0,
    if_false]
  rw [List.drop_left' (writeInt32BE_length length)]

/-- After the header, a value is accepted exactly when four bytes give a non-negative count and
    that many items follow them back to back. -/
theorem deserializeValue_int32_eq_ok {len : Nat} {c : Bytes} {v : Option (List α)} {n : Nat} :
    deserializeValue ⟨any, intSerializer⟩ len c = .ok (v, n) ↔
      ∃ b0 b1 b2 b3 rest ps, c = b0 :: b1 :: b2 :: b3 :: rest ∧ 0 ≤ readInt32BE b0 b1 b2 b3 ∧
        ps.length = (readInt32BE b0 b1 b2 b3).toNat ∧ ItemsDecode any rest ps ∧
        v = some (ps.map Prod.fst) ∧ n = len + 4 + (ps.map Prod.snd).sum := by
  rw [deserializeValue_eq_ok]
  constructor
  · rintro ⟨length, length_len, ps, hint, h0, hl, hd, rfl, rfl⟩
    obtain ⟨b0, b1, b2, b3, rest, rfl, rfl, rfl⟩ := IntSerializer.deserialize_eq_ok.mp hint
    exact ⟨b0, b1, b2, b3, rest, ps, rfl, h0, hl, hd, rfl, rfl⟩
  · rintro ⟨b0, b1, b2, b3, rest, ps, rfl, h0, hl, hd, rfl, rfl⟩
    exact ⟨_, 4, ps, rfl, h0, hl, hd, rfl, rfl⟩

/-- **What the list decoder accepts.** A buffer decodes exactly when it is the fully-qualified `null`,
    or the header of the mode, four bytes of a non-negative `{length}` and that many items decoded
    back to back; the reported `len` is the header, the four bytes and the items' lengths. -/
theorem deserialize_int32_eq_ok {b : Bytes} {v : Option (List α)} {n : Nat} :
    deserialize ⟨any, intSerializer⟩ (some b) fq = .ok (v, n) ↔
      (fq = true ∧ (∃ c, b = DataType.LIST :: 0x01 :: c) ∧ v = none ∧ n = 2) ∨
      ∃ b0 b1 b2 b3 rest ps, b = header fq ++ b0 :: b1 :: b2 :: b3 :: rest ∧
        0 ≤ readInt32BE b0 b1 b2 b3 ∧ ps.length = (readInt32BE b0 b1 b2 b3).toNat ∧
        ItemsDecode any rest ps ∧ v = some (ps.map Prod.fst) ∧
        n = (header fq).length + 4 + (ps.map Prod.snd).sum := by
  rw [deserialize_eq_ok]
  refine or_congr Iff.rfl ⟨?_, ?_⟩
  · rintro ⟨-, c, rfl, hv⟩
    obtain ⟨b0, b1, b2, b3, rest, ps, rfl, h⟩ := deserializeValue_int32_eq_ok.mp hv
    exact ⟨b0, b1, b2, b3, rest, ps, rfl, h⟩
  · rintro ⟨b0, b1, b2, b3, rest, ps, rfl, h⟩
    exact ⟨by simp, _, rfl, deserializeValue_int32_eq_ok.mpr ⟨b0, b1, b2, b3, rest, ps, rfl, h⟩⟩

end ListSerializer
end GraphBinary
