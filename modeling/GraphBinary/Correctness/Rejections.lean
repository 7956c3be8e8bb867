import GraphBinary.Correctness.Framing
import GraphBinary.Dispatch.Int

/-!
# `Correctness.Rejections` — how the list codec fails

The encoder throws in two places only (§7): a list longer than `INT32_MAX`, with the length
message, and an item the dispatcher cannot encode, with that item's own error (`serialize_error`).

The decoder fails exactly as `Rejects` says (`deserialize_rejects`): one kind of failure per `throw`
on its path, each reported with the cursor where it happened and a message naming the check that
failed — a framing check, `{length}` with the codec's message, or an item by its index with the
dispatcher's message. Of the failures §8 singles out, a negative `{length}` is rejected and never
clamped (`deserialize_negative_length`), and an item that does not decode is reported under its
position (`deserialize_item_error`).
-/

namespace GraphBinary
namespace ListSerializer

open IntSerializer

variable {α : Type} {ioc : Ioc α}

/-! ## `serialize` -/

/-- **`serialize` throws only for an overlong list or an item that throws.** A list longer than
    `INT32_MAX` throws the length message before any item is encoded; a shorter one throws exactly
    the error of its first item that throws, in either mode. -/
theorem serialize_error (any : AnySerializer α) (fq : Bool) (xs : List α) (e : String) :
    serialize ⟨any, intSerializer⟩ (some xs) fq = .error e ↔
      (2147483647 < xs.length ∧ ∃ length max_length : Int, length = xs.length ∧
        max_length = 2147483647 ∧
        e = s!"List length={length} is greater than supported max_length={max_length}.") ∨
      (xs.length ≤ 2147483647 ∧ ∃ pre x post, xs = pre ++ x :: post ∧
        (∀ y ∈ pre, ∃ b, any.serialize y = .ok b) ∧ any.serialize x = .error e) := by
  by_cases hlen : xs.length ≤ 2147483647
  · rw [serialize_int32 hlen, except_map_eq_error, serializeItems_eq_error]
    constructor
    · exact fun h => .inr ⟨hlen, h⟩
    · rintro (⟨h, -⟩ | ⟨-, h⟩)
      · omega
      · exact h
  · have hgt : (2147483647 : Int) < xs.length := by omega
    simp only [serialize, intSerializer_INT32_MAX, gt_iff_lt, hgt, if_true]
    constructor
    · rintro ⟨⟩
      exact .inl ⟨by omega, _, _, rfl, rfl, rfl⟩
    · rintro (⟨-, _, _, rfl, rfl, rfl⟩ | ⟨h, -⟩)
      · rfl
      · exact absurd h hlen

/-! ## The complete failure law -/

/-- The failures of `deserialize` over the `int32` `{length}` codec, one constructor per `throw` on
    its path, each with the error record the source builds: the cursor is what is left after the
    bytes already consumed, and the message names the check, `{length}` or the item that failed. -/
inductive Rejects (any : AnySerializer α) : Bool → Option Bytes → DesError → Prop
  | missing (fq : Bool) : Rejects any fq none ⟨none, "buffer is missing"⟩
  | empty (fq : Bool) : Rejects any fq (some []) ⟨some [], "buffer is empty"⟩
  | typeCode (t : UInt8) (c : Bytes) (ht : t ≠ DataType.LIST) :
      Rejects any true (some (t :: c)) ⟨some c, "unexpected \x7btype_code\x7d"⟩
  | valueFlagMissing :
      Rejects any true (some [DataType.LIST]) ⟨some [], "\x7bvalue_flag\x7d is missing"⟩
  | valueFlag (f : UInt8) (c : Bytes) (h0 : f ≠ 0) (h1 : f ≠ 1) :
      Rejects any true (some (DataType.LIST :: f :: c)) ⟨some c, "unexpected \x7bvalue_flag\x7d"⟩
  | lengthField (fq : Bool) (c : Bytes) (m : String) (hc : c ≠ [] ∨ fq = true) (hlen : c.length < 4)
      (hm : intSerializer.deserialize c = .error m) :
      Rejects any fq (some (header fq ++ c)) ⟨some c, s!"\x7blength\x7d: {m}"⟩
  | negativeLength (fq : Bool) (b0 b1 b2 b3 : UInt8) (rest : Bytes)
      (hneg : readInt32BE b0 b1 b2 b3 < 0) :
      Rejects any fq (some (header fq ++ b0 :: b1 :: b2 :: b3 :: rest))
        ⟨some rest, "\x7blength\x7d is less than zero"⟩
  | item (fq : Bool) (b0 b1 b2 b3 : UInt8) (rest : Bytes) (ps : List (α × Nat)) (msg : String)
      (h0 : 0 ≤ readInt32BE b0 b1 b2 b3) (hj : ps.length < (readInt32BE b0 b1 b2 b3).toNat)
      (hd : ItemsDecode any rest ps)
      (hfail : any.deserialize (rest.drop (ps.map Prod.snd).sum) = .error msg) :
      Rejects any fq (some (header fq ++ b0 :: b1 :: b2 :: b3 :: rest))
        ⟨some (rest.drop (ps.map Prod.snd).sum), s!"\x7bitem_{ps.length}\x7d: {msg}"⟩

/-- A failure past the header is one of the last three kinds of `Rejects`. -/
theorem rejects_of_deserializeValue {any : AnySerializer α} {fq : Bool} {len : Nat} {c : Bytes}
    {e : DesError} (hc : c ≠ [] ∨ fq = true)
    (h : deserializeValue ⟨any, intSerializer⟩ len c = .error e) :
    Rejects any fq (some (header fq ++ c)) e := by
  match c, h with
  | [], h | [_], h | [_, _], h | [_, _, _], h =>
    cases h
    exact .lengthField _ _ _ hc (by simp) rfl
  | b0 :: b1 :: b2 :: b3 :: rest, h =>
    simp only [deserializeValue, deserialize_cons4, List.drop_succ_cons, List.drop_zero] at h
    split_ifs at h with hneg
    · cases h
      exact .negativeLength fq b0 b1 b2 b3 rest hneg
    · obtain ⟨ps, msg, hj, hd, hfail, rfl⟩ :=
        deserializeItems_eq_error.mp (except_map_eq_error.mp h)
      rw [Nat.zero_add]
      exact .item fq b0 b1 b2 b3 rest ps msg (Int.not_lt.mp hneg) hj hd hfail

/-- A negative `{length}` is rejected, never clamped to zero (§3, §8), in either mode and whatever
    follows it; the cursor is left just after the field. -/
theorem deserialize_negative_length (any : AnySerializer α) (fq : Bool) (b0 b1 b2 b3 : UInt8)
    (rest : Bytes) (hneg : readInt32BE b0 b1 b2 b3 < 0) :
    deserialize ⟨any, intSerializer⟩ (some (header fq ++ b0 :: b1 :: b2 :: b3 :: rest)) fq =
      .error ⟨some rest, "\x7blength\x7d is less than zero"⟩ := by
  rw [deserialize_header (by simp)]
  simp [deserializeValue, hneg]

/-- `BytecodeSerializer-test`'s negative length `0x80000000`, under a list header. -/
example : deserialize ⟨intSerializerFq, intSerializer⟩ (some (header true ++ [0x80, 0, 0, 0])) true =
    .error ⟨some [], "\x7blength\x7d is less than zero"⟩ := rfl

/-- Every kind of `Rejects` is a failure of `deserialize`. -/
theorem deserialize_of_rejects {any : AnySerializer α} {fq : Bool} {buffer : Option Bytes}
    {e : DesError} (h : Rejects any fq buffer e) :
    deserialize ⟨any, intSerializer⟩ buffer fq = .error e := by
  cases h with
  | missing | empty | valueFlagMissing => rfl
  | typeCode t c ht => cases c <;> simp [deserialize_true_single, deserialize_true_cons_cons, ht]
  | valueFlag f c h0 h1 => simp [deserialize_true_cons_cons, h0, h1]
  | lengthField fq c m hc _ hm =>
    rcases hc with hc | rfl
    · rw [deserialize_header hc]
      simp only [deserializeValue, hm]
    · simp only [header_true, List.cons_append, List.nil_append, deserialize_value_true,
        deserializeValue, hm]
  | negativeLength fq b0 b1 b2 b3 rest hneg =>
    exact deserialize_negative_length any fq b0 b1 b2 b3 rest hneg
  | item fq b0 b1 b2 b3 rest ps msg h0 hj hd hfail =>
    rw [deserialize_header (by simp)]
    simp only [deserializeValue, deserialize_cons4, Int.not_lt.mpr h0, if_false,
      List.drop_succ_cons, List.drop_zero]
    rw [except_map_eq_error, deserializeItems_eq_error]
    exact ⟨ps, msg, hj, hd, hfail, by rw [Nat.zero_add]⟩

/-- **The decoder's failure law.** `deserialize` fails exactly as `Rejects` says, whatever the buffer,
    the mode and the dispatcher: no other input fails, and each failure carries exactly the cursor
    and message of its constructor. -/
theorem deserialize_rejects (any : AnySerializer α) (buffer : Option Bytes) (fq : Bool)
    (e : DesError) :
    deserialize ⟨any, intSerializer⟩ buffer fq = .error e ↔ Rejects any fq buffer e := by
  refine ⟨fun h => ?_, deserialize_of_rejects⟩
  match buffer, fq, h with
  | none, _, h => cases h; exact .missing _
  | some [], _, h => cases h; exact .empty _
  | some (t :: c), false, h => exact rejects_of_deserializeValue (.inl (List.cons_ne_nil _ _)) h
  | some [t], true, h =>
    rw [deserialize_true_single] at h
    split_ifs at h with ht
    · cases h
      exact .typeCode t [] ht
    · cases h
      rw [not_not.mp ht]
      exact .valueFlagMissing
  | some (t :: f :: c), true, h =>
    rw [deserialize_true_cons_cons] at h
    split_ifs at h with ht h1 h0
    · cases h
      exact .typeCode t (f :: c) ht
    · cases h
      rw [not_not.mp ht]
      exact .valueFlag f c h0 h1
    · rw [not_not.mp ht, not_not.mp h0]
      exact rejects_of_deserializeValue (.inr rfl) h

/-! ## An item that does not decode -/

/-- **A failing item is reported under its index** (§7, §8). If `{length}` reads a count `L ≥ 0`
    and the first `j < L` items decode but the next does not, the error is that item's message
    after `{item_j}: `, with the cursor at the item. -/
theorem deserialize_item_error (any : AnySerializer α) (fq : Bool) (b0 b1 b2 b3 : UInt8)
    (rest : Bytes) (ps : List (α × Nat)) (msg : String) (h0 : 0 ≤ readInt32BE b0 b1 b2 b3)
    (hj : ps.length < (readInt32BE b0 b1 b2 b3).toNat) (hd : ItemsDecode any rest ps)
    (hfail : any.deserialize (rest.drop (ps.map Prod.snd).sum) = .error msg) :
    deserialize ⟨any, intSerializer⟩ (some (header fq ++ b0 :: b1 :: b2 :: b3 :: rest)) fq =
      .error ⟨some (rest.drop (ps.map Prod.snd).sum), s!"\x7bitem_{ps.length}\x7d: {msg}"⟩ :=
  deserialize_of_rejects (.item fq b0 b1 b2 b3 rest ps msg h0 hj hd hfail)

/-- §8's example: the third of three items — `1`, `null`, then a number cut short — fails, and the
    error names `{item_2}`. -/
theorem deserialize_item_error_third :
    0 ≤ readInt32BE 0 0 0 3 ∧
      ([(some ⟨1, by decide⟩, 6), (none, 2)] : List (Option Int32Value × Nat)).length <
        (readInt32BE 0 0 0 3).toNat ∧
      ItemsDecode intSerializerFq [DataType.INT, 0, 0, 0, 0, 1, DataType.INT, 1, DataType.INT, 0, 0, 0]
        [(some ⟨1, by decide⟩, 6), (none, 2)] ∧
      intSerializerFq.deserialize [DataType.INT, 0, 0, 0] = .error "unexpected \x7bvalue\x7d length" ∧
      deserialize ⟨intSerializerFq, intSerializer⟩ (some (header true ++ [0, 0, 0, 3, DataType.INT, 0,
        0, 0, 0, 1, DataType.INT, 1, DataType.INT, 0, 0, 0])) true =
        .error ⟨some [DataType.INT, 0, 0, 0], "\x7bitem_2\x7d: unexpected \x7bvalue\x7d length"⟩ :=
  have h0 : 0 ≤ readInt32BE 0 0 0 3 := by decide
  have hj : ([(some ⟨1, by decide⟩, 6), (none, 2)] : List (Option Int32Value × Nat)).length <
      (readInt32BE 0 0 0 3).toNat := by decide
  have hd : ItemsDecode intSerializerFq
      [DataType.INT, 0, 0, 0, 0, 1, DataType.INT, 1, DataType.INT, 0, 0, 0]
      [(some ⟨1, by decide⟩, 6), (none, 2)] := ⟨rfl, rfl, trivial⟩
  have hf : intSerializerFq.deserialize [DataType.INT, 0, 0, 0] =
      .error "unexpected \x7bvalue\x7d length" := rfl
  ⟨h0, hj, hd, hf, deserialize_item_error intSerializerFq true 0 0 0 3 _ _ _ h0 hj hd hf⟩

end ListSerializer
end GraphBinary
