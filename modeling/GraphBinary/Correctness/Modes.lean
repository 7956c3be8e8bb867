import GraphBinary.Correctness.Framing

/-!
# `Correctness.Modes` — the fully-qualified and value-only paths agree

A fully-qualified list is `{type_code}{value_flag}` in front of its value-only form, and the two
paths do the same work after it. `serialize` writes the header in front of exactly what value-only
mode writes, and throws exactly what value-only mode throws. `deserialize`, past `[LIST, 0x00]`,
runs `deserializeValue` with `len` two bytes ahead (`deserializeValue_shift`). The one case
that needs more is an empty buffer after the header: value-only mode rejects it as empty, and the
fully-qualified path rejects it because `{length}` cannot be read from no bytes.
-/

namespace GraphBinary
namespace ListSerializer

open IntSerializer

variable {α : Type}

/-- In fully-qualified mode `serialize` writes `[LIST, 0x00]` in front of the value-only bytes and
    throws the value-only error, whatever the collaborators. -/
theorem serialize_true_eq (ioc : Ioc α) (xs : List α) :
    serialize ioc (some xs) true =
      (serialize ioc (some xs) false).map ([DataType.LIST, 0x00] ++ ·) := by
  simp only [serialize]
  split
  · rfl
  · cases ioc.intSerializer.serialize _ <;> cases serializeItems ioc xs <;> rfl

/-- Past `[LIST, 0x00]`, a non-empty buffer decodes as in value-only mode, two bytes further on,
    and fails with the same error, whatever the collaborators. -/
theorem deserialize_true_cons (ioc : Ioc α) {b : Bytes} (hb : b ≠ []) :
    deserialize ioc (some (DataType.LIST :: 0x00 :: b)) true =
      (deserialize ioc (some b) false).map fun (v, n) => (v, n + 2) := by
  obtain ⟨t, c, rfl⟩ := List.exists_cons_of_ne_nil hb
  rw [deserialize_value_true, deserialize_cons_false, ← deserializeValue_shift]

/-- **The two modes agree.** For every list, the fully-qualified encoding is `[0x09, 0x00]` in front
    of the value-only one, and one throws exactly when the other does; for every buffer `b`, the
    fully-qualified decoder on `[0x09, 0x00] ++ b` returns `(v, n + 2)` exactly when the value-only
    decoder on `b` returns `(v, n)`, and throws exactly when it throws. -/
theorem serialize_deserialize_modes (any : AnySerializer α) :
    (∀ xs : List α, serialize ⟨any, intSerializer⟩ (some xs) true =
        (serialize ⟨any, intSerializer⟩ (some xs) false).map ([DataType.LIST, 0x00] ++ ·)) ∧
      ∀ b : Bytes,
        (∀ v n, deserialize ⟨any, intSerializer⟩ (some ([DataType.LIST, 0x00] ++ b)) true =
            .ok (v, n + 2) ↔ deserialize ⟨any, intSerializer⟩ (some b) false = .ok (v, n)) ∧
        ((∃ e, deserialize ⟨any, intSerializer⟩ (some ([DataType.LIST, 0x00] ++ b)) true =
            .error e) ↔ ∃ e, deserialize ⟨any, intSerializer⟩ (some b) false = .error e) := by
  refine ⟨serialize_true_eq _, fun b => ?_⟩
  rcases eq_or_ne b [] with rfl | hb
  · simp [deserializeValue]
  · rw [List.cons_append, List.cons_append, List.nil_append, deserialize_true_cons _ hb]
    cases deserialize ⟨any, intSerializer⟩ (some b) false with
    | error e => simp
    | ok p => simp [Prod.ext_iff]

/-- `null` and `[]` collide in value-only mode (§4.2, §8). Both are written as the four zero bytes
    of `{length}`; those bytes read back as the empty list, and value-only decoding never yields
    `null`. -/
theorem serialize_null_value_only (any : AnySerializer α) :
    serialize ⟨any, intSerializer⟩ none false = .ok [0x00, 0x00, 0x00, 0x00] ∧
      serialize ⟨any, intSerializer⟩ (some []) false = .ok [0x00, 0x00, 0x00, 0x00] ∧
      (∀ r, deserialize ⟨any, intSerializer⟩ (some ([0x00, 0x00, 0x00, 0x00] ++ r)) false =
        .ok (some [], 4)) ∧
      ∀ b v n, deserialize ⟨any, intSerializer⟩ (some b) false = .ok (v, n) → v ≠ none := by
  refine ⟨rfl, by simp [serialize_int32, writeInt32BE],
    fun r => by simp [deserializeValue, readInt32BE], fun b v n h => ?_⟩
  rcases deserialize_eq_ok.mp h with ⟨⟨⟩, -⟩ | ⟨-, c, rfl, hv⟩
  obtain ⟨length, length_len, ps, -, -, -, -, rfl, -⟩ := deserializeValue_eq_ok.mp hv
  exact Option.some_ne_none _

end ListSerializer
end GraphBinary
