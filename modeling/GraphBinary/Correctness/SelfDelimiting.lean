import GraphBinary.Correctness.Framing
import GraphBinary.Dispatch.Int

/-!
# `Correctness.SelfDelimiting` — the list decoder reads its own bytes and no others

If the dispatcher's decoder is self-delimiting, so is the list decoder: the `len` it reports is
the framing plus exactly what the item decodes reported, it never exceeds the buffer, and cutting
the buffer right after it, then appending anything, changes nothing. The loop's part is
`itemsDecode_take`, by induction over the trace of item decodes (`ItemsDecode`); the `{length}`
field is four bytes (`Correctness.Framing`).
-/

namespace GraphBinary
namespace ListSerializer

open IntSerializer

variable {α : Type} {any : AnySerializer α}

/-- A trace of self-delimiting item decodes stays inside its cursor, and is still the trace when
    the cursor is cut after the bytes it reports and followed by anything. -/
theorem itemsDecode_take (hany : SelfDelimiting any.deserialize) {cursor : Bytes}
    {ps : List (α × Nat)} (h : ItemsDecode any cursor ps) :
    (ps.map Prod.snd).sum ≤ cursor.length ∧
      ∀ r, ItemsDecode any (cursor.take (ps.map Prod.snd).sum ++ r) ps := by
  induction ps generalizing cursor with
  | nil => simp
  | cons p ps ih =>
    obtain ⟨x, m⟩ := p
    obtain ⟨h₁, h₂⟩ := h
    obtain ⟨hm, hm'⟩ := hany _ _ _ h₁
    obtain ⟨hs, hs'⟩ := ih h₂
    simp only [List.length_drop] at hs
    have hsplit : ∀ r, cursor.take (m + (ps.map Prod.snd).sum) ++ r =
        cursor.take m ++ ((cursor.drop m).take (ps.map Prod.snd).sum ++ r) := by
      intro r; rw [List.take_add, List.append_assoc]
    rw [List.map_cons, List.sum_cons]
    refine ⟨by omega, fun r => ⟨?_, ?_⟩⟩
    · rw [hsplit, hm']
    · rw [hsplit, List.drop_left' (by simp; omega)]
      exact hs' r

/-- A success of the list decoder reads at most the buffer, and only the bytes it reports. -/
theorem deserialize_take_append (hany : SelfDelimiting any.deserialize) {b : Bytes} {fq : Bool}
    {v : Option (List α)} {n : Nat}
    (h : deserialize ⟨any, intSerializer⟩ (some b) fq = .ok (v, n)) :
    n ≤ b.length ∧ ∀ r, deserialize ⟨any, intSerializer⟩ (some (b.take n ++ r)) fq = .ok (v, n) := by
  rcases deserialize_int32_eq_ok.mp h with ⟨rfl, ⟨c, rfl⟩, rfl, rfl⟩ | ⟨b0, b1, b2, b3, rest, ps,
    rfl, h0, hl, hd, rfl, rfl⟩
  · exact ⟨by simp, fun r => rfl⟩
  · obtain ⟨hs, hs'⟩ := itemsDecode_take hany hd
    refine ⟨by simp; omega, fun r => deserialize_int32_eq_ok.mpr (.inr ?_)⟩
    rw [take_header_append]
    exact ⟨b0, b1, b2, b3, _, ps, by simp, h0, hl, hs' r, rfl, rfl⟩

/-- **The list decoder is self-delimiting.** On success `deserialize` reports the framing — the
    two-byte `null`, or the header of its mode and four bytes of `{length}` — plus the lengths the
    item decodes reported; that is at most the buffer; and the buffer cut there, followed by any
    bytes, decodes the same. -/
theorem deserialize_self_delimiting (any : AnySerializer α) (hany : SelfDelimiting any.deserialize)
    (b : Bytes) (fq : Bool) (v : Option (List α)) (n : Nat)
    (h : deserialize ⟨any, intSerializer⟩ (some b) fq = .ok (v, n)) :
    ((fq = true ∧ v = none ∧ n = 2) ∨
      ∃ ps, ItemsDecode any (b.drop ((if fq then 2 else 0) + 4)) ps ∧
        v = some (ps.map Prod.fst) ∧ n = (if fq then 2 else 0) + 4 + (ps.map Prod.snd).sum) ∧
      n ≤ b.length ∧
      ∀ r, deserialize ⟨any, intSerializer⟩ (some (b.take n ++ r)) fq = .ok (v, n) := by
  refine ⟨?_, deserialize_take_append hany h⟩
  rcases deserialize_int32_eq_ok.mp h with ⟨rfl, -, rfl, rfl⟩ | ⟨b0, b1, b2, b3, rest, ps, rfl, -,
    -, hd, rfl, rfl⟩
  · exact .inl ⟨rfl, rfl, rfl⟩
  · rw [← header_length, List.drop_append]
    exact .inr ⟨ps, hd, rfl, rfl⟩

/-- `[1, null, -7]` followed by two stray bytes: twenty bytes are read, and only they matter. -/
theorem deserialize_self_delimiting_one :
    SelfDelimiting intSerializerFq.deserialize ∧
      deserialize ⟨intSerializerFq, intSerializer⟩
        (some [DataType.LIST, 0x00, 0, 0, 0, 3, DataType.INT, 0x00, 0, 0, 0, 1, DataType.INT, 0x01,
          DataType.INT, 0x00, 0xFF, 0xFF, 0xFF, 0xF9, 0xAB, 0xCD]) true =
          .ok (some [some ⟨1, by decide⟩, none, some ⟨-7, by decide⟩], 20) ∧
      20 ≤ [DataType.LIST, 0x00, 0, 0, 0, 3, DataType.INT, 0x00, 0, 0, 0, 1, DataType.INT, 0x01,
          DataType.INT, 0x00, 0xFF, 0xFF, 0xFF, 0xF9, 0xAB, 0xCD].length :=
  ⟨IntSerializerFq.selfDelimiting, rfl, (deserialize_self_delimiting intSerializerFq
    IntSerializerFq.selfDelimiting [DataType.LIST, 0x00, 0, 0, 0, 3, DataType.INT, 0x00, 0, 0, 0, 1,
      DataType.INT, 0x01, DataType.INT, 0x00, 0xFF, 0xFF, 0xFF, 0xF9, 0xAB, 0xCD] true _ _ rfl).2.1⟩

end ListSerializer
end GraphBinary
