import GraphBinary.Correctness.Framing
import GraphBinary.Dispatch.Int

/-!
# `Correctness.Canonical` — encoding undoes decoding

The converse of `Correctness.RoundTrip`: whatever the list decoder accepts, the list encoder writes
back byte for byte, so an accepted buffer always begins with the encoding of the list it decodes
to. The decoder admits no framing the encoder does not produce: no third value flag, no negative
`{length}` (`deserializeValue` rejects it), and the four `{length}` bytes of a count that fits in
an `int32` are the ones `writeInt32BE` writes (`writeInt32BE_readInt32BE`).
-/

namespace GraphBinary
namespace ListSerializer

open IntSerializer

variable {α : Type}

/-- Items decoded by a dispatcher that re-encodes what it decodes, at least for the items that
    satisfy `P`, re-encode to exactly the bytes their decodes consumed when they all satisfy `P`. -/
theorem serializeItems_of_itemsDecode_on {ioc : Ioc α} (P : α → Prop)
    (hany : ∀ c v n, ioc.anySerializer.deserialize c = .ok (v, n) → P v →
      ioc.anySerializer.serialize v = .ok (c.take n))
    {cursor : Bytes} {ps : List (α × Nat)} (h : ItemsDecode ioc.anySerializer cursor ps)
    (hP : ∀ p ∈ ps, P p.1) :
    serializeItems ioc (ps.map Prod.fst) = .ok (cursor.take (ps.map Prod.snd).sum) := by
  induction ps generalizing cursor with
  | nil => simp
  | cons p ps ih =>
    obtain ⟨x, m⟩ := p
    obtain ⟨h₁, h₂⟩ := h
    rw [List.map_cons, serializeItems_cons_ok (hany _ _ _ h₁ (hP _ (List.mem_cons_self _ _))),
      ih h₂ (fun p hp => hP p (List.mem_cons_of_mem _ hp)), List.map_cons, List.sum_cons,
      List.take_add]
    rfl

/-- A framing the decoder accepts — a non-negative `int32` count and that many items decoded back
    to back by a dispatcher that re-encodes them — is what the encoder writes for the decoded
    items. -/
theorem serialize_framed_on {any : AnySerializer α} (P : α → Prop)
    (hany : ∀ c v n, any.deserialize c = .ok (v, n) → P v → any.serialize v = .ok (c.take n))
    (fq : Bool) {b0 b1 b2 b3 : UInt8} {rest : Bytes} {ps : List (α × Nat)}
    (h0 : 0 ≤ readInt32BE b0 b1 b2 b3) (hl : ps.length = (readInt32BE b0 b1 b2 b3).toNat)
    (hd : ItemsDecode any rest ps) (hP : ∀ p ∈ ps, P p.1) :
    serialize ⟨any, intSerializer⟩ (some (ps.map Prod.fst)) fq =
      .ok (header fq ++ b0 :: b1 :: b2 :: b3 :: rest.take (ps.map Prod.snd).sum) := by
  have hw : writeInt32BE ((ps.map Prod.fst).length : Int) = [b0, b1, b2, b3] := by
    rw [List.length_map, hl, Int.toNat_of_nonneg h0, writeInt32BE_readInt32BE]
  have hlen : (ps.map Prod.fst).length ≤ 2147483647 := by
    have := (readInt32BE_range b0 b1 b2 b3).2
    simp only [List.length_map, hl]
    omega
  rw [serialize_int32 hlen, serializeItems_of_itemsDecode_on P hany hd hP, hw]
  simp

/-- `serialize_framed_on` for a canonical dispatcher. -/
theorem serialize_framed {any : AnySerializer α} (hany : Canonical any) (fq : Bool)
    {b0 b1 b2 b3 : UInt8} {rest : Bytes} {ps : List (α × Nat)} (h0 : 0 ≤ readInt32BE b0 b1 b2 b3)
    (hl : ps.length = (readInt32BE b0 b1 b2 b3).toNat) (hd : ItemsDecode any rest ps) :
    serialize ⟨any, intSerializer⟩ (some (ps.map Prod.fst)) fq =
      .ok (header fq ++ b0 :: b1 :: b2 :: b3 :: rest.take (ps.map Prod.snd).sum) :=
  serialize_framed_on (fun _ => True) (fun c v n h _ => hany c v n h) fq h0 hl hd
    (fun _ _ => trivial)

/-- **No non-canonical framings.** If the list decoder accepts `b` as `v` and `n` bytes, the list
    encoder writes `v` as exactly the first `n` bytes of `b`, in both modes. -/
theorem serialize_deserialize (any : AnySerializer α) (hany : Canonical any) (b : Bytes)
    (fq : Bool) (v : Option (List α)) (n : Nat)
    (h : deserialize ⟨any, intSerializer⟩ (some b) fq = .ok (v, n)) :
    serialize ⟨any, intSerializer⟩ v fq = .ok (b.take n) := by
  rcases deserialize_int32_eq_ok.mp h with ⟨rfl, ⟨c, rfl⟩, rfl, rfl⟩ | ⟨b0, b1, b2, b3, rest, ps,
    rfl, h0, hl, hd, rfl, rfl⟩
  · rfl
  · rw [take_header_append]
    exact serialize_framed hany fq h0 hl hd

/-- The bytes of `[1, null, -7]`, followed by two stray bytes, re-encode to themselves. -/
theorem serialize_deserialize_one :
    Canonical intSerializerFq ∧
      deserialize ⟨intSerializerFq, intSerializer⟩
        (some [DataType.LIST, 0x00, 0, 0, 0, 3, DataType.INT, 0x00, 0, 0, 0, 1, DataType.INT, 0x01,
          DataType.INT, 0x00, 0xFF, 0xFF, 0xFF, 0xF9, 0xAB, 0xCD]) true =
          .ok (some [some ⟨1, by decide⟩, none, some ⟨-7, by decide⟩], 20) ∧
      serialize ⟨intSerializerFq, intSerializer⟩
        (some [some ⟨1, by decide⟩, none, some ⟨-7, by decide⟩]) true =
        .ok ([DataType.LIST, 0x00, 0, 0, 0, 3, DataType.INT, 0x00, 0, 0, 0, 1, DataType.INT, 0x01,
          DataType.INT, 0x00, 0xFF, 0xFF, 0xFF, 0xF9, 0xAB, 0xCD].take 20) :=
  ⟨IntSerializerFq.canonical, rfl,
    serialize_deserialize intSerializerFq IntSerializerFq.canonical _ true _ _ rfl⟩

end ListSerializer
end GraphBinary
