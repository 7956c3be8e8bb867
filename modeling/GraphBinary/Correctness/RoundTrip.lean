import GraphBinary.Correctness.Framing
import GraphBinary.Dispatch.Int

/-!
# `Correctness.RoundTrip` — decoding undoes encoding

For a dispatcher whose items round-trip, `deserialize (serialize xs fq ++ r) fq` gives back the
list of the items' normal forms and exactly the encoding's length, in both modes and whatever
bytes `r` follow. The induction is over the list (`deserializeItems_serializeItems`): each item's
bytes are followed by the rest of the list and then by `r`, which is why the dispatcher's law is
stated for every suffix.
-/

namespace GraphBinary
namespace ListSerializer

open IntSerializer

variable {α : Type} {norm : α → α}

/-- The loop inverts `serializeItems`: items that round-trip are written, and read back from their
    bytes, with anything after them, as their normal forms and their total length. -/
theorem deserializeItems_serializeItems (ioc : Ioc α) {xs : List α}
    (hxs : ∀ x ∈ xs, RoundTrips ioc.anySerializer norm x) :
    ∃ c, serializeItems ioc xs = .ok c ∧ ∀ i len v r,
      deserializeItems ioc i xs.length len (c ++ r) v = .ok (v ++ xs.map norm, len + c.length) := by
  induction xs with
  | nil => exact ⟨[], rfl, fun _ _ _ _ => by simp⟩
  | cons x xs ih =>
    obtain ⟨cx, hser, hdes⟩ := hxs x (List.mem_cons_self x xs)
    obtain ⟨cs, hcs, hloop⟩ := ih fun y hy => hxs y (List.mem_cons_of_mem x hy)
    refine ⟨cx ++ cs, by rw [serializeItems_cons_ok hser, hcs]; rfl, fun i len v r => ?_⟩
    rw [List.length_cons, List.append_assoc, deserializeItems_succ_ok (hdes _), List.drop_left,
      hloop]
    simp [Nat.add_assoc]

/-- A list of at most `INT32_MAX` round-tripping items is written, and its bytes, followed by
    anything, decode in the same mode to the items' normal forms and exactly their own length. -/
theorem serialize_roundTrip {any : AnySerializer α} (fq : Bool) {xs : List α}
    (hxs : ∀ x ∈ xs, RoundTrips any norm x) (hlen : xs.length ≤ 2147483647) :
    ∃ c, serialize ⟨any, intSerializer⟩ (some xs) fq = .ok c ∧ ∀ r,
      deserialize ⟨any, intSerializer⟩ (some (c ++ r)) fq = .ok (some (xs.map norm), c.length) := by
  obtain ⟨cs, hcs, hloop⟩ := deserializeItems_serializeItems ⟨any, intSerializer⟩ hxs
  refine ⟨header fq ++ writeInt32BE xs.length ++ cs, by rw [serialize_int32 hlen, hcs]; rfl,
    fun r => ?_⟩
  rw [List.append_assoc, List.append_assoc, deserialize_header (by simp [writeInt32BE]),
    deserializeValue_writeInt32BE (by omega) (by omega), Int.toNat_ofNat, hloop]
  simp [Nat.add_assoc]

/-- **Round trip of the list format.** A list of at most `INT32_MAX` items that each round-trip
    decodes, in either mode and with any trailing bytes, to the items' normal forms and exactly its
    encoding's length. The fully-qualified `null` decodes to `null` and two bytes; a longer list
    throws. -/
theorem deserialize_serialize (any : AnySerializer α) (norm : α → α) (fq : Bool) (xs : List α)
    (r : Bytes) (hxs : ∀ x ∈ xs, RoundTrips any norm x) (hlen : xs.length ≤ 2147483647) :
    (∃ c, serialize ⟨any, intSerializer⟩ (some xs) fq = .ok c ∧
        deserialize ⟨any, intSerializer⟩ (some (c ++ r)) fq = .ok (some (xs.map norm), c.length)) ∧
      (∃ c, serialize ⟨any, intSerializer⟩ none true = .ok c ∧ c.length = 2 ∧
        deserialize ⟨any, intSerializer⟩ (some (c ++ r)) true = .ok (none, c.length)) ∧
      ∀ ys : List α, 2147483647 < ys.length →
        ∃ msg, serialize ⟨any, intSerializer⟩ (some ys) fq = .error msg := by
  obtain ⟨c, hc, hd⟩ := serialize_roundTrip fq hxs hlen
  exact ⟨⟨c, hc, hd r⟩, ⟨_, rfl, rfl, rfl⟩,
    fun ys hys => serialize_some_of_gt (by simp only [intSerializer_INT32_MAX]; omega)⟩

/-- Three items of two encoded lengths — `1`, `null` and `-7` — through the INT serializer, followed by
    two stray bytes. -/
theorem deserialize_serialize_one :
    (∀ x ∈ ([some ⟨1, by decide⟩, none, some ⟨-7, by decide⟩] : List (Option Int32Value)),
        RoundTrips intSerializerFq id x) ∧
      ([some ⟨1, by decide⟩, none, some ⟨-7, by decide⟩] : List (Option Int32Value)).length ≤
        2147483647 ∧
      ∃ c, serialize ⟨intSerializerFq, intSerializer⟩
          (some [some ⟨1, by decide⟩, none, some ⟨-7, by decide⟩]) true = .ok c ∧
        deserialize ⟨intSerializerFq, intSerializer⟩ (some (c ++ [0xAB, 0xCD])) true =
          .ok (some (([some ⟨1, by decide⟩, none, some ⟨-7, by decide⟩] :
            List (Option Int32Value)).map id), c.length) :=
  have h1 : ∀ x ∈ ([some ⟨1, by decide⟩, none, some ⟨-7, by decide⟩] : List (Option Int32Value)),
      RoundTrips intSerializerFq id x := fun x _ => IntSerializerFq.roundTrips x
  have h2 : ([some ⟨1, by decide⟩, none, some ⟨-7, by decide⟩] : List (Option Int32Value)).length ≤
      2147483647 := by decide
  ⟨h1, h2, (deserialize_serialize intSerializerFq id true _ [0xAB, 0xCD] h1 h2).1⟩

/-- `AnySerializer-test`'s bytes for `[1]`. -/
example : serialize ⟨intSerializerFq, intSerializer⟩ (some [some ⟨1, by decide⟩]) true =
    .ok [DataType.LIST, 0x00, 0x00, 0x00, 0x00, 0x01, DataType.INT, 0x00, 0x00, 0x00, 0x00, 0x01] :=
  rfl

end ListSerializer
end GraphBinary
