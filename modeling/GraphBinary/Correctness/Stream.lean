import GraphBinary.Correctness.RoundTrip

/-!
# `Correctness.Stream` — a list inside a byte stream

A list's encoding is read out of a longer buffer: whatever follows it belongs to the next value.
Three properties make that safe, for every list and every dispatcher:

* `serialize_layout` — what the encoder writes: the header of the mode, the four bytes of the
  count and each item's encoding in order, and nothing else (with `serialize_error`, the whole of
  `serialize`);
* `serialize_prefix_unique` — a stream parses one way: two encodings that both begin it are the
  same encoding, of lists equal up to the dispatcher's normalisation;
* `deserialize_item_count_le` — `{length}` is not checked against the buffer, yet the decoder
  makes at most one item attempt more than there are bytes after it, when each item consumes a
  byte.
-/

namespace GraphBinary
namespace ListSerializer

open IntSerializer

variable {α : Type}

/-! ## What the encoder writes -/

/-- An encoder that succeeded was given at most `INT32_MAX` items. -/
theorem length_le_of_serialize {any : AnySerializer α} {fq : Bool} {xs : List α} {c : Bytes}
    (h : serialize ⟨any, intSerializer⟩ (some xs) fq = .ok c) : xs.length ≤ 2147483647 := by
  by_contra hlen
  obtain ⟨msg, h'⟩ : ∃ msg, serialize ⟨any, intSerializer⟩ (some xs) fq = .error msg :=
    serialize_some_of_gt (by simp; omega)
  exact nomatch h.symm.trans h'

/-- **The encoder's layout.** `serialize` succeeds exactly on lists of at most `INT32_MAX` items
    that all encode, and writes the header, the four bytes of the count and the items' encodings in
    order. -/
theorem serialize_layout (any : AnySerializer α) (fq : Bool) (xs : List α) (c : Bytes) :
    serialize ⟨any, intSerializer⟩ (some xs) fq = .ok c ↔
      xs.length ≤ 2147483647 ∧ ∃ cs, List.Forall₂ (fun x b => any.serialize x = .ok b) xs cs ∧
        c = header fq ++ writeInt32BE xs.length ++ cs.flatten := by
  by_cases hlen : xs.length ≤ 2147483647
  · rw [serialize_int32 hlen, except_map_eq_ok]
    constructor
    · rintro ⟨_, hitems, rfl⟩
      obtain ⟨cs, hcs, rfl⟩ := serializeItems_eq_ok.mp hitems
      exact ⟨hlen, cs, hcs, rfl⟩
    · rintro ⟨-, cs, hcs, rfl⟩
      exact ⟨_, serializeItems_eq_ok.mpr ⟨cs, hcs, rfl⟩, rfl⟩
  · exact ⟨fun h => absurd (length_le_of_serialize h) hlen, fun h => absurd h.1 hlen⟩

/-! ## A stream parses one way -/

/-- **Encodings are prefix-unique.** If the encodings of two lists of round-tripping items both
    begin one stream, they are the same bytes, the rest of the stream is the same, and the lists
    agree up to the dispatcher's normalisation (exactly, for an exact dispatcher). -/
theorem serialize_prefix_unique (any : AnySerializer α) (norm : α → α) (fq : Bool)
    {xs ys : List α} {c c' r r' : Bytes} (hxs : ∀ x ∈ xs, RoundTrips any norm x)
    (hys : ∀ y ∈ ys, RoundTrips any norm y)
    (hc : serialize ⟨any, intSerializer⟩ (some xs) fq = .ok c)
    (hc' : serialize ⟨any, intSerializer⟩ (some ys) fq = .ok c') (h : c ++ r = c' ++ r') :
    xs.map norm = ys.map norm ∧ c = c' ∧ r = r' := by
  obtain ⟨d, hd, hdec⟩ := serialize_roundTrip fq hxs (length_le_of_serialize hc)
  obtain ⟨d', hd', hdec'⟩ := serialize_roundTrip fq hys (length_le_of_serialize hc')
  cases hc.symm.trans hd
  cases hc'.symm.trans hd'
  have same := (hdec r).symm.trans (h ▸ hdec' r')
  obtain ⟨hv, hn⟩ := Prod.mk.inj (Except.ok.inj same)
  obtain ⟨rfl, rfl⟩ := List.append_inj h hn
  exact ⟨Option.some.inj hv, rfl, rfl⟩

/-- Three items of two encoded lengths, followed by two bytes of the next value: one encoding,
    read one way. -/
theorem serialize_prefix_unique_one :
    (∀ x ∈ [some ⟨1, by decide⟩, none, some ⟨-7, by decide⟩],
        RoundTrips intSerializerFq id x) ∧
      serialize ⟨intSerializerFq, intSerializer⟩
          (some [some ⟨1, by decide⟩, none, some ⟨-7, by decide⟩]) true =
        .ok [DataType.LIST, 0x00, 0, 0, 0, 3, DataType.INT, 0x00, 0, 0, 0, 1, DataType.INT, 0x01,
          DataType.INT, 0x00, 0xFF, 0xFF, 0xFF, 0xF9] ∧
      ([some ⟨1, by decide⟩, none, some ⟨-7, by decide⟩] : List (Option Int32Value)).map id =
          [some ⟨1, by decide⟩, none, some ⟨-7, by decide⟩].map id ∧
        ([DataType.LIST, 0x00, 0, 0, 0, 3, DataType.INT, 0x00, 0, 0, 0, 1, DataType.INT, 0x01,
            DataType.INT, 0x00, 0xFF, 0xFF, 0xFF, 0xF9] : Bytes) =
          [DataType.LIST, 0x00, 0, 0, 0, 3, DataType.INT, 0x00, 0, 0, 0, 1, DataType.INT, 0x01,
            DataType.INT, 0x00, 0xFF, 0xFF, 0xFF, 0xF9] ∧
        ([0xAB, 0xCD] : Bytes) = [0xAB, 0xCD] :=
  have hxs : ∀ x ∈ [some ⟨1, by decide⟩, none, some ⟨-7, by decide⟩],
      RoundTrips intSerializerFq id x := fun x _ => IntSerializerFq.roundTrips x
  have hc : serialize ⟨intSerializerFq, intSerializer⟩
      (some [some ⟨1, by decide⟩, none, some ⟨-7, by decide⟩]) true =
      .ok [DataType.LIST, 0x00, 0, 0, 0, 3, DataType.INT, 0x00, 0, 0, 0, 1, DataType.INT, 0x01,
        DataType.INT, 0x00, 0xFF, 0xFF, 0xFF, 0xF9] := rfl
  ⟨hxs, hc, serialize_prefix_unique intSerializerFq id true hxs hxs hc hc rfl⟩

/-! ## A claimed `{length}` cannot outrun the bytes -/

/-- Items decoded back to back by a decoder that makes progress number at most the bytes they
    consume, and consume at most the bytes there are. -/
theorem itemsDecode_length_le {any : AnySerializer α} (hany : Progresses any.deserialize)
    {cursor : Bytes} {ps : List (α × Nat)} (hd : ItemsDecode any cursor ps) :
    ps.length ≤ (ps.map Prod.snd).sum ∧ (ps.map Prod.snd).sum ≤ cursor.length := by
  induction ps generalizing cursor with
  | nil => simp
  | cons p ps ih =>
    obtain ⟨value, value_len⟩ := p
    obtain ⟨hp, hps⟩ := hd
    obtain ⟨hpos, hle⟩ := hany _ _ _ hp
    obtain ⟨ih₁, ih₂⟩ := ih hps
    rw [List.length_drop] at ih₂
    simp only [List.length_cons, List.map_cons, List.sum_cons]
    omega

/-- **The decoder makes at most one item attempt more than there are bytes after `{length}`.**
    Whatever count `{length}` claims, a success returns at most as many items as there are bytes
    after it, and a failure is the negative count or an `{item_i}` with `i` at most that number of
    bytes: the loop calls the dispatcher at most once more than there are bytes. -/
theorem deserialize_item_count_le (any : AnySerializer α) (hany : Progresses any.deserialize)
    (fq : Bool) (b0 b1 b2 b3 : UInt8) (rest : Bytes) :
    (∀ xs n, deserialize ⟨any, intSerializer⟩ (some (header fq ++ b0 :: b1 :: b2 :: b3 :: rest)) fq =
        .ok (some xs, n) → xs.length ≤ rest.length) ∧
      ∀ e, deserialize ⟨any, intSerializer⟩ (some (header fq ++ b0 :: b1 :: b2 :: b3 :: rest)) fq =
        .error e → e.msg = "\x7blength\x7d is less than zero" ∨
          ∃ (i : Nat) (msg : String), i ≤ rest.length ∧ e.msg = s!"\x7bitem_{i}\x7d: {msg}" := by
  rw [deserialize_header (by simp)]
  simp only [deserializeValue, deserialize_cons4, List.drop_succ_cons, List.drop_zero]
  split_ifs with hneg
  · exact ⟨nofun, fun e h => by cases h; exact .inl rfl⟩
  · refine ⟨fun xs n h => ?_, fun e h => ?_⟩
    · obtain ⟨⟨w, m⟩, hitems, he⟩ := except_map_eq_ok.mp h
      obtain ⟨ps, -, hd, rfl, -⟩ := deserializeItems_eq_ok.mp hitems
      cases he
      have := itemsDecode_length_le hany hd
      simp only [List.nil_append, List.length_map]
      omega
    · obtain ⟨ps, msg, -, hd, -, rfl⟩ := deserializeItems_eq_error.mp (except_map_eq_error.mp h)
      have := itemsDecode_length_le hany hd
      exact .inr ⟨_, msg, by omega, rfl⟩

/-- A claimed count of five with two bytes after it: a `null` item, then a failed attempt. -/
theorem deserialize_item_count_le_five :
    Progresses intSerializerFq.deserialize ∧
      (∀ xs n, deserialize ⟨intSerializerFq, intSerializer⟩
          (some (header true ++ [0, 0, 0, 5, DataType.INT, 0x01])) true =
          .ok (some xs, n) → xs.length ≤ [DataType.INT, 0x01].length) ∧
        ∀ e, deserialize ⟨intSerializerFq, intSerializer⟩
          (some (header true ++ [0, 0, 0, 5, DataType.INT, 0x01])) true =
          .error e → e.msg = "\x7blength\x7d is less than zero" ∨
            ∃ (i : Nat) (msg : String), i ≤ [DataType.INT, 0x01].length ∧
              e.msg = s!"\x7bitem_{i}\x7d: {msg}" :=
  ⟨IntSerializerFq.progresses,
    deserialize_item_count_le intSerializerFq IntSerializerFq.progresses true 0 0 0 5
      [DataType.INT, 0x01]⟩

end ListSerializer
end GraphBinary
