import GraphBinary.Correctness.RoundTrip
import GraphBinary.Correctness.SelfDelimiting
import GraphBinary.Correctness.Canonical

/-!
# `Dispatch.Value` — the dispatcher and the list serializer, recursively

The list serializer calls the dispatcher for every item, and the dispatcher calls the list
serializer for every item that is itself a list (§2: "the system is a call graph"). This module
closes that loop on the fragment of the value domain made of `null`, 32-bit integers and lists of
such values, and shows what holds of the whole recursive codec: each list level gets it from the
level below through the list serializer's own theorems (`serialize_roundTrip`,
`deserialize_take_append`, `serialize_framed_on`).

`null` has three encodings on the wire — the INT null `[0x01,0x01]`, the LIST null `[0x09,0x01]` and
`UNSPECIFIED_NULL` `[0xFE,0x01]` — and all three decode to the one `null`, which the dispatcher
writes as the last (§4.1, `AnySerializer-test`). So the codec round-trips every value
(`roundTrips_anyValue`), but re-encodes what it decodes byte for byte only when no `null` is in it
(`reencode_anyValue`).

`AnySerializer.js` is not in the excerpt. The recursion through it is unbounded in the source; here
it is given a depth budget `d` (as §9 recommends), and the theorems hold for every budget, each
value being handled by any budget its nesting fits in (`Fits`).
-/

namespace GraphBinary

open IntSerializer ListSerializer

/-- The values of this fragment: `null`, a number in the `int32` range, and a list. -/
inductive Value where
  | null : Value
  | int : Int32Value → Value
  | list : List Value → Value

/-- Modelled from the spec: `anySerializer` (§4.1) on `Value`, with `d` levels of list nesting left.
    Encoding picks the serializer by the value's shape and writes it fully qualified, `null` as
    `UNSPECIFIED_NULL`; decoding reads the type code and hands the whole buffer to that serializer's
    fully-qualified decoder, a `null` from any of them being the one `null`. -/
def anyValue : Nat → AnySerializer Value
  | 0 => ⟨fun _ => .error "recursion limit exceeded", fun _ => .error "recursion limit exceeded"⟩
  | d + 1 =>
    { serialize := fun
        | .null => .ok [DataType.UNSPECIFIED_NULL, 0x01]
        | .int x => intSerializerFq.serialize (some x)
        | .list xs => ListSerializer.serialize ⟨anyValue d, intSerializer⟩ (some xs) true
      deserialize := fun buffer =>
        match buffer with
        | [] => .error "buffer is empty"
        | type_code :: cursor =>
          if type_code = DataType.INT then
            (intSerializerFq.deserialize buffer).map fun (x, len) => (x.elim .null .int, len)
          else if type_code = DataType.LIST then
            match ListSerializer.deserialize ⟨anyValue d, intSerializer⟩ (some buffer) true with
            | .ok (l, len) => .ok (l.elim .null .list, len)
            | .error e => .error e.msg
          else if type_code = DataType.UNSPECIFIED_NULL then
            match cursor with
            | [] => .error "\x7bvalue_flag\x7d is missing"
            | value_flag :: _ =>
              if value_flag = 0x01 then .ok (.null, 2) else .error "unexpected \x7bvalue_flag\x7d"
          else .error "unknown \x7btype_code\x7d" }

/-- `v` can be encoded with a budget of `d`: its lists have at most `INT32_MAX` items, and lists
    nest fewer than `d` deep. -/
def Fits : Nat → Value → Prop
  | 0, _ => False
  | _ + 1, .null => True
  | _ + 1, .int _ => True
  | d + 1, .list xs => xs.length ≤ 2147483647 ∧ ∀ x ∈ xs, Fits d x

/-- `v` holds no `null`, at any depth. -/
inductive NullFree : Value → Prop
  | int (x : Int32Value) : NullFree (.int x)
  | list (xs : List Value) (h : ∀ x ∈ xs, NullFree x) : NullFree (.list xs)

namespace AnyValue

variable {d : Nat}

@[simp] theorem serialize_null :
    (anyValue (d + 1)).serialize .null = .ok [DataType.UNSPECIFIED_NULL, 0x01] := rfl

@[simp] theorem serialize_int (x : Int32Value) :
    (anyValue (d + 1)).serialize (.int x) = intSerializerFq.serialize (some x) := rfl

@[simp] theorem serialize_list (xs : List Value) :
    (anyValue (d + 1)).serialize (.list xs) =
      ListSerializer.serialize ⟨anyValue d, intSerializer⟩ (some xs) true := rfl

theorem deserialize_int_cons (c : Bytes) :
    (anyValue (d + 1)).deserialize (DataType.INT :: c) =
      (intSerializerFq.deserialize (DataType.INT :: c)).map
        fun (x, len) => (x.elim .null .int, len) := rfl

theorem deserialize_list_cons (c : Bytes) :
    (anyValue (d + 1)).deserialize (DataType.LIST :: c) =
      match ListSerializer.deserialize ⟨anyValue d, intSerializer⟩ (some (DataType.LIST :: c)) true with
      | .ok (l, len) => .ok (l.elim .null .list, len)
      | .error e => .error e.msg := rfl

theorem deserialize_null_cons (c : Bytes) :
    (anyValue (d + 1)).deserialize (DataType.UNSPECIFIED_NULL :: 0x01 :: c) = .ok (.null, 2) := rfl

/-- **The dispatcher's decoding spec.** A success is a decode of the INT serializer or of the list
    serializer one level down, a `null` from either being the one `null`, or the two-byte
    `UNSPECIFIED_NULL`; the type code decides which. -/
theorem deserialize_eq_ok {c : Bytes} {v : Value} {n : Nat} :
    (anyValue (d + 1)).deserialize c = .ok (v, n) ↔
      (∃ x, intSerializerFq.deserialize c = .ok (x, n) ∧ v = x.elim .null .int) ∨
      (∃ l, ListSerializer.deserialize ⟨anyValue d, intSerializer⟩ (some c) true = .ok (l, n) ∧
        v = l.elim .null .list) ∨
      ((∃ r, c = DataType.UNSPECIFIED_NULL :: 0x01 :: r) ∧ v = .null ∧ n = 2) := by
  constructor
  · intro h
    match c, h with
    | [], h => cases h
    | t :: c, h =>
      simp only [anyValue] at h
      split_ifs at h with hint hlist hnull
      · obtain ⟨⟨x, m⟩, hx, he⟩ := except_map_eq_ok.mp h
        cases he
        exact .inl ⟨x, hx, rfl⟩
      · split at h
        · cases h
          exact .inr (.inl ⟨_, by assumption, rfl⟩)
        · cases h
      · split at h
        · cases h
        · split_ifs at h with hflag
          cases h
          exact .inr (.inr ⟨⟨_, by rw [hnull, hflag]⟩, rfl, rfl⟩)
  · rintro (⟨x, h, rfl⟩ | ⟨l, h, rfl⟩ | ⟨⟨r, rfl⟩, rfl, rfl⟩)
    · obtain ⟨c, rfl⟩ : ∃ c', c = DataType.INT :: c' := by
        rcases IntSerializerFq.deserialize_eq_ok.mp h with ⟨⟨r, rfl⟩, -⟩ |
          ⟨_, _, _, _, _, r, rfl, -⟩ <;> exact ⟨_, rfl⟩
      rw [deserialize_int_cons, h]
      rfl
    · obtain ⟨c, rfl⟩ : ∃ c', c = DataType.LIST :: c' := by
        rcases ListSerializer.deserialize_eq_ok.mp h with ⟨-, ⟨c, rfl⟩, -⟩ | ⟨-, c, rfl, -⟩ <;>
          exact ⟨_, rfl⟩
      rw [deserialize_list_cons, h]
    · exact deserialize_null_cons r

/-- Whatever the dispatcher decodes fits its budget: the items of a decoded list were decoded one
    level down, and there are at most `INT32_MAX` of them. -/
theorem fits_of_deserialize {c : Bytes} {v : Value} {n : Nat}
    (h : (anyValue d).deserialize c = .ok (v, n)) : Fits d v := by
  induction d generalizing c v n with
  | zero => cases h
  | succ d ih =>
    rcases deserialize_eq_ok.mp h with ⟨x, -, rfl⟩ | ⟨l, hl, rfl⟩ | ⟨-, rfl, -⟩
    · cases x <;> trivial
    · rcases deserialize_int32_eq_ok.mp hl with ⟨-, -, rfl, -⟩ |
        ⟨b0, b1, b2, b3, rest, ps, -, -, hlen, hd, rfl, -⟩
      · trivial
      · have := (readInt32BE_range b0 b1 b2 b3).2
        refine ⟨by rw [List.length_map, hlen]; omega, fun x hx => ?_⟩
        obtain ⟨p, hp, rfl⟩ := List.mem_map.mp hx
        obtain ⟨c', hc'⟩ := itemsDecode_mem hd hp
        exact ih hc'
    · trivial

/-- Whatever the dispatcher decodes with no `null` in it, it re-encodes as exactly the bytes it
    consumed: the INT serializer is canonical, and so is each list level over the level below. -/
theorem serialize_of_nullFree {c : Bytes} {v : Value} {n : Nat}
    (h : (anyValue d).deserialize c = .ok (v, n)) (hv : NullFree v) :
    (anyValue d).serialize v = .ok (c.take n) := by
  induction d generalizing c v n with
  | zero => cases h
  | succ d ih =>
    rcases deserialize_eq_ok.mp h with ⟨x, hx, rfl⟩ | ⟨l, hl, rfl⟩ | ⟨-, rfl, -⟩
    · cases x with
      | none => cases hv
      | some x => exact IntSerializerFq.canonical c (some x) n hx
    · rcases deserialize_int32_eq_ok.mp hl with ⟨-, -, rfl, -⟩ |
        ⟨b0, b1, b2, b3, rest, ps, rfl, h0, hlen, hd, rfl, rfl⟩
      · cases hv
      · cases hv with
        | list _ hxs =>
          rw [Option.elim_some, serialize_list, take_header_append]
          exact serialize_framed_on NullFree (fun c v n h hv => ih h hv) true h0 hlen hd
            (fun p hp => hxs _ (List.mem_map_of_mem _ hp))
    · cases hv

end AnyValue

open AnyValue

variable {d : Nat}

/-- **Nested values round-trip.** Every value that fits the budget is encoded by the recursive
    dispatcher and decoded back exactly, consuming exactly its bytes, whatever follows them: at
    each level the list serializer's round trip applies to items that round-trip one level down. -/
theorem roundTrips_anyValue {v : Value} (h : Fits d v) : RoundTrips (anyValue d) id v := by
  induction d generalizing v with
  | zero => exact h.elim
  | succ d ih =>
    match v, h with
    | .null, _ => exact ⟨_, rfl, fun r => deserialize_eq_ok.mpr (.inr (.inr ⟨⟨r, rfl⟩, rfl, rfl⟩))⟩
    | .int x, _ =>
      obtain ⟨c, hc, hd⟩ := IntSerializerFq.roundTrips (some x)
      exact ⟨c, hc, fun r => deserialize_eq_ok.mpr (.inl ⟨some x, hd r, rfl⟩)⟩
    | .list xs, ⟨hlen, hxs⟩ =>
      obtain ⟨c, hc, hd⟩ := serialize_roundTrip true (fun x hx => ih (hxs x hx)) hlen
      exact ⟨c, hc, fun r => deserialize_eq_ok.mpr (.inr (.inl ⟨_, hd r, by simp⟩))⟩

/-- A list holding an integer, an empty list and a `null`, two levels deep. -/
theorem roundTrips_anyValue_nested :
    Fits 3 (.list [.int ⟨1, by decide⟩, .list [], .null]) ∧
      RoundTrips (anyValue 3) id (.list [.int ⟨1, by decide⟩, .list [], .null]) :=
  have h : Fits 3 (.list [.int ⟨1, by decide⟩, .list [], .null]) := by simp [Fits]
  ⟨h, roundTrips_anyValue h⟩

/-- **The recursive dispatcher is self-delimiting**, at every budget: the INT serializer is, a
    `null` is two bytes, and the list serializer is whenever the dispatcher one level down is. -/
theorem selfDelimiting_anyValue : SelfDelimiting (anyValue d).deserialize := by
  induction d with
  | zero => intro c x n h; cases h
  | succ d ih =>
    intro c v n h
    rcases deserialize_eq_ok.mp h with ⟨x, hx, rfl⟩ | ⟨l, hl, rfl⟩ | ⟨⟨r, rfl⟩, rfl, rfl⟩
    · obtain ⟨hn, hr⟩ := IntSerializerFq.selfDelimiting c x n hx
      exact ⟨hn, fun r => deserialize_eq_ok.mpr (.inl ⟨x, hr r, rfl⟩)⟩
    · obtain ⟨hn, hr⟩ := deserialize_take_append ih hl
      exact ⟨hn, fun r => deserialize_eq_ok.mpr (.inr (.inl ⟨l, hr r, rfl⟩))⟩
    · exact ⟨by simp, fun r' => deserialize_eq_ok.mpr (.inr (.inr ⟨⟨r', rfl⟩, rfl, rfl⟩))⟩

/-- **What the recursive codec decodes, it re-encodes; exactly when no `null` is in it.** A decoded
    value fits the budget it was decoded with, so (`roundTrips_anyValue`) it is re-encoded and read
    back as itself; when it holds no `null` the re-encoding is exactly the bytes consumed. A `null`
    read from `[0x01,0x01]` or `[0x09,0x01]` is re-encoded as `[0xFE,0x01]`. -/
theorem reencode_anyValue (c : Bytes) (v : Value) (n : Nat)
    (h : (anyValue d).deserialize c = .ok (v, n)) :
    Fits d v ∧ (NullFree v → (anyValue d).serialize v = .ok (c.take n)) :=
  ⟨fits_of_deserialize h, serialize_of_nullFree h⟩

/-- A list of an integer and a one-item list, followed by a stray byte: decoded at budget three and
    re-encoded as exactly the bytes it took. -/
theorem reencode_anyValue_mixed :
    (anyValue 3).deserialize [DataType.LIST, 0x00, 0, 0, 0, 2, DataType.INT, 0x00, 0, 0, 0, 7,
        DataType.LIST, 0x00, 0, 0, 0, 1, DataType.INT, 0x00, 0xFF, 0xFF, 0xFF, 0xF9, 0xAB] =
      .ok (.list [.int ⟨7, by decide⟩, .list [.int ⟨-7, by decide⟩]], 24) ∧
      Fits 3 (.list [.int ⟨7, by decide⟩, .list [.int ⟨-7, by decide⟩]]) ∧
      (NullFree (.list [.int ⟨7, by decide⟩, .list [.int ⟨-7, by decide⟩]]) →
        (anyValue 3).serialize (.list [.int ⟨7, by decide⟩, .list [.int ⟨-7, by decide⟩]]) =
          .ok ([DataType.LIST, 0x00, 0, 0, 0, 2, DataType.INT, 0x00, 0, 0, 0, 7, DataType.LIST,
            0x00, 0, 0, 0, 1, DataType.INT, 0x00, 0xFF, 0xFF, 0xFF, 0xF9, 0xAB].take 24)) :=
  have h : (anyValue 3).deserialize [DataType.LIST, 0x00, 0, 0, 0, 2, DataType.INT, 0x00, 0, 0, 0,
      7, DataType.LIST, 0x00, 0, 0, 0, 1, DataType.INT, 0x00, 0xFF, 0xFF, 0xFF, 0xF9, 0xAB] =
      .ok (.list [.int ⟨7, by decide⟩, .list [.int ⟨-7, by decide⟩]], 24) := rfl
  ⟨h, reencode_anyValue _ _ _ h⟩

/-- The LIST null and the INT null both decode to `null`, which is written back as
    `UNSPECIFIED_NULL`: not the bytes it was read from. -/
example :
    (anyValue 2).deserialize [DataType.LIST, 0x00, 0, 0, 0, 2, DataType.LIST, 0x01, DataType.INT,
        0x01] = .ok (.list [.null, .null], 10) ∧
      (anyValue 2).serialize (.list [.null, .null]) =
        .ok [DataType.LIST, 0x00, 0, 0, 0, 2, DataType.UNSPECIFIED_NULL, 0x01,
          DataType.UNSPECIFIED_NULL, 0x01] := ⟨rfl, rfl⟩

end GraphBinary
