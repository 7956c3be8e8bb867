import GraphBinary.Laws

/-!
# `Dispatch.Int` — the INT serializer, fully qualified

`IntSerializer.js` is not in the excerpt. The dispatcher sends it every number in the `int32` range
and hands it, whole, every buffer whose type code is `INT` (§4.1). Fully qualified, its framing is
the list serializer's: `{type_code=INT}{value_flag}{value}`, the value flag `0x01` standing for
`null` with nothing after it (§3; `AnySerializer-test` decodes `[0x01,0x01]` to `null`).

An item of this codec is an `Int32Value` or `null`. Used on its own as the item codec of the list
serializer it satisfies every law of `Laws`, with items of two encoded lengths (two bytes for
`null`, six for a number), so it instantiates every correctness theorem.
-/

namespace GraphBinary

open IntSerializer

/-- A JavaScript number in the `int32` range: the numbers the dispatcher sends to the INT
    serializer (§4.1). A number outside the range goes to another serializer; it is not a value of
    this type. -/
structure Int32Value where
  val : Int
  range : -2147483648 ≤ val ∧ val ≤ 2147483647
  deriving DecidableEq

/-- `cursor.readInt32BE()` behind its length check: the value field of a fully-qualified `INT`. -/
def readInt32 : Bytes → Except String (Int32Value × Nat)
  | b0 :: b1 :: b2 :: b3 :: _ => .ok (⟨readInt32BE b0 b1 b2 b3, readInt32BE_range b0 b1 b2 b3⟩, 4)
  | _ => .error "unexpected \x7bvalue\x7d length"

/-- Modelled from the spec: `ioc.intSerializer` in fully-qualified mode, on an `int32` or `null`.
    Decoding checks the type code and the value flag as `ListSerializer.deserialize` does, then
    reads the four bytes of the value. -/
def intSerializerFq : AnySerializer (Option Int32Value) where
  serialize
    | none => .ok [DataType.INT, 0x01]
    | some item => .ok ([DataType.INT, 0x00] ++ writeInt32BE item.val)
  deserialize
    | [] => .error "buffer is empty"
    | type_code :: cursor =>
      if type_code ≠ DataType.INT then .error "unexpected \x7btype_code\x7d"
      else match cursor with
        | [] => .error "\x7bvalue_flag\x7d is missing"
        | value_flag :: cursor =>
          if value_flag = 1 then .ok (none, 2)
          else if value_flag ≠ 0 then .error "unexpected \x7bvalue_flag\x7d"
          else (readInt32 cursor).map fun (v, len) => (some v, len + 2)

namespace IntSerializerFq

@[simp] theorem serialize_none : intSerializerFq.serialize none = .ok [DataType.INT, 0x01] := rfl

@[simp] theorem serialize_some (x : Int32Value) :
    intSerializerFq.serialize (some x) = .ok ([DataType.INT, 0x00] ++ writeInt32BE x.val) := rfl

theorem deserialize_cons_cons (t f : UInt8) (c : Bytes) :
    intSerializerFq.deserialize (t :: f :: c) =
      if t ≠ DataType.INT then .error "unexpected \x7btype_code\x7d"
      else if f = 1 then .ok (none, 2)
      else if f ≠ 0 then .error "unexpected \x7bvalue_flag\x7d"
      else (readInt32 c).map fun (v, len) => (some v, len + 2) := rfl

theorem deserialize_single (t : UInt8) :
    intSerializerFq.deserialize [t] =
      if t ≠ DataType.INT then .error "unexpected \x7btype_code\x7d"
      else .error "\x7bvalue_flag\x7d is missing" := rfl

theorem readInt32_eq_ok {c : Bytes} {x : Int32Value} {n : Nat} :
    readInt32 c = .ok (x, n) ↔
      ∃ b0 b1 b2 b3 r, c = b0 :: b1 :: b2 :: b3 :: r ∧ x.val = readInt32BE b0 b1 b2 b3 ∧ n = 4 := by
  constructor
  · intro h
    match c, h with
    | [], h | [_], h | [_, _], h | [_, _, _], h => cases h
    | b0 :: b1 :: b2 :: b3 :: r, h => cases h; exact ⟨b0, b1, b2, b3, r, rfl, rfl, rfl⟩
  · rintro ⟨b0, b1, b2, b3, r, rfl, hx, rfl⟩
    obtain ⟨v, hv⟩ := x
    cases hx
    rfl

/-- **The INT serializer's decoding spec.** A success is the two-byte `null`, or a non-null flag and
    the four bytes of the value. -/
theorem deserialize_eq_ok {c : Bytes} {v : Option Int32Value} {n : Nat} :
    intSerializerFq.deserialize c = .ok (v, n) ↔
      ((∃ r, c = DataType.INT :: 0x01 :: r) ∧ v = none ∧ n = 2) ∨
      ∃ x b0 b1 b2 b3 r, c = DataType.INT :: 0x00 :: b0 :: b1 :: b2 :: b3 :: r ∧ v = some x ∧
        x.val = readInt32BE b0 b1 b2 b3 ∧ n = 6 := by
  constructor
  · intro h
    match c, h with
    | [], h => cases h
    | [t], h => rw [deserialize_single] at h; split_ifs at h
    | t :: f :: c, h =>
      rw [deserialize_cons_cons] at h
      split_ifs at h with ht h1 h0
      · cases h
        exact .inl ⟨⟨c, by rw [not_not.mp ht, h1]⟩, rfl, rfl⟩
      · obtain ⟨⟨x, m⟩, hx, he⟩ := except_map_eq_ok.mp h
        obtain ⟨b0, b1, b2, b3, r, rfl, hval, rfl⟩ := readInt32_eq_ok.mp hx
        cases he
        exact .inr ⟨x, b0, b1, b2, b3, r, by rw [not_not.mp ht, not_not.mp h0], rfl, hval, rfl⟩
  · rintro (⟨⟨r, rfl⟩, rfl, rfl⟩ | ⟨x, b0, b1, b2, b3, r, rfl, rfl, hval, rfl⟩)
    · rfl
    · rw [deserialize_cons_cons, if_neg (not_not.mpr rfl), if_neg (by decide),
        if_neg (not_not.mpr rfl), except_map_eq_ok]
      exact ⟨(x, 4), readInt32_eq_ok.mpr ⟨b0, b1, b2, b3, r, rfl, hval, rfl⟩, rfl⟩

/-- Every `int32` and `null` round-trips, whatever follows its encoding. -/
theorem roundTrips (x : Option Int32Value) : RoundTrips intSerializerFq id x := by
  cases x with
  | none => exact ⟨_, rfl, fun r => deserialize_eq_ok.mpr (.inl ⟨⟨r, rfl⟩, rfl, rfl⟩)⟩
  | some x =>
    obtain ⟨b0, b1, b2, b3, hw, hx⟩ := exists_writeInt32BE x.range.1 x.range.2
    refine ⟨_, serialize_some x, fun r => deserialize_eq_ok.mpr (.inr ?_)⟩
    exact ⟨x, b0, b1, b2, b3, r, by rw [hw]; rfl, rfl, hx.symm, by simp⟩

/-- What the INT serializer reads depends only on the bytes it consumes. -/
theorem selfDelimiting : SelfDelimiting intSerializerFq.deserialize := by
  intro c v n h
  rcases deserialize_eq_ok.mp h with
    ⟨⟨r, rfl⟩, rfl, rfl⟩ | ⟨x, b0, b1, b2, b3, r, rfl, rfl, hx, rfl⟩
  · exact ⟨by simp, fun r' => deserialize_eq_ok.mpr (.inl ⟨⟨r', rfl⟩, rfl, rfl⟩)⟩
  · refine ⟨by simp, fun r' => deserialize_eq_ok.mpr (.inr ?_)⟩
    exact ⟨x, b0, b1, b2, b3, r', rfl, rfl, hx, rfl⟩

/-- Every success consumes two or six bytes, all of them in the buffer. -/
theorem progresses : Progresses intSerializerFq.deserialize := by
  intro c v n h
  rcases deserialize_eq_ok.mp h with
    ⟨⟨r, rfl⟩, -, rfl⟩ | ⟨x, b0, b1, b2, b3, r, rfl, -, -, rfl⟩ <;> simp

/-- What the INT serializer reads, it writes back as the bytes it consumed: there is one encoding
    of `null` and one of each number. -/
theorem canonical : Canonical intSerializerFq := by
  intro c v n h
  rcases deserialize_eq_ok.mp h with
    ⟨⟨r, rfl⟩, rfl, rfl⟩ | ⟨x, b0, b1, b2, b3, r, rfl, rfl, hx, rfl⟩
  · rfl
  · rw [serialize_some, hx, writeInt32BE_readInt32BE]
    rfl

end IntSerializerFq

end GraphBinary
