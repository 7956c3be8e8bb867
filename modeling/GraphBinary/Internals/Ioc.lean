import Mathlib

/-!
# `Internals.Ioc` — what `ListSerializer` reaches through `this.ioc`

`ListSerializer.js` encodes no element and no length field itself. Every item goes through
`ioc.anySerializer`, the `{length}` field through `ioc.intSerializer` (value-only, with its
`INT32_MAX`), the type code is `ioc.DataType.LIST`, and every decoding failure is handed to
`ioc.utils.des_error`. Only the list serializer is in the excerpt, so this module fixes the
*interfaces* of these collaborators as the list serializer uses them; the correctness modules
state what they assume of them as hypotheses (`Laws`).

A `Buffer` is the list of its bytes. `cursor.slice(n)` is `List.drop n` (both clamp at the end),
`cursor.readUInt8()` is the head.
-/

namespace GraphBinary

/-- A Node.js `Buffer`, as the bytes it holds. -/
abbrev Bytes := List UInt8

namespace DataType

/-- Modelled from the spec: `DataType.LIST`, not in the excerpt. §3 gives `LIST=0x09`; the
    tests frame lists as `[DataType.LIST,0x00, ...]` and decode `[0x09,0x01]` to `null`. -/
def LIST : UInt8 := 0x09

/-- Modelled from the spec: `DataType.INT`, the type code `0x01` of a 32-bit integer (§3). -/
def INT : UInt8 := 0x01

/-- Modelled from the spec: `DataType.UNSPECIFIED_NULL`, the type code `0xFE` of a `null` whose type
    is not known; `AnySerializer-test` decodes `[0xFE,0x01]` to `null`. -/
def UNSPECIFIED_NULL : UInt8 := 0xFE

end DataType

/-- The element dispatcher as `ListSerializer` calls it. `serialize(item[i])` takes the default
    `fullyQualifiedFormat = true` and either throws or returns bytes; `deserialize(cursor)` either
    throws (its `message` is all the list keeps) or returns `{v, len}`. -/
structure AnySerializer (α : Type) where
  serialize : α → Except String Bytes
  deserialize : Bytes → Except String (α × Nat)

/-- `ioc.intSerializer`, in the value-only form (`fullyQualifiedFormat = false`) that the list
    serializer always uses for `{length}`, together with its `INT32_MAX`. -/
structure IntSerializer where
  INT32_MAX : Int
  serialize : Int → Except String Bytes
  deserialize : Bytes → Except String (Int × Nat)

/-- The container `ListSerializer` is constructed with, cut down to the two serializers it calls.
    `α` is the type of the values the dispatcher handles. -/
structure Ioc (α : Type) where
  anySerializer : AnySerializer α
  intSerializer : IntSerializer

/-- The record `deserialize` passes to `ioc.utils.des_error` when it fails: the `cursor` at the
    point of failure (`undefined` when the buffer is missing) and the inner `msg`. Its other two
    fields, `serializer` and `args`, are the receiver and the call's own arguments. -/
structure DesError where
  cursor : Option Bytes
  msg : String
  deriving DecidableEq, Repr

/-! ## `Except` as the serializers use it: a throw propagates, a value flows on -/

section Except

variable {ε β γ : Type} {e : ε} {a : β}

@[simp] theorem except_bind_ok (f : β → Except ε γ) : (Except.ok a >>= f) = f a := rfl

@[simp] theorem except_bind_error (f : β → Except ε γ) :
    (Except.error e >>= f) = Except.error e := rfl

@[simp] theorem except_pure : (pure a : Except ε β) = .ok a := rfl

@[simp] theorem except_map_ok (f : β → γ) : (Except.ok a : Except ε β).map f = .ok (f a) := rfl

@[simp] theorem except_map_error (f : β → γ) :
    (Except.error e : Except ε β).map f = .error e := rfl

theorem except_map_eq_ok {f : β → γ} {x : Except ε β} {c : γ} :
    x.map f = .ok c ↔ ∃ b, x = .ok b ∧ f b = c := by
  cases x <;> simp [Except.map]

theorem except_map_eq_error {f : β → γ} {x : Except ε β} :
    x.map f = .error e ↔ x = .error e := by
  cases x <;> simp [Except.map]

end Except

end GraphBinary
