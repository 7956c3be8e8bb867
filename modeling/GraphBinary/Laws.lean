import GraphBinary.Internals.IntSerializer

/-!
# `Laws` — what a serializer owes the list serializer that calls it

The list serializer is only as good as the dispatcher it calls for every item. This module names
the laws that the correctness modules assume of the dispatcher and prove of the list:

* `RoundTrips any norm x` — `x` encodes, and its encoding, followed by any bytes at all, decodes
  back to `norm x` and reports exactly its own length;
* `SelfDelimiting deserialize` — a success never reports more bytes than it was given, and depends
  on those bytes only;
* `Canonical any` — what was decoded re-encodes to exactly the bytes that were consumed;
* `Progresses deserialize` — a success consumes at least one byte, and no more than it was given.

The `{length}` codec satisfies the second law (`selfDelimiting_intSerializer`).
-/

namespace GraphBinary

variable {α : Type}

/-- `x` round-trips through `any` up to the dispatcher's normalisation `norm` (the identity for an
    exact codec), whatever bytes follow its encoding. -/
def RoundTrips (any : AnySerializer α) (norm : α → α) (x : α) : Prop :=
  ∃ c, any.serialize x = .ok c ∧ ∀ r, any.deserialize (c ++ r) = .ok (norm x, c.length)

/-- A decoder is self-delimiting: on success it reports at most the bytes it was given, and the
    bytes past the ones it reports do not change its result. -/
def SelfDelimiting {ε β : Type} (deserialize : Bytes → Except ε (β × Nat)) : Prop :=
  ∀ c x n, deserialize c = .ok (x, n) →
    n ≤ c.length ∧ ∀ r, deserialize (c.take n ++ r) = .ok (x, n)

/-- `any` re-encodes every value it decodes as exactly the bytes it consumed. -/
def Canonical (any : AnySerializer α) : Prop :=
  ∀ c v n, any.deserialize c = .ok (v, n) → any.serialize v = .ok (c.take n)

/-- A decoder makes progress: every success consumes at least one of the bytes it was given, and
    reports no more bytes than it was given. -/
def Progresses {ε β : Type} (deserialize : Bytes → Except ε (β × Nat)) : Prop :=
  ∀ c x n, deserialize c = .ok (x, n) → 0 < n ∧ n ≤ c.length

theorem selfDelimiting_intSerializer : SelfDelimiting intSerializer.deserialize := by
  intro c x n h
  obtain ⟨b0, b1, b2, b3, r, rfl, rfl, rfl⟩ := IntSerializer.deserialize_eq_ok.mp h
  simp

end GraphBinary
