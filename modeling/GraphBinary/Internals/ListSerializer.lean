import GraphBinary.Internals.Ioc

/-!
# `Internals.ListSerializer` — `ListSerializer.serialize` and `ListSerializer.deserialize`

The list format, in both modes:

* fully-qualified: `{type_code=LIST}{value_flag}{length}{item_0}...{item_n}`, a `null` list being
  `{type_code}{value_flag=0x01}` alone;
* value-only: `{length}{item_0}...{item_n}`, where a `null` list is written as an empty one.

`{length}` is `ioc.intSerializer` in value-only form and every item is the dispatcher's
fully-qualified encoding. The decoder keeps the source's three accumulators — `len` (bytes consumed),
`cursor` (the unread bytes) and `v` (the items so far) — and its `for` loop is `deserializeItems`,
recursive in the number of iterations left.

A `null`/`undefined` item or buffer is `none`. The source's `if (length < 0) length = 0` in
`serialize` reads `item.length`, which is never negative; it is not modelled.
-/

namespace GraphBinary
namespace ListSerializer

variable {α : Type} (ioc : Ioc α)

/-! ## `serialize` -/

/-- `{item_0}...{item_n}` of `serialize`: each item through `ioc.anySerializer.serialize`, in order;
    the first item that throws makes the call throw. -/
def serializeItems : List α → Except String Bytes
  | [] => .ok []
  | x :: xs => do
    let b ← ioc.anySerializer.serialize x
    let bs ← serializeItems xs
    pure (b ++ bs)

/-- `{type_code}{value_flag}` of a non-null list in fully-qualified mode; nothing in value-only mode. -/
def header (fullyQualifiedFormat : Bool) : Bytes :=
  if fullyQualifiedFormat then [DataType.LIST, 0x00] else []

/-- `serialize(item, fullyQualifiedFormat)`. A list longer than `INT32_MAX` throws before anything
    is encoded; otherwise the header, the `{length}` field and the items. -/
def serialize (item : Option (List α)) (fullyQualifiedFormat : Bool) : Except String Bytes :=
  match item with
  | none =>
    if fullyQualifiedFormat then .ok [DataType.LIST, 0x01] else .ok [0x00, 0x00, 0x00, 0x00]
  | some item =>
    let length : Int := item.length
    let max_length := ioc.intSerializer.INT32_MAX
    if length > max_length then
      .error s!"List length={length} is greater than supported max_length={max_length}."
    else do
      let lengthBytes ← ioc.intSerializer.serialize length
      let items ← serializeItems ioc item
      pure (header fullyQualifiedFormat ++ lengthBytes ++ items)

/-! ## `deserialize` -/

/-- The `for (let i = 0; i < length; i++)` loop of `deserialize`, at index `i` with `k` iterations
    left and the accumulators `len`, `cursor`, `v`. A failing item is reported as `{item_i}: ...`
    with the cursor at that item. -/
def deserializeItems : (i k len : Nat) → (cursor : Bytes) → (v : List α) →
    Except DesError (List α × Nat)
  | _, 0, len, _, v => .ok (v, len)
  | i, k + 1, len, cursor, v =>
    match ioc.anySerializer.deserialize cursor with
    | .error msg => .error ⟨some cursor, s!"\x7bitem_{i}\x7d: {msg}"⟩
    | .ok (value, value_len) =>
      deserializeItems i.succ k (len + value_len) (cursor.drop value_len) (v ++ [value])

/-- `{length}{item_0}...{item_n}`: the part of `deserialize` after the optional
    `{type_code}{value_flag}`, entered with the bytes consumed so far and the cursor. -/
def deserializeValue (len : Nat) (cursor : Bytes) : Except DesError (Option (List α) × Nat) :=
  match ioc.intSerializer.deserialize cursor with
  | .error msg => .error ⟨some cursor, s!"\x7blength\x7d: {msg}"⟩
  | .ok (length, length_len) =>
    if length < 0 then .error ⟨some (cursor.drop length_len), "\x7blength\x7d is less than zero"⟩
    else (deserializeItems ioc 0 length.toNat (len + length_len) (cursor.drop length_len) []).map
      fun (v, len) => (some v, len)

/-- `deserialize(buffer, fullyQualifiedFormat)`. In fully-qualified mode the type code must be
    `LIST` and the value flag `0x00` (a list) or `0x01` (`null`, two bytes consumed). -/
def deserialize (buffer : Option Bytes) (fullyQualifiedFormat : Bool) :
    Except DesError (Option (List α) × Nat) :=
  match buffer with
  | none => .error ⟨none, "buffer is missing"⟩
  | some [] => .error ⟨some [], "buffer is empty"⟩
  | some (type_code :: cursor) =>
    if fullyQualifiedFormat then
      if type_code ≠ DataType.LIST then .error ⟨some cursor, "unexpected \x7btype_code\x7d"⟩
      else match cursor with
        | [] => .error ⟨some [], "\x7bvalue_flag\x7d is missing"⟩
        | value_flag :: cursor =>
          if value_flag = 1 then .ok (none, 2)
          else if value_flag ≠ 0 then .error ⟨some cursor, "unexpected \x7bvalue_flag\x7d"⟩
          else deserializeValue ioc 2 cursor
    else deserializeValue ioc 0 (type_code :: cursor)

/-! ## `serialize`, by cases -/

section Serialize

variable {ioc} {fq : Bool} {xs : List α}

@[simp] theorem serialize_none_true : serialize ioc none true = .ok [DataType.LIST, 0x01] := rfl

@[simp] theorem serialize_none_false : serialize ioc none false = .ok [0x00, 0x00, 0x00, 0x00] :=
  rfl

@[simp] theorem serializeItems_nil : serializeItems ioc [] = .ok [] := rfl

theorem serializeItems_cons_ok {x : α} {b : Bytes} (h : ioc.anySerializer.serialize x = .ok b) :
    serializeItems ioc (x :: xs) = (serializeItems ioc xs).map (b ++ ·) := by
  simp only [serializeItems, h, except_bind_ok]
  cases serializeItems ioc xs <;> rfl

/-- **`serializeItems`' failures.** It throws exactly the error of the first item that throws. -/
theorem serializeItems_eq_error {e : String} :
    serializeItems ioc xs = .error e ↔ ∃ pre x post, xs = pre ++ x :: post ∧
      (∀ y ∈ pre, ∃ b, ioc.anySerializer.serialize y = .ok b) ∧
      ioc.anySerializer.serialize x = .error e := by
  induction xs with
  | nil => exact ⟨nofun, fun ⟨pre, _, _, h, _⟩ => by simp at h⟩
  | cons x xs ih =>
    cases h : ioc.anySerializer.serialize x with
    | error e' =>
      simp only [serializeItems, h, except_bind_error]
      constructor
      · rintro ⟨⟩
        exact ⟨[], x, xs, rfl, nofun, h⟩
      · rintro ⟨_ | ⟨y, pre⟩, x', post, hxs, hpre, hx⟩
        · cases hxs
          rw [h] at hx
          exact hx
        · cases hxs
          obtain ⟨b, hb⟩ := hpre _ (List.mem_cons_self _ _)
          exact nomatch h.symm.trans hb
    | ok b =>
      rw [serializeItems_cons_ok h, except_map_eq_error, ih]
      constructor
      · rintro ⟨pre, x', post, rfl, hpre, hx⟩
        refine ⟨x :: pre, x', post, rfl, fun y hy => ?_, hx⟩
        rcases List.mem_cons.mp hy with rfl | hy
        · exact ⟨b, h⟩
        · exact hpre y hy
      · rintro ⟨_ | ⟨y, pre⟩, x', post, hxs, hpre, hx⟩
        · cases hxs
          exact nomatch h.symm.trans hx
        · cases hxs
          exact ⟨pre, x', post, rfl, fun z hz => hpre z (List.mem_cons_of_mem _ hz), hx⟩

/-- **`serializeItems`' successes.** It writes each item's encoding, in order, and nothing else. -/
theorem serializeItems_eq_ok {c : Bytes} :
    serializeItems ioc xs = .ok c ↔
      ∃ cs, List.Forall₂ (fun x b => ioc.anySerializer.serialize x = .ok b) xs cs ∧ c = cs.flatten := by
  induction xs generalizing c with
  | nil =>
    refine ⟨fun h => ⟨[], .nil, (Except.ok.inj h).symm⟩, ?_⟩
    rintro ⟨_, hcs, rfl⟩
    cases hcs
    rfl
  | cons x xs ih =>
    cases h : ioc.anySerializer.serialize x with
    | error e =>
      simp only [serializeItems, h, except_bind_error]
      refine ⟨nofun, ?_⟩
      rintro ⟨_, hcs, -⟩
      cases hcs with
      | cons hb _ => exact nomatch h.symm.trans hb
    | ok b =>
      rw [serializeItems_cons_ok h, except_map_eq_ok]
      constructor
      · rintro ⟨_, hbs, rfl⟩
        obtain ⟨cs, hcs, rfl⟩ := ih.mp hbs
        exact ⟨b :: cs, .cons h hcs, rfl⟩
      · rintro ⟨_, hcs, rfl⟩
        cases hcs with
        | cons hb hcs =>
          cases h.symm.trans hb
          exact ⟨_, ih.mpr ⟨_, hcs, rfl⟩, rfl⟩

theorem serialize_some_of_le (h : (xs.length : Int) ≤ ioc.intSerializer.INT32_MAX) :
    serialize ioc (some xs) fq = (do
      let lengthBytes ← ioc.intSerializer.serialize xs.length
      let items ← serializeItems ioc xs
      pure (header fq ++ lengthBytes ++ items)) := by
  simp [serialize, Int.not_lt.mpr h]

/-- A list longer than `INT32_MAX` throws, in both modes. -/
theorem serialize_some_of_gt (h : ioc.intSerializer.INT32_MAX < xs.length) :
    ∃ msg, serialize ioc (some xs) fq = .error msg := by
  simp [serialize, h]

end Serialize

/-! ## The loop, one iteration at a time -/

section Loop

variable {ioc} {i k len : Nat} {cursor : Bytes} {v : List α}

@[simp] theorem deserializeItems_zero : deserializeItems ioc i 0 len cursor v = .ok (v, len) := rfl

theorem deserializeItems_succ_ok {value : α} {value_len : Nat}
    (h : ioc.anySerializer.deserialize cursor = .ok (value, value_len)) :
    deserializeItems ioc i (k + 1) len cursor v =
      deserializeItems ioc (i + 1) k (len + value_len) (cursor.drop value_len) (v ++ [value]) := by
  simp [deserializeItems, h]

theorem deserializeItems_succ_error {msg : String}
    (h : ioc.anySerializer.deserialize cursor = .error msg) :
    deserializeItems ioc i (k + 1) len cursor v =
      .error ⟨some cursor, s!"\x7bitem_{i}\x7d: {msg}"⟩ := by
  simp [deserializeItems, h]

/-- `ps` is what the dispatcher returned for items read one after another from `cursor`, each
    where the previous one ended: the trace of a run of the loop that succeeded. -/
def ItemsDecode (any : AnySerializer α) : Bytes → List (α × Nat) → Prop
  | _, [] => True
  | cursor, (value, value_len) :: ps =>
    any.deserialize cursor = .ok (value, value_len) ∧ ItemsDecode any (cursor.drop value_len) ps

@[simp] theorem itemsDecode_nil (any : AnySerializer α) : ItemsDecode any cursor [] := trivial

@[simp] theorem itemsDecode_cons (any : AnySerializer α) (value : α) (value_len : Nat)
    (ps : List (α × Nat)) :
    ItemsDecode any cursor ((value, value_len) :: ps) ↔
      any.deserialize cursor = .ok (value, value_len) ∧
        ItemsDecode any (cursor.drop value_len) ps := Iff.rfl

/-- Each item of a trace is a success of the dispatcher, on some cursor. -/
theorem itemsDecode_mem {any : AnySerializer α} {ps : List (α × Nat)}
    (h : ItemsDecode any cursor ps) {p : α × Nat} (hp : p ∈ ps) : ∃ c, any.deserialize c = .ok p := by
  induction ps generalizing cursor with
  | nil => cases hp
  | cons q ps ih =>
    obtain ⟨value, value_len⟩ := q
    rcases List.mem_cons.mp hp with rfl | hp
    · exact ⟨cursor, h.1⟩
    · exact ih h.2 hp

/-- **The loop's spec.** A run of `k` iterations succeeds exactly when the dispatcher decodes `k`
    items back to back; `v` gains their values and `len` the lengths they reported. -/
theorem deserializeItems_eq_ok {w : List α} {n : Nat} :
    deserializeItems ioc i k len cursor v = .ok (w, n) ↔
      ∃ ps, ps.length = k ∧ ItemsDecode ioc.anySerializer cursor ps ∧
        w = v ++ ps.map Prod.fst ∧ n = len + (ps.map Prod.snd).sum := by
  induction k generalizing i len cursor v with
  | zero =>
    refine ⟨fun h => ?_, ?_⟩
    · cases h
      exact ⟨[], rfl, trivial, (List.append_nil _).symm, rfl⟩
    · rintro ⟨_ | _, hl, -, rfl, rfl⟩
      · simp
      · exact absurd hl (Nat.succ_ne_zero _)
  | succ k ih =>
    cases h : ioc.anySerializer.deserialize cursor with
    | error msg =>
      rw [deserializeItems_succ_error h]
      refine ⟨nofun, ?_⟩
      rintro ⟨_ | ⟨⟨value, value_len⟩, ps⟩, hl, hd, -, -⟩
      · exact absurd hl (Nat.succ_ne_zero _).symm
      · exact nomatch h.symm.trans hd.1
    | ok p =>
      obtain ⟨value, value_len⟩ := p
      rw [deserializeItems_succ_ok h, ih]
      constructor
      · rintro ⟨ps, hl, hd, rfl, rfl⟩
        exact ⟨(value, value_len) :: ps, by rw [List.length_cons, hl], ⟨h, hd⟩, by simp,
          by simp; omega⟩
      · rintro ⟨_ | ⟨⟨value', value_len'⟩, ps⟩, hl, hd, rfl, rfl⟩
        · exact absurd hl (Nat.succ_ne_zero _).symm
        · obtain ⟨hd₁, hd₂⟩ := hd
          cases h.symm.trans hd₁
          exact ⟨ps, Nat.succ_inj'.mp hl, hd₂, by simp, by simp; omega⟩

/-- **The loop's failures.** A run fails exactly when, after some items fewer than `k` decoded back
    to back, the next one does not: the error names that item's index and points the cursor at
    it. -/
theorem deserializeItems_eq_error {e : DesError} :
    deserializeItems ioc i k len cursor v = .error e ↔
      ∃ ps msg, ps.length < k ∧ ItemsDecode ioc.anySerializer cursor ps ∧
        ioc.anySerializer.deserialize (cursor.drop (ps.map Prod.snd).sum) = .error msg ∧
        e = ⟨some (cursor.drop (ps.map Prod.snd).sum), s!"\x7bitem_{i + ps.length}\x7d: {msg}"⟩ := by
  induction k generalizing i len cursor v with
  | zero => exact ⟨nofun, fun ⟨_, _, hl, _⟩ => absurd hl (Nat.not_lt_zero _)⟩
  | succ k ih =>
    cases h : ioc.anySerializer.deserialize cursor with
    | error msg =>
      rw [deserializeItems_succ_error h]
      constructor
      · rintro ⟨⟩
        exact ⟨[], msg, Nat.succ_pos _, trivial, h, rfl⟩
      · rintro ⟨_ | ⟨⟨value, value_len⟩, ps⟩, msg', -, hd, hf, rfl⟩
        · cases h.symm.trans hf
          rfl
        · exact nomatch h.symm.trans hd.1
    | ok p =>
      obtain ⟨value, value_len⟩ := p
      rw [deserializeItems_succ_ok h, ih]
      constructor
      · rintro ⟨ps, msg, hl, hd, hf, rfl⟩
        refine ⟨(value, value_len) :: ps, msg, Nat.succ_lt_succ hl, ⟨h, hd⟩, ?_, ?_⟩
        · rwa [List.map_cons, List.sum_cons, ← List.drop_drop]
        · rw [List.map_cons, List.sum_cons, ← List.drop_drop, List.length_cons,
            show i + 1 + ps.length = i + (ps.length + 1) by omega]
      · rintro ⟨_ | ⟨⟨value', value_len'⟩, ps⟩, msg, hl, hd, hf, rfl⟩
        · exact nomatch h.symm.trans hf
        · obtain ⟨hd₁, hd₂⟩ := hd
          cases h.symm.trans hd₁
          refine ⟨ps, msg, Nat.succ_lt_succ_iff.mp hl, hd₂, ?_, ?_⟩
          · rwa [List.map_cons, List.sum_cons, ← List.drop_drop] at hf
          · rw [List.map_cons, List.sum_cons, ← List.drop_drop, List.length_cons,
              show i + 1 + ps.length = i + (ps.length + 1) by omega]

/-- The bytes consumed before the loop only shift the `len` it reports; a failure is the same
    failure. -/
theorem deserializeItems_shift (d : Nat) :
    deserializeItems ioc i k (len + d) cursor v =
      (deserializeItems ioc i k len cursor v).map fun (w, n) => (w, n + d) := by
  induction k generalizing i len cursor v with
  | zero => rfl
  | succ k ih =>
    cases h : ioc.anySerializer.deserialize cursor with
    | error msg => simp [deserializeItems_succ_error h]
    | ok p =>
      rw [deserializeItems_succ_ok h, deserializeItems_succ_ok h, Nat.add_right_comm, ih]

end Loop

/-! ## `{length}` and the header -/

section Value

variable {ioc} {len : Nat} {cursor : Bytes}

theorem deserializeValue_shift (d : Nat) :
    deserializeValue ioc (len + d) cursor =
      (deserializeValue ioc len cursor).map fun (v, n) => (v, n + d) := by
  unfold deserializeValue
  split
  · rfl
  · split
    · rfl
    · rw [Nat.add_right_comm, deserializeItems_shift]
      cases deserializeItems ioc 0 _ _ _ [] <;> rfl

/-- **`deserializeValue`'s spec.** It succeeds exactly when `{length}` decodes to a non-negative
    count and the loop then decodes that many items. -/
theorem deserializeValue_eq_ok {v : Option (List α)} {n : Nat} :
    deserializeValue ioc len cursor = .ok (v, n) ↔
      ∃ length length_len ps, ioc.intSerializer.deserialize cursor = .ok (length, length_len) ∧
        0 ≤ length ∧ ps.length = length.toNat ∧
        ItemsDecode ioc.anySerializer (cursor.drop length_len) ps ∧
        v = some (ps.map Prod.fst) ∧ n = len + length_len + (ps.map Prod.snd).sum := by
  unfold deserializeValue
  split
  · rename_i h
    refine ⟨nofun, ?_⟩
    rintro ⟨_, _, _, h', -⟩
    exact nomatch h.symm.trans h'
  · rename_i length length_len h
    split
    · rename_i hneg
      refine ⟨nofun, ?_⟩
      rintro ⟨_, _, _, h', h0, -⟩
      cases h.symm.trans h'
      omega
    · rename_i hneg
      rw [except_map_eq_ok]
      constructor
      · rintro ⟨⟨w, m⟩, hitems, he⟩
        obtain ⟨ps, hl, hd, rfl, rfl⟩ := deserializeItems_eq_ok.mp hitems
        obtain ⟨rfl, rfl⟩ := Prod.mk.inj he
        exact ⟨length, length_len, ps, h, by omega, hl, hd, by simp, rfl⟩
      · rintro ⟨_, _, ps, h', -, hl, hd, rfl, rfl⟩
        cases h.symm.trans h'
        exact ⟨_, deserializeItems_eq_ok.mpr ⟨ps, hl, hd, rfl, rfl⟩, by simp⟩

end Value

section Deserialize

variable {ioc} {fq : Bool} {c : Bytes}

@[simp] theorem header_true : header true = [DataType.LIST, 0x00] := rfl

@[simp] theorem header_false : header false = [] := rfl

theorem header_length : (header fq).length = if fq then 2 else 0 := by cases fq <;> rfl

@[simp] theorem deserialize_none : deserialize ioc none fq = .error ⟨none, "buffer is missing"⟩ :=
  rfl

@[simp] theorem deserialize_nil :
    deserialize ioc (some []) fq = .error ⟨some [], "buffer is empty"⟩ := rfl

@[simp] theorem deserialize_cons_false (b : UInt8) :
    deserialize ioc (some (b :: c)) false = deserializeValue ioc 0 (b :: c) := rfl

@[simp] theorem deserialize_null :
    deserialize ioc (some (DataType.LIST :: 0x01 :: c)) true = .ok (none, 2) := rfl

@[simp] theorem deserialize_value_true :
    deserialize ioc (some (DataType.LIST :: 0x00 :: c)) true = deserializeValue ioc 2 c := rfl

theorem deserialize_true_single (t : UInt8) :
    deserialize ioc (some [t]) true =
      if t ≠ DataType.LIST then .error ⟨some [], "unexpected \x7btype_code\x7d"⟩
      else .error ⟨some [], "\x7bvalue_flag\x7d is missing"⟩ := rfl

theorem deserialize_true_cons_cons (t f : UInt8) :
    deserialize ioc (some (t :: f :: c)) true =
      if t ≠ DataType.LIST then .error ⟨some (f :: c), "unexpected \x7btype_code\x7d"⟩
      else if f = 1 then .ok (none, 2)
      else if f ≠ 0 then .error ⟨some c, "unexpected \x7bvalue_flag\x7d"⟩
      else deserializeValue ioc 2 c := rfl

/-- Past the header of its mode, `deserialize` is `deserializeValue` (value-only mode needs a byte). -/
theorem deserialize_header {d : Bytes} (hd : d ≠ []) :
    deserialize ioc (some (header fq ++ d)) fq = deserializeValue ioc (header fq).length d := by
  cases fq with
  | true => rfl
  | false => cases d with
    | nil => exact absurd rfl hd
    | cons b c => rfl

/-- **`deserialize`'s spec.** A success is either the two-byte fully-qualified `null`, or a
    header of the mode (non-empty input in value-only mode) followed by a value. -/
theorem deserialize_eq_ok {b : Bytes} {v : Option (List α)} {n : Nat} :
    deserialize ioc (some b) fq = .ok (v, n) ↔
      (fq = true ∧ (∃ c, b = DataType.LIST :: 0x01 :: c) ∧ v = none ∧ n = 2) ∨
      (b ≠ [] ∧ ∃ c, b = header fq ++ c ∧ deserializeValue ioc (header fq).length c = .ok (v, n)) := by
  constructor
  · intro h
    cases fq with
    | false =>
      cases b with
      | nil => cases h
      | cons t c => exact .inr ⟨List.cons_ne_nil _ _, t :: c, rfl, h⟩
    | true =>
      match b, h with
      | [], h => cases h
      | [t], h =>
        rw [deserialize_true_single] at h
        split_ifs at h
      | t :: f :: c, h =>
        rw [deserialize_true_cons_cons] at h
        split_ifs at h with ht h1 h0
        · cases h
          exact .inl ⟨rfl, ⟨c, by rw [not_not.mp ht, h1]⟩, rfl, rfl⟩
        · exact .inr ⟨List.cons_ne_nil _ _, c, by rw [not_not.mp ht, not_not.mp h0]; rfl, h⟩
  · rintro (⟨rfl, ⟨c, rfl⟩, rfl, rfl⟩ | ⟨hb, c, rfl, h⟩)
    · rfl
    · cases fq with
      | true => exact h
      | false => exact (deserialize_header hb).trans h

end Deserialize

end ListSerializer
end GraphBinary
