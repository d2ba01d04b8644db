import Mathlib.Data.Vector.Basic

/-!
# The `byte` crate, as `mac::frame` uses it

`Frame::try_read` and `Frame::try_write` are written against the `byte` crate. A value is
read from, or written to, the front of a byte slice by its `TryRead` / `TryWrite`
implementation, and `BytesExt::read_with` / `write_with` run that implementation on the
slice from an offset, then advance the offset by the size it reports.

This file models that interface:

* `Error`, the crate's error type, and `Outcome`, a call that returns `Ok`, returns `Err`
  or panics;
* `Reader` and `Writer`, `TryRead` and `TryWrite` implementations over `List UInt8`;
* `readWith` and `writeWith`, the offset-advancing calls, with the sub-slice semantics of
  `&bytes[offset..]` (a writer's changes to the sub-slice are kept even when it fails);
* the implementations the frame codec uses directly: `Bytes::Len` slices, `&[u8]`
  slices and little-endian `u16`, over the little-endian helpers `leBytes` and `fromLE`.

`usize` arithmetic is modelled on `Nat`, with `usizeSub` for the one subtraction that can
wrap: it panics as a debug build does (overflow checks on); a release build would wrap.
-/

namespace Ieee802154

/-- `byte::Error`. -/
inductive Error where
  | incomplete
  | badOffset (offset : Nat)
  | badInput (err : String)
deriving DecidableEq, Repr

/-- How a call of a fallible Rust function ends: it returns `Ok`, returns `Err`, or panics. -/
inductive Outcome (ε α : Type) where
  | ok (a : α)
  | err (e : ε)
  | panic (msg : String)
deriving DecidableEq, Repr

namespace Outcome

variable {ε α β : Type}

/-- The `?` operator: an `Err` or a panic ends the caller the same way. -/
def bind : Outcome ε α → (α → Outcome ε β) → Outcome ε β
  | ok a, f => f a
  | err e, _ => err e
  | panic m, _ => panic m

instance : Monad (Outcome ε) where
  pure := ok
  bind := bind

instance : LawfulMonad (Outcome ε) :=
  LawfulMonad.mk' _ (fun x => by cases x <;> rfl) (fun _ _ => rfl) (fun x _ _ => by cases x <;> rfl)

@[simp] theorem pure_eq (a : α) : (pure a : Outcome ε α) = ok a := rfl

@[simp] theorem ok_bind (a : α) (f : α → Outcome ε β) : (ok a >>= f) = f a := rfl

@[simp] theorem bind_ok (x : Outcome ε α) : (x >>= fun a => ok a) = x := by
  cases x <;> rfl

@[simp] theorem err_bind (e : ε) (f : α → Outcome ε β) : (err e >>= f) = err e := rfl

@[simp] theorem panic_bind (m : String) (f : α → Outcome ε β) :
    ((panic m : Outcome ε α) >>= f) = panic m := rfl

/-- A sequence of calls returns `Ok` exactly when its first call does and the rest,
run on that value, does. -/
theorem bind_eq_ok {x : Outcome ε α} {f : α → Outcome ε β} {b : β} :
    (x >>= f) = ok b ↔ ∃ a, x = ok a ∧ f a = ok b := by
  cases x <;> simp

end Outcome

/-- `usize` subtraction as a debug build runs it: it panics where it would wrap. -/
def usizeSub {ε : Type} (a b : Nat) : Outcome ε Nat :=
  if b ≤ a then .ok (a - b) else .panic "attempt to subtract with overflow"

theorem usizeSub_of_le {ε : Type} {a b : Nat} (h : b ≤ a) :
    (usizeSub a b : Outcome ε Nat) = .ok (a - b) := if_pos h

theorem usizeSub_of_lt {ε : Type} {a b : Nat} (h : a < b) :
    (usizeSub a b : Outcome ε Nat) = .panic "attempt to subtract with overflow" :=
  if_neg (by omega)

/-! ## Little-endian integers -/

/-- The `n` little-endian bytes of `v`: its low `8 * n` bits. -/
def leBytes : Nat → Nat → List UInt8
  | 0, _ => []
  | n + 1, v => UInt8.ofNat (v % 256) :: leBytes n (v / 256)

/-- The value of a little-endian byte string. -/
def fromLE : List UInt8 → Nat
  | [] => 0
  | b :: bs => b.toNat + 256 * fromLE bs

@[simp] theorem length_leBytes (n v : Nat) : (leBytes n v).length = n := by
  induction n generalizing v <;> simp [leBytes, *]

theorem UInt8.toNat_ofNat (n : Nat) : (UInt8.ofNat n).toNat = n % 256 :=
  BitVec.toNat_ofNat _ _

theorem UInt8.ofNat_toNat (b : UInt8) : UInt8.ofNat b.toNat = b :=
  UInt8.toNat.inj (by rw [UInt8.toNat_ofNat, Nat.mod_eq_of_lt (UInt8.toNat_lt_size b)])

/-- Reading back `n` written bytes gives the value modulo `256 ^ n`. -/
theorem fromLE_leBytes (n v : Nat) : fromLE (leBytes n v) = v % 256 ^ n := by
  induction n generalizing v with
  | zero => simp [leBytes, fromLE, Nat.mod_one]
  | succ n ih =>
    simp only [leBytes, fromLE, ih, UInt8.toNat_ofNat, pow_succ']
    rw [Nat.mod_mul, Nat.mod_mod]

/-- Writing back the value of a byte string gives the string. -/
theorem leBytes_fromLE (bs : List UInt8) : leBytes bs.length (fromLE bs) = bs := by
  induction bs with
  | nil => rfl
  | cons b bs ih =>
    have hb : b.toNat < 256 := b.toBitVec.isLt
    have hmod : (b.toNat + 256 * fromLE bs) % 256 = b.toNat := by omega
    have hdiv : (b.toNat + 256 * fromLE bs) / 256 = fromLE bs := by omega
    simp only [List.length_cons, leBytes, fromLE, hmod, hdiv, UInt8.ofNat_toNat, ih]

/-- `u16::to_le_bytes`. -/
def toLeBytes (v : UInt16) : Mathlib.Vector UInt8 2 := ⟨leBytes 2 v.toNat, length_leBytes 2 _⟩

/-! ## Readers and writers -/

/-- A `TryRead` implementation: it reads a value from the front of the slice it is given
and returns it with the number of bytes it took. -/
abbrev Reader (α : Type) := List UInt8 → Outcome Error (α × Nat)

/-- A `TryWrite` implementation applied to its value: it writes at the front of the slice
it is given and returns the number of bytes it wrote. The slice is its state, so what it
wrote stays there when it fails. -/
abbrev Writer := EStateM Error (List UInt8) Nat

/-- `byte::check_len`: the slice holds at least `len` bytes. -/
def checkLen (bytes : List UInt8) (len : Nat) : Outcome Error Nat :=
  if bytes.length < len then .err .incomplete else .ok len

/-- `BytesExt::read_with`: run a reader on `&bytes[offset..]` and advance the offset by
the size it reports. -/
def readWith {α : Type} (bytes : List UInt8) (offset : Nat) (r : Reader α) :
    Outcome Error (α × Nat) :=
  if offset > bytes.length then .err (.badOffset offset)
  else do
    let (t, size) ← r (bytes.drop offset)
    pure (t, offset + size)

/-- `BytesExt::write_with`: run a writer on `&mut bytes[offset..]` and advance the offset
by the size it reports. -/
def writeWith (offset : Nat) (w : Writer) : EStateM Error (List UInt8) Nat := fun bytes =>
  if offset > bytes.length then .error (.badOffset offset) bytes
  else
    match w (bytes.drop offset) with
    | .ok size rest => .ok (offset + size) (bytes.take offset ++ rest)
    | .error e rest => .error e (bytes.take offset ++ rest)

/-- `TryRead for &[u8]` with context `Bytes::Len(len)`: the first `len` bytes. -/
def readLen (len : Nat) : Reader (List UInt8) := fun bytes => do
  let len ← checkLen bytes len
  pure (bytes.take len, len)

/-- `TryWrite for &[u8]`: copy `src` to the front of the slice. -/
def writeSlice (src : List UInt8) : Writer := fun bytes =>
  if bytes.length < src.length then .error .incomplete bytes
  else .ok src.length (src ++ bytes.drop src.length)

/-- `TryRead for u16` with context `LE`. -/
def readU16LE : Reader UInt16 := fun bytes => do
  let _ ← checkLen bytes 2
  pure (UInt16.ofNat (fromLE (bytes.take 2)), 2)

/-! ## What the primitives do -/

section Primitives

variable {α : Type}

theorem readWith_of_le {bytes : List UInt8} {offset : Nat} (r : Reader α)
    (h : offset ≤ bytes.length) :
    readWith bytes offset r = (do
      let (t, size) ← r (bytes.drop offset)
      pure (t, offset + size)) :=
  if_neg (by omega)

/-- A read from an offset returns `Ok` exactly when the reader does on the rest of the
slice; the offset moves past what it took. -/
theorem readWith_eq_ok {bytes : List UInt8} {offset : Nat} {r : Reader α} {t : α} {o : Nat} :
    readWith bytes offset r = .ok (t, o) ↔
      offset ≤ bytes.length ∧ ∃ size, r (bytes.drop offset) = .ok (t, size) ∧ o = offset + size := by
  unfold readWith
  split
  · simp only [reduceCtorEq, false_iff, not_and]; omega
  · rw [Outcome.bind_eq_ok]
    constructor
    · rintro ⟨⟨t', s⟩, h, h'⟩
      cases h'
      exact ⟨by omega, s, h, rfl⟩
    · rintro ⟨-, s, h, rfl⟩
      exact ⟨(t, s), h, rfl⟩

theorem readLen_of_le {bytes : List UInt8} {len : Nat} (h : len ≤ bytes.length) :
    readLen len bytes = .ok (bytes.take len, len) := by
  simp [readLen, checkLen, if_neg (show ¬bytes.length < len by omega)]

theorem readU16LE_of_le {bytes : List UInt8} (h : 2 ≤ bytes.length) :
    readU16LE bytes = .ok (UInt16.ofNat (fromLE (bytes.take 2)), 2) := by
  simp [readU16LE, checkLen, if_neg (show ¬bytes.length < 2 by omega)]

theorem writeSlice_of_le {src bytes : List UInt8} (h : src.length ≤ bytes.length) :
    writeSlice src bytes = .ok src.length (src ++ bytes.drop src.length) :=
  if_neg (by omega)

theorem writeSlice_of_lt {src bytes : List UInt8} (h : bytes.length < src.length) :
    writeSlice src bytes = .error .incomplete bytes :=
  if_pos h

theorem writeWith_of_ok {offset size : Nat} {w : Writer} {bytes rest : List UInt8}
    (h : offset ≤ bytes.length) (hw : w (bytes.drop offset) = .ok size rest) :
    writeWith offset w bytes = .ok (offset + size) (bytes.take offset ++ rest) := by
  simp [writeWith, if_neg (show ¬offset > bytes.length by omega), hw]

theorem writeWith_of_error {offset : Nat} {e : Error} {w : Writer} {bytes rest : List UInt8}
    (h : offset ≤ bytes.length) (hw : w (bytes.drop offset) = .error e rest) :
    writeWith offset w bytes = .error e (bytes.take offset ++ rest) := by
  simp [writeWith, if_neg (show ¬offset > bytes.length by omega), hw]

/-- The footer as `Frame::try_read` stores it: the two bytes it read, in order. -/
theorem toLeBytes_fromLE (v : Mathlib.Vector UInt8 2) :
    toLeBytes (UInt16.ofNat (fromLE v.toList)) = v := by
  obtain ⟨l, hl⟩ := v
  match l, hl with
  | [a, b], _ =>
    have hlt : fromLE [a, b] < UInt16.size := by
      have ha := UInt8.toNat_lt_size a
      have hb := UInt8.toNat_lt_size b
      simp only [fromLE, UInt8.size, UInt16.size] at *
      omega
    apply Mathlib.Vector.eq
    simp only [toLeBytes, Mathlib.Vector.toList_mk, UInt16.toNat_ofNat_of_lt hlt]
    exact leBytes_fromLE [a, b]

end Primitives

end Ieee802154
