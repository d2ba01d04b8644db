import Ieee802154.FrameRoundTrip

/-!
# What `Frame::try_read` computes

`Frame::try_read` walks the buffer with an offset: `read_with` for the header and the
content, `usize` arithmetic for the payload's length, `Bytes::Len` for the payload and a
little-endian `u16` for the footer, which `to_le_bytes` turns back into two bytes. This file
says what that computes at the level of slices, and proves that the code refines it:

* `Frame.parse`, the abstract reader: the header, the content its frame type calls for, and
  the rest of the buffer, split into the payload and the footer's two bytes; a rest shorter
  than the footer is the `usize` underflow, which a debug build reports as a panic (a
  release build wraps, and the payload read returns `Incomplete`);
* `Frame.tryRead_eq_parse`: `Frame::try_read` computes `Frame.parse` on every buffer and in
  both modes, when the header and body readers stay inside the slice they are given.

The premise removes exactly one branch of the code, the `BadOffset` that `read_with` returns
when a reader reports more bytes than it had; errors and panics of the readers themselves
pass through both sides unchanged.
-/

namespace Ieee802154

variable {B C : Type}

/-- The footer of a frame read in a footer mode from what follows the content: the last two
bytes in `Explicit` mode, `[0, 0]` in `None` mode. -/
def FooterMode.footerOf : (m : FooterMode) → (rest : List UInt8) → m.footerLen ≤ rest.length →
    Mathlib.Vector UInt8 2
  | .none, _, _ => ⟨[0, 0], rfl⟩
  | .explicit, rest, h => ⟨rest.drop (rest.length - 2), by simp [footerLen] at h ⊢; omega⟩

/-- What `Frame::try_read` is for: read the header, then the content its frame type calls
for from where the header stopped; what is left is the payload and, in `Explicit` mode, the
footer after it. The whole buffer is consumed. A rest shorter than the footer is the panic of
a debug build's `usize` subtraction; a release build returns `Incomplete` there. -/
def Frame.parse (cs : Codecs B C) (bytes : List UInt8) (m : FooterMode) :
    Outcome Error (Frame B C × Nat) := do
  let (header, k) ← cs.header.tryRead bytes
  let (content, c) ← FrameContent.tryRead cs header (bytes.drop k)
  let rest := bytes.drop (k + c)
  if h : m.footerLen ≤ rest.length then
    pure (⟨header, content, rest.take (rest.length - m.footerLen), m.footerOf rest h⟩,
      bytes.length)
  else .panic "attempt to subtract with overflow"

/-- `Frame::try_read` computes `Frame.parse`, for every buffer and footer mode, when the
header, beacon and command readers never report more bytes than they were given. -/
theorem Frame.tryRead_eq_parse (cs : Codecs B C) (hh : cs.header.tryRead.Within)
    (hb : cs.beacon.tryRead.Within) (hc : cs.command.tryRead.Within) (bytes : List UInt8)
    (m : FooterMode) : Frame.tryRead cs bytes m = Frame.parse cs bytes m := by
  unfold Frame.tryRead Frame.parse
  rw [readWith_of_le _ (Nat.zero_le _), List.drop_zero]
  cases hr : cs.header.tryRead bytes with
  | err e => rfl
  | panic s => rfl
  | ok p =>
    obtain ⟨header, k⟩ := p
    simp only [Outcome.ok_bind, Outcome.pure_eq, Nat.zero_add]
    rw [readWith_of_le _ (hh _ _ _ hr)]
    cases hcr : FrameContent.tryRead cs header (bytes.drop k) with
    | err e => rfl
    | panic s => rfl
    | ok q =>
      obtain ⟨content, c⟩ := q
      have hkc : k + c ≤ bytes.length := by
        have := FrameContent.tryRead_within cs hb hc header _ _ _ hcr
        have := hh _ _ _ hr
        simp only [List.length_drop] at *
        omega
      simp only [Outcome.ok_bind, Outcome.pure_eq, List.length_drop]
      cases m with
      | none =>
        rw [readPayload_none hkc]
        simp [FooterMode.footerOf, FooterMode.footerLen, toLeBytes_zero]
      | explicit =>
        simp only [FooterMode.footerLen]
        by_cases hlen : k + c + 2 ≤ bytes.length
        · have hfoot : (bytes.drop (k + c)).drop (bytes.length - (k + c) - 2) =
              bytes.drop (bytes.length - 2) := by
            rw [List.drop_drop]; congr 1; omega
          have hv := toLeBytes_fromLE ⟨bytes.drop (bytes.length - 2), by simp; omega⟩
          rw [readPayload_explicit hlen, dif_pos (by omega)]
          simp only [Mathlib.Vector.toList_mk] at hv
          simp only [Outcome.ok_bind, FooterMode.footerOf, List.length_drop, hfoot, hv]
        · rw [readPayload_explicit_of_lt (by omega), dif_neg (by omega)]
          rfl

/-- The spec's header codec and the empty body codecs stay inside their slices, and on the
acknowledgement buffer the two readers agree. -/
theorem tryRead_eq_parse_ack :
    specCodecs.header.tryRead.Within ∧ specCodecs.beacon.tryRead.Within ∧
      specCodecs.command.tryRead.Within ∧
      Frame.tryRead specCodecs [2, 0, 7, 0xaa, 0x12, 0x34] .explicit =
        Frame.parse specCodecs [2, 0, 7, 0xaa, 0x12, 0x34] .explicit := by
  have hh : specCodecs.header.tryRead.Within := Header.tryRead_bounded.within
  have hu : Codec.unit.tryRead.Within := (Reader.bounded_pure ()).within
  exact ⟨hh, hu, hu, Frame.tryRead_eq_parse specCodecs hh hu hu _ _⟩

end Ieee802154
