import Ieee802154.HeaderCodec

/-!
# What `Frame::try_write` writes

`Frame::try_write` writes the header, the content, the payload and, in `Explicit` mode, the
footer, each from the offset where the one before stopped. When the header and body codecs
write their encodings into slices with room for them and fail on shorter ones, the frame
writer does the same for the concatenation: it returns `Ok(n)` exactly when the buffer has
room for all of it, with `n` its length and the buffer starting with it.

`Frame.tryWrite_writesInto` and `Frame.tryWrite_failsShort` are the two halves; each step of
the writer is one use of `writeWith_append` or `writeWith_append_short`.
-/

namespace Ieee802154

variable {B C : Type} (cs : Codecs B C) (f : Frame B C) (m : FooterMode)

/-- The frame writer writes header, content, payload and footer, one after the other, into
every buffer with room for them. -/
theorem Frame.tryWrite_writesInto {hdrEnc contentEnc : List UInt8}
    (hh : WritesInto (cs.header.tryWrite f.header) hdrEnc)
    (hc : WritesInto (f.content.tryWrite cs) contentEnc) :
    WritesInto (f.tryWrite cs m) (hdrEnc ++ contentEnc ++ f.payload ++ m.footerBytes f.footer) := by
  intro buf h
  simp only [List.length_append, FooterMode.length_footerBytes] at h
  have h₁ := writeWith_append [] buf hh (by simp; omega)
  simp only [List.nil_append, List.length_nil, List.drop_zero] at h₁
  have h₂ := writeWith_append hdrEnc buf hc (by simp; omega)
  have h₃ := writeWith_append (hdrEnc ++ contentEnc) buf
    (writeSlice_writesInto f.payload) (by simp; omega)
  rw [Frame.tryWrite, EStateM.bind_of_ok h₁, EStateM.bind_of_ok h₂, EStateM.bind_of_ok h₃]
  cases m with
  | none => simp [FooterMode.footerBytes]; rfl
  | explicit =>
    have h₄ := writeWith_append (hdrEnc ++ contentEnc ++ f.payload) buf
      (writeSlice_writesInto f.footer.toList)
      (by simp [FooterMode.footerLen] at h ⊢; omega)
    simpa [FooterMode.footerBytes] using h₄

/-- The encoding example of the `Frame` documentation, into a 32-byte buffer. -/
example : (⟨⟨.data, false, false, false, false, .ieee802154_2006, 0x00,
      some (.short ⟨0x1234⟩ ⟨0x5678⟩), some (.short ⟨0x1234⟩ ⟨0x9abc⟩), none⟩, .data,
      [0xde, 0xf0], ⟨[0x12, 0x34], rfl⟩⟩ : Frame Unit Unit).tryWrite specCodecs .explicit
        (List.replicate 32 0) =
    .ok 15 ([0x01, 0x98, 0x00, 0x34, 0x12, 0x78, 0x56, 0x34, 0x12, 0xbc, 0x9a, 0xde, 0xf0, 0x12,
      0x34] ++ List.replicate 17 0) := rfl

/-- The frame writer fails on every buffer without room for header, content, payload and
footer. -/
theorem Frame.tryWrite_failsShort {hdrEnc contentEnc : List UInt8}
    (hh : WritesInto (cs.header.tryWrite f.header) hdrEnc)
    (hh' : FailsShort (cs.header.tryWrite f.header) hdrEnc)
    (hc : WritesInto (f.content.tryWrite cs) contentEnc)
    (hc' : FailsShort (f.content.tryWrite cs) contentEnc) :
    FailsShort (f.tryWrite cs m) (hdrEnc ++ contentEnc ++ f.payload ++ m.footerBytes f.footer) := by
  intro buf h
  simp only [List.length_append, FooterMode.length_footerBytes] at h
  unfold Frame.tryWrite
  by_cases hk : buf.length < hdrEnc.length
  · -- the header does not fit
    obtain ⟨e, s, hs⟩ := hh' buf hk
    exact ⟨e, _, EStateM.bind_of_error (writeWith_of_error (Nat.zero_le _) (by simpa using hs))⟩
  have h₁ := writeWith_append [] buf hh (by simp; omega)
  simp only [List.nil_append, List.length_nil, List.drop_zero] at h₁
  rw [EStateM.bind_of_ok h₁]
  by_cases hc₁ : buf.length < hdrEnc.length + contentEnc.length
  · -- the content does not fit
    obtain ⟨e, s, hs⟩ := writeWith_append_short hdrEnc buf hc' (by omega) hc₁
    exact ⟨e, s, EStateM.bind_of_error hs⟩
  rw [EStateM.bind_of_ok (writeWith_append hdrEnc buf hc (by simp; omega))]
  by_cases hp : buf.length < hdrEnc.length + contentEnc.length + f.payload.length
  · -- the payload does not fit
    obtain ⟨e, s, hs⟩ := writeWith_append_short (hdrEnc ++ contentEnc) buf
      (writeSlice_failsShort f.payload) (by simp; omega) (by simp; omega)
    exact ⟨e, s, EStateM.bind_of_error hs⟩
  rw [EStateM.bind_of_ok (writeWith_append (hdrEnc ++ contentEnc) buf
    (writeSlice_writesInto f.payload) (by simp; omega))]
  cases m with
  | none => simp [FooterMode.footerLen] at h; omega
  | explicit =>
    -- the footer does not fit
    exact writeWith_append_short (hdrEnc ++ contentEnc ++ f.payload) buf
      (writeSlice_failsShort f.footer.toList)
      (by simp; omega) (by simp [FooterMode.footerLen] at h ⊢; omega)

/-- `Frame::try_write` returns `Ok(n)` exactly when the buffer has room for the header's
encoding, the content's, the payload and, in `Explicit` mode, the footer; `n` is then
their total length and the buffer starts with them, in that order. On a shorter buffer it
returns an error. -/
theorem tryWrite_eq_ok_iff {hdrEnc contentEnc : List UInt8}
    (hh : WritesInto (cs.header.tryWrite f.header) hdrEnc)
    (hh' : FailsShort (cs.header.tryWrite f.header) hdrEnc)
    (hc : f.content.WritesInto cs contentEnc) (hc' : f.content.FailsShort cs contentEnc)
    (buf : List UInt8) :
    (∀ n buf', f.tryWrite cs m buf = .ok n buf' ↔
      (hdrEnc ++ contentEnc ++ f.payload ++ m.footerBytes f.footer).length ≤ buf.length ∧
      n = (hdrEnc ++ contentEnc ++ f.payload ++ m.footerBytes f.footer).length ∧
      buf' = hdrEnc ++ contentEnc ++ f.payload ++ m.footerBytes f.footer ++ buf.drop n) ∧
    (buf.length < (hdrEnc ++ contentEnc ++ f.payload ++ m.footerBytes f.footer).length →
      ∃ e buf', f.tryWrite cs m buf = .error e buf') := by
  have hw := Frame.tryWrite_writesInto cs f m hh (FrameContent.writesInto cs hc)
  have hf := Frame.tryWrite_failsShort cs f m hh hh' (FrameContent.writesInto cs hc)
    (FrameContent.failsShort cs hc' hc)
  refine ⟨fun n buf' => ⟨fun hok => ?_, ?_⟩, hf buf⟩
  · by_cases hfit : (hdrEnc ++ contentEnc ++ f.payload ++ m.footerBytes f.footer).length ≤ buf.length
    · rw [hw buf hfit] at hok
      cases hok
      exact ⟨hfit, rfl, rfl⟩
    · obtain ⟨e, s, hs⟩ := hf buf (by omega)
      rw [hs] at hok
      cases hok
  · rintro ⟨hfit, rfl, rfl⟩
    exact hw buf hfit

/-- An acknowledgement with a one-byte payload, written with its footer into eight bytes. -/
theorem tryWrite_eq_ok_iff_ack :
    (∀ n buf', (⟨⟨.acknowledgement, false, false, false, false, .ieee802154_2003, 7, none, none,
        none⟩, .acknowledgement, [0xaa], ⟨[0x12, 0x34], rfl⟩⟩ : Frame Unit Unit).tryWrite
          specCodecs .explicit (List.replicate 8 0) = .ok n buf' ↔
      6 ≤ 8 ∧ n = 6 ∧ buf' = [2, 0, 7, 0xaa, 0x12, 0x34] ++ (List.replicate 8 0).drop n) ∧
    (8 < 6 → ∃ e buf', (⟨⟨.acknowledgement, false, false, false, false, .ieee802154_2003, 7,
        none, none, none⟩, .acknowledgement, [0xaa], ⟨[0x12, 0x34], rfl⟩⟩ : Frame Unit Unit).tryWrite
          specCodecs .explicit (List.replicate 8 0) = .error e buf') := by
  have hh := Header.codec_laws ⟨.acknowledgement, false, false, false, false, .ieee802154_2003, 7,
    none, none, none⟩ ⟨rfl, by simp, by simp⟩
  have hc : (FrameContent.acknowledgement : FrameContent Unit Unit).WritesInto specCodecs [] := rfl
  exact tryWrite_eq_ok_iff specCodecs ⟨_, .acknowledgement, [0xaa], ⟨[0x12, 0x34], rfl⟩⟩ .explicit
    hh.1 hh.2.1 hc trivial _

/-! ## What a failed write leaves -/

/-- A slice writer that does not fit after `enc` fails with `Incomplete` and changes
nothing. -/
theorem writeWith_writeSlice_short {enc buf src : List UInt8} (h₁ : enc.length ≤ buf.length)
    (h₂ : buf.length < enc.length + src.length) :
    writeWith enc.length (writeSlice src) (enc ++ buf.drop enc.length) =
      .error .incomplete (enc ++ buf.drop enc.length) := by
  rw [writeWith_of_error (by simp) (writeSlice_of_lt (by simp; omega)),
    List.take_append_drop]

/-- `Frame::try_write` does not roll back: when the header and the content fit but the rest
does not, it returns `Incomplete` and leaves in the buffer the header and content, and the
payload too when it fit, with the bytes after them as they were. -/
theorem Frame.tryWrite_eq_error {hdrEnc contentEnc : List UInt8}
    (hh : WritesInto (cs.header.tryWrite f.header) hdrEnc)
    (hc : f.content.WritesInto cs contentEnc) (buf : List UInt8)
    (hfit : (hdrEnc ++ contentEnc).length ≤ buf.length)
    (hshort : buf.length < (hdrEnc ++ contentEnc ++ f.payload ++ m.footerBytes f.footer).length) :
    (buf.length < (hdrEnc ++ contentEnc ++ f.payload).length →
      f.tryWrite cs m buf =
        .error .incomplete (hdrEnc ++ contentEnc ++ buf.drop (hdrEnc ++ contentEnc).length)) ∧
    ((hdrEnc ++ contentEnc ++ f.payload).length ≤ buf.length →
      f.tryWrite cs m buf = .error .incomplete
        (hdrEnc ++ contentEnc ++ f.payload ++ buf.drop (hdrEnc ++ contentEnc ++ f.payload).length)) := by
  simp only [List.length_append, FooterMode.length_footerBytes] at hfit hshort
  have h₁ := writeWith_append [] buf hh (by simp; omega)
  simp only [List.nil_append, List.length_nil, List.drop_zero] at h₁
  unfold Frame.tryWrite
  rw [EStateM.bind_of_ok h₁, EStateM.bind_of_ok (writeWith_append hdrEnc buf
    (FrameContent.writesInto cs hc) (by simp; omega))]
  constructor
  · intro hp
    simp only [List.length_append] at hp
    exact EStateM.bind_of_error (writeWith_writeSlice_short (by simp; omega) (by simp; omega))
  · intro hp
    rw [EStateM.bind_of_ok (writeWith_append (hdrEnc ++ contentEnc) buf (writeSlice_writesInto _) hp)]
    simp only [List.length_append] at hp
    cases m with
    | none => simp [FooterMode.footerLen] at hshort; omega
    | explicit =>
      exact writeWith_writeSlice_short (by simp; omega)
        (by simp [FooterMode.footerLen] at hshort ⊢; omega)

/-- An acknowledgement with a one-byte payload, written with its footer into four bytes: the
header and the payload stay in the buffer, the footer does not fit. -/
theorem tryWrite_eq_error_ack :
    (4 < 4 → (⟨⟨.acknowledgement, false, false, false, false, .ieee802154_2003, 7, none, none,
        none⟩, .acknowledgement, [0xaa], ⟨[0x12, 0x34], rfl⟩⟩ : Frame Unit Unit).tryWrite
          specCodecs .explicit (List.replicate 4 0) = .error .incomplete [2, 0, 7, 0]) ∧
    (4 ≤ 4 → (⟨⟨.acknowledgement, false, false, false, false, .ieee802154_2003, 7, none, none,
        none⟩, .acknowledgement, [0xaa], ⟨[0x12, 0x34], rfl⟩⟩ : Frame Unit Unit).tryWrite
          specCodecs .explicit (List.replicate 4 0) = .error .incomplete [2, 0, 7, 0xaa]) := by
  have hh := Header.codec_laws ⟨.acknowledgement, false, false, false, false, .ieee802154_2003, 7,
    none, none, none⟩ ⟨rfl, by simp, by simp⟩
  have hc : (FrameContent.acknowledgement : FrameContent Unit Unit).WritesInto specCodecs [] := rfl
  refine Frame.tryWrite_eq_error specCodecs ⟨_, .acknowledgement, [0xaa], ⟨[0x12, 0x34], rfl⟩⟩
    .explicit hh.1 hc (List.replicate 4 0) ?_ ?_ <;> decide

end Ieee802154
