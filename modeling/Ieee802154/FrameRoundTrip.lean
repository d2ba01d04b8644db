import Ieee802154.FrameWrite

/-!
# `Frame::try_read` undoes `Frame::try_write`, and back

Two inversion lemmas say once what a successful call does: `Frame.tryWrite_eq_ok` (the
header, content, payload and footer writes, each from where the previous stopped) and
`Frame.tryRead_eq_ok` (the header and content reads, then the payload slice up to the
footer). `readPayload_none` and `readPayload_explicit` are the payload step on its own;
where it needs more bytes than are left it panics (`readPayload_explicit_of_lt`): the `usize`
subtraction `bytes.len() - *offset - 2` would wrap, and a debug build (overflow checks on)
panics there. A release build wraps instead, and the payload read after it returns an error.

The round trips are then assembled from the inversion lemmas and the collaborators' laws.
The last section says where a debug build's read panics: in `Explicit` mode on every buffer
whose header and content leave fewer than two bytes (`Frame.tryRead_explicit_of_lt`), and,
with readers that stay inside their slice, nowhere else (`Frame.tryRead_eq_panic`).
-/

namespace Ieee802154

variable {B C : Type} (cs : Codecs B C)

/-! ## What a successful write did -/

theorem writeSlice_eq_ok {src s s' : List UInt8} {n : Nat} :
    writeSlice src s = .ok n s' ↔
      src.length ≤ s.length ∧ n = src.length ∧ s' = src ++ s.drop src.length := by
  unfold writeSlice
  split
  · simp only [reduceCtorEq, false_iff, not_and]; omega
  · simp only [EStateM.Result.ok.injEq]
    constructor
    · rintro ⟨rfl, rfl⟩; exact ⟨by omega, rfl, rfl⟩
    · rintro ⟨-, rfl, rfl⟩; exact ⟨rfl, rfl⟩

theorem Frame.tryWrite_eq_ok {f : Frame B C} {m : FooterMode} {buf buf' : List UInt8} {n : Nat}
    (h : f.tryWrite cs m buf = .ok n buf') :
    ∃ k hbuf c cbuf, cs.header.tryWrite f.header buf = .ok k hbuf ∧ k ≤ hbuf.length ∧
      f.content.tryWrite cs (hbuf.drop k) = .ok c cbuf ∧ c ≤ cbuf.length ∧
      n = k + c + f.payload.length + m.footerLen ∧
      buf'.take n = hbuf.take k ++ cbuf.take c ++ f.payload ++ m.footerBytes f.footer := by
  simp only [Frame.tryWrite, EStateM.bind_eq_ok, writeWith_eq_ok, writeSlice_eq_ok] at h
  obtain ⟨_, hbuf, ⟨-, k, x, hh, rfl, hx⟩, _, _, ⟨hk, c, cbuf, hc, rfl, rfl⟩, _, _,
    ⟨hc', _, _, ⟨hp, rfl, rfl⟩, rfl, rfl⟩, h⟩ := h
  simp only [List.take_zero, List.nil_append] at hx
  subst hx
  simp only [Nat.zero_add, List.drop_zero] at hh hk hc hc' hp h
  have hkl : (hbuf.take k).length = k := by simp; omega
  have hcl : c ≤ cbuf.length := by simp at hc'; omega
  have htake : (hbuf.take k ++ cbuf).take (k + c) = hbuf.take k ++ cbuf.take c := by
    rw [List.take_append_eq_append_take, hkl, List.take_of_length_le (by omega)]; simp
  have hdrop : (hbuf.take k ++ cbuf).drop (k + c) = cbuf.drop c := by
    rw [List.drop_append_eq_append_drop, hkl, List.drop_of_length_le (by omega)]; simp
  rw [htake, hdrop] at h
  refine ⟨k, hbuf, c, cbuf, hh, hk, hc, hcl, ?_⟩
  have hpre : (hbuf.take k ++ cbuf.take c ++ f.payload).length = k + c + f.payload.length := by
    simp; omega
  have hs₃ : ∀ r, (hbuf.take k ++ cbuf.take c ++ (f.payload ++ r)).take (k + c + f.payload.length)
      = hbuf.take k ++ cbuf.take c ++ f.payload := fun r => by
    rw [← List.append_assoc, ← hpre, List.take_left]
  cases m with
  | none =>
    cases h
    exact ⟨rfl, by simpa [FooterMode.footerBytes] using hs₃ _⟩
  | explicit =>
    obtain ⟨-, _, _, hs, rfl, rfl⟩ := writeWith_eq_ok.mp h
    obtain ⟨-, rfl, rfl⟩ := writeSlice_eq_ok.mp hs
    refine ⟨by simp [FooterMode.footerLen], ?_⟩
    rw [hs₃, ← hpre, List.length_append, ← List.append_assoc, List.take_left']
    · rfl
    · simp only [List.length_append, Mathlib.Vector.toList_length, FooterMode.footerLen]


/-! ## The payload step -/

section Payload

variable {bytes : List UInt8} {offset : Nat}

theorem readPayload_none (h : offset ≤ bytes.length) :
    readPayload bytes offset .none = .ok (bytes.drop offset, 0, bytes.length) := by
  simp [readPayload, usizeSub_of_le h, readWith_of_le _ h, readLen_of_le, Nat.add_sub_cancel' h]

theorem readPayload_explicit (h : offset + 2 ≤ bytes.length) :
    readPayload bytes offset .explicit =
      .ok ((bytes.drop offset).take (bytes.length - offset - 2),
        UInt16.ofNat (fromLE (bytes.drop (bytes.length - 2))), bytes.length) := by
  have hp : offset + (bytes.length - offset - 2) = bytes.length - 2 := by omega
  have hf : (bytes.drop (bytes.length - 2)).take 2 = bytes.drop (bytes.length - 2) :=
    List.take_of_length_le (by simp only [List.length_drop]; omega)
  simp only [readPayload, Outcome.pure_eq, usizeSub_of_le (show offset ≤ bytes.length by omega),
    usizeSub_of_le (show 2 ≤ bytes.length - offset by omega), Outcome.ok_bind,
    readWith_of_le _ (show offset ≤ bytes.length by omega),
    readLen_of_le (show bytes.length - offset - 2 ≤ (bytes.drop offset).length by
      simp only [List.length_drop]; omega), hp,
    readWith_of_le _ (show bytes.length - 2 ≤ bytes.length by omega),
    readU16LE_of_le (show 2 ≤ (bytes.drop (bytes.length - 2)).length by
      simp only [List.length_drop]; omega), hf,
    Nat.sub_add_cancel (show 2 ≤ bytes.length by omega)]

/-- In `Explicit` mode the payload step panics when fewer than 2 bytes are left: the `usize`
subtraction would wrap, and a debug build panics there (a release build wraps, and the slice
read after it fails). -/
theorem readPayload_explicit_of_lt (h : bytes.length < offset + 2) :
    readPayload bytes offset .explicit = .panic "attempt to subtract with overflow" := by
  by_cases ho : offset ≤ bytes.length
  · simp [readPayload, usizeSub_of_le ho, usizeSub_of_lt (show bytes.length - offset < 2 by omega)]
  · simp [readPayload, usizeSub_of_lt (show bytes.length < offset by omega)]

/-- In `None` mode the payload step panics only when the offset is past the end. -/
theorem readPayload_none_of_lt (h : bytes.length < offset) :
    readPayload bytes offset .none = .panic "attempt to subtract with overflow" := by
  simp [readPayload, usizeSub_of_lt h]

/-- The payload step after a prefix, in `None` mode: the rest of the buffer. -/
theorem readPayload_append_none (pre payload : List UInt8) :
    readPayload (pre ++ payload) pre.length .none =
      .ok (payload, 0, pre.length + payload.length) := by
  rw [readPayload_none (by simp), List.drop_left, List.length_append]

/-- The payload step after a prefix, in `Explicit` mode: the rest of the buffer but its last
two bytes, which are the footer. -/
theorem readPayload_append_explicit (pre payload : List UInt8) (footer : Mathlib.Vector UInt8 2) :
    readPayload (pre ++ (payload ++ footer.toList)) pre.length .explicit =
      .ok (payload, UInt16.ofNat (fromLE footer.toList), pre.length + payload.length + 2) := by
  have hlen : (pre ++ (payload ++ footer.toList)).length = pre.length + payload.length + 2 := by
    simp; omega
  rw [readPayload_explicit (by omega), List.drop_left, hlen, List.take_left' (by omega),
    ← List.append_assoc, List.drop_left' (by simp)]

end Payload

/-! ## Decoding what was encoded -/

theorem toLeBytes_zero : toLeBytes 0 = ⟨[0, 0], rfl⟩ := rfl

/-- `Frame::try_read`, on exactly the bytes `Frame::try_write` wrote, returns the frame and
their number; in `None` mode the footer comes back as `[0, 0]`. This needs the content to
be of the header's frame type, and the header and body codecs to read back what they
wrote, whatever follows. -/
theorem tryRead_tryWrite {f : Frame B C} {m : FooterMode}
    (hty : f.content.frameType = f.header.frameType)
    (hh : ReadsBack (cs.header.tryWrite f.header) cs.header.tryRead f.header)
    (hc : f.content.ReadsBack cs) {buf buf' : List UInt8} {n : Nat}
    (hw : f.tryWrite cs m buf = .ok n buf') :
    Frame.tryRead cs (buf'.take n) m =
      .ok (if m = .explicit then f else { f with footer := ⟨[0, 0], rfl⟩ }, n) := by
  obtain ⟨k, hbuf, c, cbuf, hhw, hk, hcw, hcl, rfl, htake⟩ := Frame.tryWrite_eq_ok cs hw
  rw [htake, List.append_assoc _ f.payload]
  -- the bytes are `pre ++ rest`: header and content, then payload and footer
  have hkl : (hbuf.take k).length = k := by simp; omega
  have hpre : (hbuf.take k ++ cbuf.take c).length = k + c := by
    rw [List.length_append, hkl]; simp; omega
  have h₁ : ∀ rest, readWith (hbuf.take k ++ cbuf.take c ++ rest) 0 cs.header.tryRead =
      .ok (f.header, k) := fun rest => by
    rw [readWith_of_le _ (Nat.zero_le _), List.drop_zero, List.append_assoc, hh buf k hbuf hhw]
    simp
  have h₂ : ∀ rest, readWith (hbuf.take k ++ cbuf.take c ++ rest) k
      (FrameContent.tryRead cs f.header) = .ok (f.content, k + c) := fun rest => by
    rw [readWith_of_le _ (by simp; omega), List.append_assoc, List.drop_left' hkl,
      FrameContent.readsBack cs hty hc (hbuf.drop k) c cbuf hcw rest]
    simp
  unfold Frame.tryRead
  simp only [h₁, h₂, Outcome.ok_bind]
  rw [← hpre]
  cases m with
  | none =>
    simp only [FooterMode.footerBytes, List.append_nil]
    rw [readPayload_append_none]
    simp [FooterMode.footerLen, toLeBytes_zero]
  | explicit =>
    simp only [FooterMode.footerBytes]
    rw [readPayload_append_explicit]
    simp [FooterMode.footerLen, toLeBytes_fromLE]

/-- The acknowledgement written without its footer reads back with the footer `[0, 0]`. -/
theorem tryRead_tryWrite_ack :
    Frame.tryRead specCodecs [2, 0, 7, 0xaa] .none =
      .ok (⟨⟨.acknowledgement, false, false, false, false, .ieee802154_2003, 7, none, none, none⟩,
        .acknowledgement, [0xaa], ⟨[0, 0], rfl⟩⟩, 4) := by
  have hh := Header.codec_laws ⟨.acknowledgement, false, false, false, false, .ieee802154_2003, 7,
    none, none, none⟩ ⟨rfl, by simp, by simp⟩
  have hw : (⟨⟨.acknowledgement, false, false, false, false, .ieee802154_2003, 7, none, none,
      none⟩, .acknowledgement, [0xaa], ⟨[0x12, 0x34], rfl⟩⟩ : Frame Unit Unit).tryWrite
        specCodecs .none (List.replicate 4 0) = .ok 4 [2, 0, 7, 0xaa] := rfl
  have h := @tryRead_tryWrite Unit Unit specCodecs ⟨⟨.acknowledgement, false, false, false, false,
    .ieee802154_2003, 7, none, none, none⟩, .acknowledgement, [0xaa], ⟨[0x12, 0x34], rfl⟩⟩ .none rfl
    hh.2.2 trivial _ _ _ hw
  simp only [List.take, reduceCtorEq, if_false] at h
  exact h

/-! ## Encoding what was decoded -/

/-- What a successful content read did: it built the variant of the header's frame type,
from the body codec's read for beacons and commands, and from no bytes otherwise. -/
theorem FrameContent.tryRead_eq_ok {header : Header} {bs : List UInt8}
    {content : FrameContent B C} {c : Nat}
    (h : FrameContent.tryRead cs header bs = .ok (content, c)) :
    content.frameType = header.frameType ∧
      ((∃ b, content = .beacon b ∧ cs.beacon.tryRead bs = .ok (b, c)) ∨
        ((content = .data ∨ content = .acknowledgement) ∧ c = 0) ∨
        (∃ x, content = .command x ∧ cs.command.tryRead bs = .ok (x, c))) := by
  unfold FrameContent.tryRead at h
  split at h <;> rename_i hty
  · obtain ⟨⟨b, size⟩, hr, hp⟩ := Outcome.bind_eq_ok.mp h
    obtain ⟨-, size', hr', rfl⟩ := readWith_eq_ok.mp hr
    cases hp
    exact ⟨hty.symm, .inl ⟨b, rfl, by simpa using hr'⟩⟩
  · cases h
    exact ⟨hty.symm, .inr (.inl ⟨.inl rfl, rfl⟩)⟩
  · cases h
    exact ⟨hty.symm, .inr (.inl ⟨.inr rfl, rfl⟩)⟩
  · obtain ⟨⟨x, size⟩, hr, hp⟩ := Outcome.bind_eq_ok.mp h
    obtain ⟨-, size', hr', rfl⟩ := readWith_eq_ok.mp hr
    cases hp
    exact ⟨hty.symm, .inr (.inr ⟨x, rfl, by simpa using hr'⟩)⟩

/-- The content codec re-encodes what it decoded, when the body codecs do. -/
theorem FrameContent.writesInto_of_tryRead {header : Header} {bs : List UInt8}
    {content : FrameContent B C} {c : Nat}
    (hb : ∀ bs, WritesBack cs.beacon.tryRead cs.beacon.tryWrite bs)
    (hc : ∀ bs, WritesBack cs.command.tryRead cs.command.tryWrite bs)
    (h : FrameContent.tryRead cs header bs = .ok (content, c)) :
    Ieee802154.WritesInto (content.tryWrite cs) (bs.take c) := by
  obtain ⟨-, ⟨b, rfl, hr⟩ | ⟨hd | hd, rfl⟩ | ⟨x, rfl, hr⟩⟩ := FrameContent.tryRead_eq_ok cs h
  · exact writeWith_zero_writesInto (hb bs b c hr)
  all_goals first
    | exact writeWith_zero_writesInto (hc bs x c hr)
    | subst hd; intro buf _; rfl

/-- What a successful frame read did: header and content reads, then the payload up to the
footer's bytes, then the footer; it consumed the whole buffer. -/
theorem Frame.tryRead_eq_ok {bytes : List UInt8} {m : FooterMode} {fr : Frame B C} {n : Nat}
    (h : Frame.tryRead cs bytes m = .ok (fr, n)) :
    ∃ k c, cs.header.tryRead bytes = .ok (fr.header, k) ∧
      FrameContent.tryRead cs fr.header (bytes.drop k) = .ok (fr.content, c) ∧
      k + c + m.footerLen ≤ bytes.length ∧
      fr.payload = (bytes.drop (k + c)).take (bytes.length - (k + c) - m.footerLen) ∧
      m.footerBytes fr.footer = bytes.drop (bytes.length - m.footerLen) ∧ n = bytes.length := by
  unfold Frame.tryRead at h
  obtain ⟨⟨header, _⟩, hh, h₁⟩ := Outcome.bind_eq_ok.mp h
  obtain ⟨⟨content, _⟩, hc, h₂⟩ := Outcome.bind_eq_ok.mp h₁
  obtain ⟨⟨payload, footer, o⟩, hp, h⟩ := Outcome.bind_eq_ok.mp h₂
  clear h₁ h₂
  obtain ⟨-, k, hr, rfl⟩ := readWith_eq_ok.mp hh
  obtain ⟨hk, c, hcr, rfl⟩ := readWith_eq_ok.mp hc
  clear hh hc
  simp only [List.drop_zero, Nat.zero_add, Outcome.pure_eq, Outcome.ok.injEq,
    Prod.mk.injEq] at hr hcr hk hp h
  obtain ⟨rfl, rfl⟩ := h
  refine ⟨k, c, hr, hcr, ?_⟩
  cases m with
  | none =>
    by_cases hlen : k + c ≤ bytes.length
    · rw [readPayload_none hlen] at hp
      cases hp
      simp [FooterMode.footerLen, FooterMode.footerBytes, hlen]
    · rw [readPayload_none_of_lt (by omega)] at hp
      cases hp
  | explicit =>
    by_cases hlen : k + c + 2 ≤ bytes.length
    · rw [readPayload_explicit hlen] at hp
      cases hp
      refine ⟨hlen, rfl, ?_, rfl⟩
      exact congrArg Mathlib.Vector.toList
        (toLeBytes_fromLE ⟨bytes.drop (bytes.length - 2), by simp; omega⟩)
    · rw [readPayload_explicit_of_lt (by omega)] at hp
      cases hp

/-- The decoding example of the `Frame` documentation. -/
example : Frame.tryRead specCodecs [0x01, 0x98, 0x00, 0x12, 0x34, 0x56, 0x78, 0x12, 0x34, 0x9a,
      0xbc, 0xde, 0xf0, 0x12, 0x34] .explicit =
    .ok (⟨⟨.data, false, false, false, false, .ieee802154_2006, 0x00,
      some (.short ⟨0x3412⟩ ⟨0x7856⟩), some (.short ⟨0x3412⟩ ⟨0xbc9a⟩), none⟩, .data,
      [0xde, 0xf0], ⟨[0x12, 0x34], rfl⟩⟩, 15) := by
  decide

/-- A buffer cut where a successful read cut it: header, content, payload and footer bytes,
in order, make up the whole buffer. -/
theorem take_append_drop₄ (bytes : List UInt8) {k c l : Nat} (h : k + c + l ≤ bytes.length) :
    bytes.take k ++ (bytes.drop k).take c ++ (bytes.drop (k + c)).take (bytes.length - (k + c) - l)
      ++ bytes.drop (bytes.length - l) = bytes := by
  have e : (bytes.drop (k + c)).drop (bytes.length - (k + c) - l) = bytes.drop (bytes.length - l) := by
    rw [List.drop_drop]; congr 1; omega
  rw [← e, List.append_assoc, List.take_append_drop, List.append_assoc, ← List.drop_drop,
    List.take_append_drop, List.take_append_drop]

/-- `Frame::try_write` gives back every buffer `Frame::try_read` accepts: the read consumed
the whole buffer, built the content of the header's frame type and took the payload between
the end of the content and the footer; writing the frame into any buffer with room for it
returns `Ok(n)` and leaves the read bytes at its front. This needs the header and body
codecs to re-encode what they decoded. -/
theorem tryWrite_tryRead {bytes : List UInt8} {m : FooterMode} {fr : Frame B C} {n : Nat}
    (hh : WritesBack cs.header.tryRead cs.header.tryWrite bytes)
    (hb : ∀ bs, WritesBack cs.beacon.tryRead cs.beacon.tryWrite bs)
    (hc : ∀ bs, WritesBack cs.command.tryRead cs.command.tryWrite bs)
    (h : Frame.tryRead cs bytes m = .ok (fr, n)) :
    n = bytes.length ∧ fr.content.frameType = fr.header.frameType ∧
      (∃ k c, cs.header.tryRead bytes = .ok (fr.header, k) ∧
        FrameContent.tryRead cs fr.header (bytes.drop k) = .ok (fr.content, c) ∧
        fr.payload = (bytes.drop (k + c)).take (bytes.length - (k + c) - m.footerLen)) ∧
      ∀ buf : List UInt8, n ≤ buf.length → fr.tryWrite cs m buf = .ok n (bytes ++ buf.drop n) := by
  obtain ⟨k, c, hr, hcr, hlen, hp, hf, rfl⟩ := Frame.tryRead_eq_ok cs h
  refine ⟨rfl, (FrameContent.tryRead_eq_ok cs hcr).1, ⟨k, c, hr, hcr, hp⟩, fun buf hbuf => ?_⟩
  have hw := Frame.tryWrite_writesInto cs fr m (hh _ _ hr)
    (FrameContent.writesInto_of_tryRead cs hb hc hcr)
  rw [hp, hf, take_append_drop₄ bytes hlen] at hw
  exact hw buf hbuf

/-- A buffer holding an acknowledgement, its payload and its footer is read, then written
back into eight bytes. -/
theorem tryWrite_tryRead_ack :
    Frame.tryRead specCodecs [2, 0, 7, 0xaa, 0x12, 0x34] .explicit =
      .ok (⟨⟨.acknowledgement, false, false, false, false, .ieee802154_2003, 7, none, none, none⟩,
        .acknowledgement, [0xaa], ⟨[0x12, 0x34], rfl⟩⟩, 6) ∧
    (⟨⟨.acknowledgement, false, false, false, false, .ieee802154_2003, 7, none, none, none⟩,
        .acknowledgement, [0xaa], ⟨[0x12, 0x34], rfl⟩⟩ : Frame Unit Unit).tryWrite specCodecs
      .explicit (List.replicate 8 0) = .ok 6 [2, 0, 7, 0xaa, 0x12, 0x34, 0, 0] := by
  have hr : Frame.tryRead specCodecs [2, 0, 7, 0xaa, 0x12, 0x34] .explicit =
      .ok (⟨⟨.acknowledgement, false, false, false, false, .ieee802154_2003, 7, none, none, none⟩,
        .acknowledgement, [0xaa], ⟨[0x12, 0x34], rfl⟩⟩, 6) := by decide
  exact ⟨hr, (tryWrite_tryRead specCodecs
    (Header.writesBack ⟨.acknowledgement, false, false, false, false, .ieee802154_2003, 7, none,
      none, none⟩ ⟨rfl, by simp, by simp⟩ [0xaa, 0x12, 0x34])
    Codec.unit_writesBack Codec.unit_writesBack hr).2.2.2 _ (by decide)⟩

/-! ## Short buffers -/

/-- In `Explicit` mode `Frame::try_read` panics on every buffer whose header and content
leave fewer than two bytes: the `usize` subtraction `bytes.len() - *offset - 2` would wrap,
and a debug build panics there. A release build wraps instead, and the payload read returns
`Incomplete` (`BadOffset` if the content reader reported more bytes than it had). -/
theorem Frame.tryRead_explicit_of_lt {bytes : List UInt8} {header : Header}
    {content : FrameContent B C} {k c : Nat}
    (hh : cs.header.tryRead bytes = .ok (header, k)) (hk : k ≤ bytes.length)
    (hc : FrameContent.tryRead cs header (bytes.drop k) = .ok (content, c))
    (hlt : bytes.length < k + c + 2) :
    Frame.tryRead cs bytes .explicit = .panic "attempt to subtract with overflow" := by
  have h₁ : readWith bytes 0 cs.header.tryRead = .ok (header, k) := by
    rw [readWith_of_le _ (Nat.zero_le _), List.drop_zero, hh]
    simp
  have h₂ : readWith bytes k (FrameContent.tryRead cs header) = .ok (content, k + c) := by
    rw [readWith_of_le _ hk, hc]
    rfl
  simp only [Frame.tryRead, h₁, h₂, Outcome.ok_bind, readPayload_explicit_of_lt hlt,
    Outcome.panic_bind]

/-- A bare acknowledgement header with one byte after it, read in `Explicit` mode. -/
theorem tryRead_explicit_of_lt_ack :
    specCodecs.header.tryRead [2, 0, 7, 0] = .ok (⟨.acknowledgement, false, false, false, false,
      .ieee802154_2003, 7, none, none, none⟩, 3) ∧
    Frame.tryRead specCodecs [2, 0, 7, 0] .explicit = .panic "attempt to subtract with overflow" := by
  have hr : specCodecs.header.tryRead [2, 0, 7, 0] = .ok (⟨.acknowledgement, false, false, false,
      false, .ieee802154_2003, 7, none, none, none⟩, 3) := by decide
  exact ⟨hr, Frame.tryRead_explicit_of_lt specCodecs hr (by decide) rfl (by decide)⟩

/-- `Frame::try_read` in `Explicit` mode panics on a bare three-byte acknowledgement header. -/
theorem tryRead_bareAck_panics :
    Frame.tryRead specCodecs [0x02, 0x00, 0x07] .explicit =
      .panic "attempt to subtract with overflow" := by
  decide

/-- With header and body readers that never panic and stay inside their slice,
`Frame::try_read` panics only in `Explicit` mode, and only where the header and content
leave fewer than two bytes: the case of `Frame.tryRead_explicit_of_lt`. These are the panics
of a debug build; a release build has none here, since the subtraction wraps and the payload
read returns `Incomplete`. -/
theorem Frame.tryRead_eq_panic (hh : cs.header.tryRead.Bounded) (hb : cs.beacon.tryRead.Bounded)
    (hc : cs.command.tryRead.Bounded) {bytes : List UInt8} {m : FooterMode} {msg : String}
    (h : Frame.tryRead cs bytes m = .panic msg) :
    m = .explicit ∧ ∃ header k content c, cs.header.tryRead bytes = .ok (header, k) ∧
      k ≤ bytes.length ∧ FrameContent.tryRead cs header (bytes.drop k) = .ok (content, c) ∧
      bytes.length < k + c + 2 := by
  unfold Frame.tryRead at h
  cases hr : readWith bytes 0 cs.header.tryRead with
  | err e => simp [hr] at h
  | panic m' => exact absurd hr (readWith_ne_panic hh _ _ _)
  | ok p =>
    obtain ⟨header, k⟩ := p
    have hct := FrameContent.tryRead_bounded cs hb hc header
    cases hcr : readWith bytes k (FrameContent.tryRead cs header) with
    | err e => simp [hr, hcr] at h
    | panic m' => exact absurd hcr (readWith_ne_panic hct _ _ _)
    | ok q =>
      obtain ⟨content, o⟩ := q
      have ho := readWith_le hct hcr
      simp only [hr, hcr, Outcome.ok_bind] at h
      obtain ⟨-, k, hk', rfl⟩ := readWith_eq_ok.mp hr
      obtain ⟨hk, c, hc', rfl⟩ := readWith_eq_ok.mp hcr
      cases m with
      | none =>
        rw [readPayload_none ho] at h
        simp at h
      | explicit =>
        by_cases hlen : 0 + k + c + 2 ≤ bytes.length
        · rw [readPayload_explicit hlen] at h
          simp at h
        · exact ⟨rfl, header, k, content, c, by simpa using hk', by omega, by simpa using hc',
            by omega⟩

/-- The panic of a bare acknowledgement header with one byte after it, read in `Explicit`
mode with the spec's header codec, is of that case. -/
theorem tryRead_eq_panic_ack :
    Frame.tryRead specCodecs [2, 0, 7, 0] .explicit = .panic "attempt to subtract with overflow" ∧
      FooterMode.explicit = .explicit ∧ ∃ header k content c,
        specCodecs.header.tryRead [2, 0, 7, 0] = .ok (header, k) ∧ k ≤ [2, 0, 7, 0].length ∧
        FrameContent.tryRead specCodecs header ([2, 0, 7, 0].drop k) = .ok (content, c) ∧
        [2, 0, 7, 0].length < k + c + 2 := by
  have h : Frame.tryRead specCodecs [2, 0, 7, 0] .explicit =
      .panic "attempt to subtract with overflow" := by decide
  exact ⟨h, Frame.tryRead_eq_panic specCodecs Header.tryRead_bounded (Reader.bounded_pure ())
    (Reader.bounded_pure ()) h⟩

end Ieee802154
