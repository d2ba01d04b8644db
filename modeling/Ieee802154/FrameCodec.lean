import Ieee802154.Types

/-!
# `Frame::try_write` and `Frame::try_read`

The frame codec proper (`mac/frame/mod.rs`). It calls three codecs it does not define: the
header codec and the beacon and MAC command body codecs. They are parameters here
(`Codecs`), and what the frame-level theorems need of them is stated as laws on single
values or single buffers:

* `WritesInto` / `FailsShort`: a writer writes a given encoding into every slice with room
  for it, and fails on every shorter slice;
* `ReadsBack`: a reader decodes, whatever follows, what a writer wrote;
* `WritesBack`: a writer re-encodes what a reader decoded.

`FrameContent.tryWrite` and `FrameContent.tryRead` inherit these laws from the body codecs
(`FrameContent.writesInto`, `FrameContent.readsBack`, ...), so that the theorems about whole
frames only cite them.
-/

namespace Ieee802154

/-- A `TryRead` and a `TryWrite` implementation for one type, both with context `()`. -/
structure Codec (α : Type) where
  tryRead : Reader α
  tryWrite : α → Writer

/-- The codecs `mac::frame` calls but does not define: the header's and the beacon and MAC
command bodies'. -/
structure Codecs (B C : Type) where
  header : Codec Header
  beacon : Codec B
  command : Codec C

variable {α B C : Type}

/-! ## The model -/

/-- `impl TryWrite for FrameContent`: the body codec of the variant, nothing for data and
acknowledgement frames. -/
def FrameContent.tryWrite (cs : Codecs B C) : FrameContent B C → Writer
  | .beacon b => writeWith 0 (cs.beacon.tryWrite b)
  | .data | .acknowledgement => pure 0
  | .command c => writeWith 0 (cs.command.tryWrite c)

/-- `impl TryRead<&Header> for FrameContent`: the body the header's frame type calls for. -/
def FrameContent.tryRead (cs : Codecs B C) (header : Header) : Reader (FrameContent B C) :=
  fun bytes =>
  match header.frameType with
  | .beacon => do
    let (b, offset) ← readWith bytes 0 cs.beacon.tryRead
    pure (.beacon b, offset)
  | .data => pure (.data, 0)
  | .acknowledgement => pure (.acknowledgement, 0)
  | .macCommand => do
    let (c, offset) ← readWith bytes 0 cs.command.tryRead
    pure (.command c, offset)

/-- `impl TryWrite<FrameSerDesContext> for Frame`: header, content, payload and, in
`Explicit` mode, the footer, one after the other. Of the context it reads only the footer
mode. -/
def Frame.tryWrite (cs : Codecs B C) (f : Frame B C) (mode : FooterMode) : Writer := do
  let offset ← writeWith 0 (cs.header.tryWrite f.header)
  let offset ← writeWith offset (f.content.tryWrite cs)
  let offset ← writeWith offset (writeSlice f.payload)
  match mode with
  | .none => pure offset
  | .explicit => writeWith offset (writeSlice f.footer.toList)

/-- The `match mode` of `Frame::try_read`: the payload runs to the end of the buffer, less
2 bytes in `Explicit` mode, which are then read as a little-endian `u16`. The length
arithmetic is `usize`'s. -/
def readPayload (bytes : List UInt8) (offset : Nat) :
    FooterMode → Outcome Error (List UInt8 × UInt16 × Nat)
  | .none => do
    let len ← usizeSub bytes.length offset
    let (payload, offset) ← readWith bytes offset (readLen len)
    pure (payload, 0, offset)
  | .explicit => do
    let len ← usizeSub bytes.length offset
    let len ← usizeSub len 2
    let (payload, offset) ← readWith bytes offset (readLen len)
    let (footer, offset) ← readWith bytes offset readU16LE
    pure (payload, footer, offset)

/-- `impl TryRead<(FooterMode, AEAD)> for Frame`: header, then the content its frame type
calls for, then payload and footer. The AEAD in the context is not used. -/
def Frame.tryRead (cs : Codecs B C) (bytes : List UInt8) (mode : FooterMode) :
    Outcome Error (Frame B C × Nat) := do
  let (header, offset) ← readWith bytes 0 cs.header.tryRead
  let (content, offset) ← readWith bytes offset (FrameContent.tryRead cs header)
  let (payload, footer, offset) ← readPayload bytes offset mode
  pure ({ header, content, payload, footer := toLeBytes footer }, offset)

/-- The footer bytes on the wire in a footer mode. -/
def FooterMode.footerBytes (footer : Mathlib.Vector UInt8 2) : FooterMode → List UInt8
  | .none => []
  | .explicit => footer.toList

@[simp] theorem FooterMode.length_footerBytes (footer : Mathlib.Vector UInt8 2)
    (m : FooterMode) : (m.footerBytes footer).length = m.footerLen := by
  cases m <;> simp [footerBytes, footerLen]

/-! ## Laws of a collaborating codec -/

/-- `w` writes `enc` at the front of every slice with room for it, and reports its length. -/
def WritesInto (w : Writer) (enc : List UInt8) : Prop :=
  ∀ buf : List UInt8, enc.length ≤ buf.length →
    w buf = .ok enc.length (enc ++ buf.drop enc.length)

/-- `w` fails on every slice shorter than `enc`. -/
def FailsShort (w : Writer) (enc : List UInt8) : Prop :=
  ∀ buf : List UInt8, buf.length < enc.length → ∃ e buf', w buf = .error e buf'

/-- `r` decodes `x`, whatever follows, from what `w` wrote, and takes exactly the bytes `w`
reports. -/
def ReadsBack (w : Writer) (r : Reader α) (x : α) : Prop :=
  ∀ buf n buf', w buf = .ok n buf' → ∀ rest, r (buf'.take n ++ rest) = .ok (x, n)

/-- Whatever `r` decodes from `bytes`, `w` re-encodes into those bytes. -/
def WritesBack (r : Reader α) (w : α → Writer) (bytes : List UInt8) : Prop :=
  ∀ x k, r bytes = .ok (x, k) → WritesInto (w x) (bytes.take k)

/-- `r` never panics and never reports more bytes than the slice it was given. -/
def Reader.Bounded (r : Reader α) : Prop :=
  ∀ bs, (∀ msg, r bs ≠ .panic msg) ∧ ∀ x k, r bs = .ok (x, k) → k ≤ bs.length

/-- `r` never reports more bytes than the slice it was given. -/
def Reader.Within (r : Reader α) : Prop :=
  ∀ bs x k, r bs = .ok (x, k) → k ≤ bs.length

/-- The body codec of a content writes `enc` of it; data and acknowledgement contents have
the empty encoding. -/
def FrameContent.WritesInto (cs : Codecs B C) (enc : List UInt8) : FrameContent B C → Prop
  | .beacon b => Ieee802154.WritesInto (cs.beacon.tryWrite b) enc
  | .data | .acknowledgement => enc = []
  | .command c => Ieee802154.WritesInto (cs.command.tryWrite c) enc

/-- The body codec of a content fails on slices shorter than `enc`. -/
def FrameContent.FailsShort (cs : Codecs B C) (enc : List UInt8) : FrameContent B C → Prop
  | .beacon b => Ieee802154.FailsShort (cs.beacon.tryWrite b) enc
  | .data | .acknowledgement => True
  | .command c => Ieee802154.FailsShort (cs.command.tryWrite c) enc

/-- The body codec of a content reads back what it wrote. -/
def FrameContent.ReadsBack (cs : Codecs B C) : FrameContent B C → Prop
  | .beacon b => Ieee802154.ReadsBack (cs.beacon.tryWrite b) cs.beacon.tryRead b
  | .data | .acknowledgement => True
  | .command c => Ieee802154.ReadsBack (cs.command.tryWrite c) cs.command.tryRead c

/-! ## Steps of a write -/

section Steps

variable {ε σ β : Type}

theorem EStateM.bind_of_ok {x : EStateM ε σ α} {f : α → EStateM ε σ β} {s s' : σ} {a : α}
    (h : x s = .ok a s') : (x >>= f) s = f a s' := by
  show EStateM.bind x f s = _
  simp only [EStateM.bind, h]

theorem EStateM.bind_of_error {x : EStateM ε σ α} {f : α → EStateM ε σ β} {s s' : σ} {e : ε}
    (h : x s = .error e s') : (x >>= f) s = .error e s' := by
  show EStateM.bind x f s = _
  simp only [EStateM.bind, h]

/-- A sequence of writes succeeds exactly when its first write does and the rest succeeds
on the slice that write leaves. -/
theorem EStateM.bind_eq_ok {x : EStateM ε σ α} {f : α → EStateM ε σ β} {s s'' : σ} {b : β} :
    (x >>= f) s = .ok b s'' ↔ ∃ a s', x s = .ok a s' ∧ f a s' = .ok b s'' := by
  show EStateM.bind x f s = _ ↔ _
  unfold EStateM.bind
  constructor
  · intro h
    split at h
    · exact ⟨_, _, ‹_›, h⟩
    · cases h
  · rintro ⟨a, s', hx, hf⟩
    rw [hx]
    exact hf

/-- A write from an offset succeeds exactly when the offset is in the slice and the writer
succeeds on the rest; the bytes before the offset stay. -/
theorem writeWith_eq_ok {o n : Nat} {w : Writer} {s s' : List UInt8} :
    writeWith o w s = .ok n s' ↔
      o ≤ s.length ∧ ∃ size rest, w (s.drop o) = .ok size rest ∧ n = o + size ∧
        s' = s.take o ++ rest := by
  unfold writeWith
  split
  · simp only [reduceCtorEq, false_iff, not_and]; omega
  · constructor
    · intro h
      split at h
      · cases h
        exact ⟨by omega, _, _, ‹_›, rfl, rfl⟩
      · cases h
    · rintro ⟨-, size, rest, hw, rfl, rfl⟩
      rw [hw]

theorem writeSlice_writesInto (src : List UInt8) : WritesInto (writeSlice src) src :=
  fun _ h => writeSlice_of_le h

theorem writeSlice_failsShort (src : List UInt8) : FailsShort (writeSlice src) src :=
  fun _ h => ⟨_, _, writeSlice_of_lt h⟩

/-- A writer of `enc'` run from the end of `enc` on a slice that starts with `enc`: the
slice then starts with `enc ++ enc'`. -/
theorem writeWith_append (enc buf : List UInt8) {w : Writer} {enc' : List UInt8}
    (hw : WritesInto w enc')
    (h : (enc ++ enc').length ≤ buf.length) :
    writeWith enc.length w (enc ++ buf.drop enc.length) =
      .ok (enc ++ enc').length (enc ++ enc' ++ buf.drop (enc ++ enc').length) := by
  have hrest : (buf.drop enc.length).drop enc'.length = buf.drop (enc ++ enc').length := by
    simp [List.drop_drop]
  rw [List.length_append] at h
  rw [writeWith_of_ok (by simp) (by rw [List.drop_left]; exact hw _ (by simp; omega))]
  simp [hrest]

/-- The same writer on a slice too short for `enc ++ enc'` fails. -/
theorem writeWith_append_short (enc buf : List UInt8) {w : Writer} {enc' : List UInt8}
    (hw : FailsShort w enc') (h₁ : enc.length ≤ buf.length)
    (h₂ : buf.length < enc.length + enc'.length) :
    ∃ e s, writeWith enc.length w (enc ++ buf.drop enc.length) = .error e s := by
  obtain ⟨e, s, hs⟩ := hw (buf.drop enc.length) (by simp; omega)
  exact ⟨e, _, writeWith_of_error (by simp) (by rw [List.drop_left]; exact hs)⟩

end Steps

/-! ## The content codec inherits the body codecs' laws -/

section Content

variable (cs : Codecs B C)

theorem writeWith_zero_writesInto {w : Writer} {enc : List UInt8} (hw : WritesInto w enc) :
    WritesInto (writeWith 0 w) enc := by
  intro buf h
  simpa using writeWith_append [] buf hw (by simpa using h)

theorem FrameContent.writesInto {enc : List UInt8} {content : FrameContent B C}
    (h : content.WritesInto cs enc) : Ieee802154.WritesInto (content.tryWrite cs) enc := by
  cases content with
  | beacon b => exact writeWith_zero_writesInto h
  | data | acknowledgement =>
    subst h
    intro buf _
    rfl
  | command c => exact writeWith_zero_writesInto h

theorem FrameContent.failsShort {enc : List UInt8} {content : FrameContent B C}
    (h : content.FailsShort cs enc) (h' : content.WritesInto cs enc) :
    Ieee802154.FailsShort (content.tryWrite cs) enc := by
  intro buf hb
  cases content with
  | beacon b =>
    obtain ⟨e, s, hs⟩ := h buf hb
    exact ⟨e, _, writeWith_of_error (Nat.zero_le _) (by simpa using hs)⟩
  | data | acknowledgement =>
    simp only [FrameContent.WritesInto] at h'
    simp [h'] at hb
  | command c =>
    obtain ⟨e, s, hs⟩ := h buf hb
    exact ⟨e, _, writeWith_of_error (Nat.zero_le _) (by simpa using hs)⟩

theorem readWith_zero_readsBack {w : Writer} {r : Reader α} {x : α} (h : ReadsBack w r x)
    {buf buf' : List UInt8} {n : Nat} (hw : writeWith 0 w buf = .ok n buf') (rest : List UInt8) :
    readWith (buf'.take n ++ rest) 0 r = .ok (x, n) := by
  obtain ⟨-, size, written, hs, rfl, rfl⟩ := writeWith_eq_ok.mp hw
  simpa [readWith] using h buf size _ (by simpa using hs) rest

/-- The content codec reads back what it wrote, when the content is of the header's frame
type. -/
theorem FrameContent.readsBack {header : Header} {content : FrameContent B C}
    (hty : content.frameType = header.frameType) (h : content.ReadsBack cs) :
    Ieee802154.ReadsBack (content.tryWrite cs) (FrameContent.tryRead cs header) content := by
  intro buf n buf' hw rest
  cases content with
  | beacon b =>
    simp only [FrameContent.tryRead, ← hty, FrameContent.frameType]
    rw [readWith_zero_readsBack h hw rest]
    rfl
  | data | acknowledgement =>
    cases hw
    simp [FrameContent.tryRead, ← hty, FrameContent.frameType]
  | command c =>
    simp only [FrameContent.tryRead, ← hty, FrameContent.frameType]
    rw [readWith_zero_readsBack h hw rest]
    rfl

/-- A bounded reader run at an offset does not panic. -/
theorem readWith_ne_panic {r : Reader α} (hr : r.Bounded) (bytes : List UInt8) (offset : Nat)
    (msg : String) : readWith bytes offset r ≠ .panic msg := by
  unfold readWith
  split
  · simp
  · cases h : r (bytes.drop offset) with
    | ok p => simp
    | err e => simp
    | panic m => exact absurd h ((hr _).1 m)

/-- A bounded reader run at an offset stops inside the buffer. -/
theorem readWith_le {r : Reader α} (hr : r.Bounded) {bytes : List UInt8} {offset o : Nat} {x : α}
    (h : readWith bytes offset r = .ok (x, o)) : o ≤ bytes.length := by
  obtain ⟨ho, size, hs, rfl⟩ := readWith_eq_ok.mp h
  have := (hr _).2 _ _ hs
  simp only [List.length_drop] at this
  omega

/-- A bounded reader run at offset 0, its value wrapped by `f`, is bounded. -/
theorem readWith_zero_bounded {β : Type} {r : Reader α} (hr : r.Bounded) (f : α → β) :
    Reader.Bounded (fun bs => (do
      let (a, offset) ← readWith bs 0 r
      pure (f a, offset) : Outcome Error (β × Nat))) := by
  intro bs
  cases h : readWith bs 0 r with
  | ok p =>
    obtain ⟨a, o⟩ := p
    simp [h, readWith_le hr h]
  | err e => simp [h]
  | panic m => exact absurd h (readWith_ne_panic hr _ _ _)

theorem Reader.Bounded.within {r : Reader α} (h : r.Bounded) : r.Within := fun bs => (h bs).2

/-- A reader that stays inside its slice, run at an offset, stops inside the buffer. -/
theorem readWith_le_of_within {r : Reader α} (hr : r.Within) {bytes : List UInt8}
    {offset o : Nat} {x : α} (h : readWith bytes offset r = .ok (x, o)) : o ≤ bytes.length := by
  obtain ⟨ho, size, hs, rfl⟩ := readWith_eq_ok.mp h
  have := hr _ _ _ hs
  simp only [List.length_drop] at this
  omega

/-- The content reader stays inside its slice when the body readers do. -/
theorem FrameContent.tryRead_within (hb : cs.beacon.tryRead.Within)
    (hc : cs.command.tryRead.Within) (header : Header) :
    (FrameContent.tryRead cs header).Within := by
  intro bs content c h
  unfold FrameContent.tryRead at h
  split at h
  · obtain ⟨⟨b, o⟩, hr, hp⟩ := Outcome.bind_eq_ok.mp h
    cases hp
    simpa using readWith_le_of_within hb hr
  · cases h
    exact Nat.zero_le _
  · cases h
    exact Nat.zero_le _
  · obtain ⟨⟨x, o⟩, hr, hp⟩ := Outcome.bind_eq_ok.mp h
    cases hp
    simpa using readWith_le_of_within hc hr

/-- The content reader is bounded when the body readers are. -/
theorem FrameContent.tryRead_bounded (hb : cs.beacon.tryRead.Bounded)
    (hc : cs.command.tryRead.Bounded) (header : Header) :
    (FrameContent.tryRead cs header).Bounded := by
  intro bs
  unfold FrameContent.tryRead
  split
  · exact readWith_zero_bounded hb FrameContent.beacon bs
  · simp
  · simp
  · exact readWith_zero_bounded hc FrameContent.command bs

end Content

end Ieee802154
