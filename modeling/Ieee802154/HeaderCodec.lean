import Ieee802154.FrameCodec

/-!
# The header codec, modelled from the spec

`Header::try_read` and `Header::try_write` belong to `mac::frame::header`, which is not among
the sources. This file models them from the spec (§4.1, §4.2, §6), so that the frame-level
theorems have a concrete `Codec Header` to be used at, and so that it is known which headers
satisfy the laws those theorems assume.

Where the spec leaves a choice open the model follows the tests of `mac/frame/mod.rs` and the
spec's own vectors (§8):

* the frame control word has three reserved bits, 7 to 9, as in the test vectors, so that
  the destination mode, version and source mode sit at bits 10, 12 and 14;
* address modes are checked before the frame type and the version, so that a reserved mode
  is reported whatever the other fields hold;
* a source address under PAN ID compression with no destination address is rejected with
  `InvalidAddressMode(0)` (`decode_ver0_pan_id_compression_bad`);
* a 2015 frame suppresses its frame counter by bit 5 of the security control byte.

The decoder is a chain of `Reader.andThen`: each field is read from where the one before
stopped, the way `bytes.read(offset)` calls follow each other. The round trip
(`Header.tryRead_decodes`) then goes field by field through `Decodes.andThen`, and the header
reader is `Bounded` (it never panics and stays inside its slice) by the same composition.
`specCodecs` pairs this header codec with empty beacon and command bodies, for running the
frame codec on concrete buffers.
-/

namespace Ieee802154

variable {α β : Type}

/-! ## Sequencing readers -/

/-- A reader that takes nothing and returns `x`. -/
def Reader.pure (x : α) : Reader α := fun _ => .ok (x, 0)

/-- A reader that fails with `e`. -/
def Reader.fail (e : Error) : Reader α := fun _ => .err e

/-- Read with `r`, then, from where it stopped, with the reader `next` picks for its value. -/
def Reader.andThen (r : Reader α) (next : α → Reader β) : Reader β := fun bytes => do
  let (a, offset) ← readWith bytes 0 r
  readWith bytes offset (next a)

/-- A reader's value, changed by `f`. -/
def Reader.map (r : Reader α) (f : α → β) : Reader β := fun bytes => do
  let (a, offset) ← r bytes
  Outcome.ok (f a, offset)

/-- `n` bytes, little-endian, as a number. -/
def readLE (n : Nat) : Reader Nat := fun bytes => do
  let _ ← checkLen bytes n
  pure (fromLE (bytes.take n), n)

/-- One byte. -/
def readU8 : Reader UInt8
  | b :: _ => .ok (b, 1)
  | [] => .err .incomplete

/-- Exactly `n` bytes. -/
def readExact (n : Nat) : Reader {l : List UInt8 // l.length = n} := fun bytes =>
  if h : n ≤ bytes.length then .ok (⟨bytes.take n, by simp; omega⟩, n) else .err .incomplete

/-- `r` decodes `x` from `enc`, whatever follows, and takes exactly `enc`. -/
def Decodes (r : Reader α) (enc : List UInt8) (x : α) : Prop :=
  ∀ rest, r (enc ++ rest) = .ok (x, enc.length)

theorem decodes_pure (x : α) : Decodes (Reader.pure x) [] x := fun _ => rfl

theorem Decodes.andThen {r : Reader α} {next : α → Reader β} {e₁ e₂ : List UInt8} {a : α} {b : β}
    (h₁ : Decodes r e₁ a) (h₂ : Decodes (next a) e₂ b) :
    Decodes (r.andThen next) (e₁ ++ e₂) b := by
  intro rest
  have hr : readWith (e₁ ++ e₂ ++ rest) 0 r = .ok (a, e₁.length) := by
    rw [readWith_of_le _ (Nat.zero_le _), List.drop_zero, List.append_assoc, h₁]
    simp
  simp only [Reader.andThen, hr, Outcome.ok_bind]
  rw [readWith_of_le _ (by simp), List.append_assoc, List.drop_left, h₂]
  simp

theorem Decodes.map {r : Reader α} {enc : List UInt8} {a : α} {f : α → β} {b : β}
    (h : Decodes r enc a) (hf : f a = b) : Decodes (r.map f) enc b := by
  intro rest
  simp [Reader.map, h rest, hf]

theorem decodes_readLE (n v : Nat) (h : v < 256 ^ n) : Decodes (readLE n) (leBytes n v) v := by
  intro rest
  have hlen : ¬(n + rest.length < n) := by omega
  simp [readLE, hlen, checkLen, List.take_left' (length_leBytes n v), fromLE_leBytes,
    Nat.mod_eq_of_lt h]

theorem decodes_readU8 (b : UInt8) : Decodes readU8 [b] b := fun _ => rfl

theorem decodes_readExact {l : List UInt8} {n : Nat} (h : l.length = n) :
    Decodes (readExact n) l ⟨l, h⟩ := by
  intro rest
  subst h
  simp [readExact]

/-! ## Field values -/

/-- Modelled from the spec: the 3-bit frame type field. -/
def FrameType.bits : FrameType → Nat
  | .beacon => 0
  | .data => 1
  | .acknowledgement => 2
  | .macCommand => 3

/-- Modelled from the spec: the frame types of the field's values; 4 to 7 are invalid. -/
def FrameType.fromBits : Nat → Option FrameType
  | 0 => some .beacon
  | 1 => some .data
  | 2 => some .acknowledgement
  | 3 => some .macCommand
  | _ => none

/-- Modelled from the spec: the 2-bit frame version field. -/
def FrameVersion.bits : FrameVersion → Nat
  | .ieee802154_2003 => 0
  | .ieee802154_2006 => 1
  | .ieee802154 => 2

/-- Modelled from the spec: the versions of the field's values; 3 is invalid. -/
def FrameVersion.fromBits : Nat → Option FrameVersion
  | 0 => some .ieee802154_2003
  | 1 => some .ieee802154_2006
  | 2 => some .ieee802154
  | _ => none

/-- Modelled from the spec: the 2-bit address mode of an address or its absence; mode 1 is
reserved. -/
def addressMode : Option Address → Nat
  | none => 0
  | some (.short _ _) => 2
  | some (.extended _ _) => 3

/-- Modelled from the spec: the 3-bit security level field. -/
def SecurityLevel.bits : SecurityLevel → Nat
  | .none => 0
  | .mic32 => 1
  | .mic64 => 2
  | .mic128 => 3
  | .enc => 4
  | .encMic32 => 5
  | .encMic64 => 6
  | .encMic128 => 7

/-- Modelled from the spec: the security level of a control byte's low three bits; all
eight values are levels. -/
def SecurityLevel.fromBits (v : Nat) : SecurityLevel :=
  match v % 8 with
  | 0 => .none
  | 1 => .mic32
  | 2 => .mic64
  | 3 => .mic128
  | 4 => .enc
  | 5 => .encMic32
  | 6 => .encMic64
  | _ => .encMic128

/-- Modelled from the spec: the 2-bit key identifier mode field. -/
def KeyIdentifierMode.bits : KeyIdentifierMode → Nat
  | .none => 0
  | .keyIndex => 1
  | .keySource4 => 2
  | .keySource8 => 3

/-- Modelled from the spec: the key identifier mode of a field's two bits; all four values
are modes. -/
def KeyIdentifierMode.fromBits (v : Nat) : KeyIdentifierMode :=
  match v % 4 with
  | 0 => .none
  | 1 => .keyIndex
  | 2 => .keySource4
  | _ => .keySource8

@[simp] theorem FrameType.fromBits_bits (t : FrameType) : FrameType.fromBits t.bits = some t := by
  cases t <;> rfl

@[simp] theorem FrameVersion.fromBits_bits (v : FrameVersion) :
    FrameVersion.fromBits v.bits = some v := by
  cases v <;> rfl

@[simp] theorem SecurityLevel.fromBits_bits (l : SecurityLevel) (k : Nat) :
    SecurityLevel.fromBits (l.bits + 8 * k) = l := by
  cases l <;> simp [fromBits, bits, Nat.add_mul_mod_self_left]

@[simp] theorem KeyIdentifierMode.fromBits_bits (m : KeyIdentifierMode) (k : Nat) :
    KeyIdentifierMode.fromBits (m.bits + 4 * k) = m := by
  cases m <;> simp [fromBits, bits, Nat.add_mul_mod_self_left]

theorem FrameType.bits_lt (t : FrameType) : t.bits < 8 := by cases t <;> decide
theorem FrameVersion.bits_lt (v : FrameVersion) : v.bits < 3 := by cases v <;> decide
theorem SecurityLevel.bits_lt (l : SecurityLevel) : l.bits < 8 := by cases l <;> decide
theorem KeyIdentifierMode.bits_lt (m : KeyIdentifierMode) : m.bits < 4 := by cases m <;> decide

theorem addressMode_cases (a : Option Address) :
    addressMode a = 0 ∨ addressMode a = 2 ∨ addressMode a = 3 := by
  rcases a with _ | _ | _ <;> simp [addressMode]

/-! ## Encoding -/

/-- Modelled from the spec: the frame control word, written little-endian. -/
def Header.frameControl (h : Header) : Nat :=
  h.frameType.bits + 8 * h.security.toNat + 16 * h.framePending.toNat + 32 * h.ackRequest.toNat
    + 64 * h.panIdCompress.toNat + 1024 * addressMode h.destination + 4096 * h.version.bits
    + 16384 * addressMode h.source

/-- Modelled from the spec: an address on the wire, its PAN identifier first unless it is
left out, then the short or the extended address, all little-endian. -/
def Address.encode (withPan : Bool) (a : Address) : List UInt8 :=
  (if withPan then leBytes 2 a.panId.val.toNat else []) ++
    match a with
    | .short _ s => leBytes 2 s.val.toNat
    | .extended _ e => leBytes 8 e.val.toNat

/-- Modelled from the spec: an address that may be absent; an absent one takes no bytes. -/
def Address.encodeOpt (withPan : Bool) : Option Address → List UInt8
  | none => []
  | some a => a.encode withPan

/-- Modelled from the spec: the security control byte: the level in bits 0 to 2, the key
identifier mode in bits 3 and 4, and in bit 5 whether the frame counter is left out. -/
def AuxiliarySecurityHeader.controlByte (aux : AuxiliarySecurityHeader) : Nat :=
  aux.control.securityLevel.bits + 8 * aux.control.keyIdMode.bits
    + 32 * aux.frameCounter.isNone.toNat

/-- Modelled from the spec: the auxiliary security header on the wire: control byte, frame
counter if present, key identifier. -/
def AuxiliarySecurityHeader.encode (aux : AuxiliarySecurityHeader) : List UInt8 :=
  UInt8.ofNat aux.controlByte ::
    ((match aux.frameCounter with
      | some c => leBytes 4 c.toNat
      | none => []) ++ aux.keyIdentifier)

/-- Modelled from the spec: the source PAN identifier is left out when PAN ID compression is
set and both addresses are present. -/
def Header.sourcePanOmitted (h : Header) : Bool := h.panIdCompress && h.destination.isSome

/-- Modelled from the spec: the header on the wire. -/
def Header.encode (h : Header) : List UInt8 :=
  leBytes 2 h.frameControl ++ [h.seq] ++ Address.encodeOpt true h.destination
    ++ Address.encodeOpt (!h.sourcePanOmitted) h.source
    ++ (match h.auxiliarySecurityHeader with
      | some aux => aux.encode
      | none => [])

/-- Modelled from the spec: `Header::try_write`. A header whose `security` flag disagrees
with the presence of its auxiliary security header is refused (`AuxSecHeaderAbsent`,
`SecurityNotEnabled`); any other is written whole, or not at all when it does not fit. -/
def Header.tryWrite (h : Header) : Writer := fun bytes =>
  match h.security, h.auxiliarySecurityHeader with
  | true, none => .error DecodeError.auxSecHeaderAbsent.into bytes
  | false, some _ => .error DecodeError.securityNotEnabled.into bytes
  | _, _ => writeSlice h.encode bytes

/-! ## Decoding -/

/-- Modelled from the spec: a PAN identifier. -/
def readPanId : Reader PanId := (readLE 2).map fun v => ⟨UInt16.ofNat v⟩

/-- Modelled from the spec: the PAN identifier of an address, read unless it is given. -/
def readPan : Option PanId → Reader PanId
  | some p => Reader.pure p
  | none => readPanId

/-- Modelled from the spec: an address of mode 2 (short) or 3 (extended), after its PAN
identifier. -/
def readAddress (mode : Nat) (pan : Option PanId) : Reader Address :=
  (readPan pan).andThen fun pan =>
  if mode = 2 then (readLE 2).map fun v => .short pan ⟨UInt16.ofNat v⟩
  else (readLE 8).map fun v => .extended pan ⟨UInt64.ofNat v⟩

/-- Modelled from the spec: the destination address of an address mode. -/
def readDestination (mode : Nat) : Reader (Option Address) :=
  if mode = 0 then Reader.pure none else (readAddress mode none).map some

/-- Modelled from the spec: the source address of an address mode; under PAN ID compression
its PAN identifier is the destination's, and there must be a destination. -/
def readSource (mode : Nat) (panIdCompress : Bool) (destination : Option Address) :
    Reader (Option Address) :=
  if mode = 0 then Reader.pure none
  else if panIdCompress then
    match destination with
    | some d => (readAddress mode (some d.panId)).map some
    | none => Reader.fail (DecodeError.invalidAddressMode 0).into
  else (readAddress mode none).map some

/-- Modelled from the spec: the security control byte: the security level, the key
identifier mode, and whether bit 5 is set. -/
def readSecurityControl : Reader (SecurityControl × Bool) :=
  readU8.map fun ctl =>
    (⟨SecurityLevel.fromBits ctl.toNat, KeyIdentifierMode.fromBits (ctl.toNat / 8)⟩,
      decide (ctl.toNat / 32 % 2 = 1))

/-- Modelled from the spec: the auxiliary security header of a frame of a version; a 2015
frame with bit 5 set has no frame counter. -/
def AuxiliarySecurityHeader.tryRead (version : FrameVersion) : Reader AuxiliarySecurityHeader :=
  readSecurityControl.andThen fun (control, suppressed) =>
  (if version = .ieee802154 ∧ suppressed then Reader.pure none
    else (readLE 4).map fun v => some (UInt32.ofNat v)).andThen fun frameCounter =>
  (readExact control.keyIdMode.octets).map fun keyId =>
    ⟨control, frameCounter, keyId.1, keyId.2⟩

/-- Modelled from the spec: the auxiliary security header, read when the security bit is
set. -/
def readAuxiliarySecurityHeader (security : Bool) (version : FrameVersion) :
    Reader (Option AuxiliarySecurityHeader) :=
  if security then (AuxiliarySecurityHeader.tryRead version).map some else Reader.pure none

/-- Modelled from the spec: the header fields that follow a frame control word `fc`, checked
in the order the spec gives: address modes, frame type, version. -/
def Header.readFields (fc : Nat) : Reader Header :=
  if fc / 1024 % 4 = 1 ∨ fc / 16384 % 4 = 1 then
    Reader.fail (DecodeError.invalidAddressMode 1).into
  else
    match FrameType.fromBits (fc % 8), FrameVersion.fromBits (fc / 4096 % 4) with
    | none, _ => Reader.fail (DecodeError.invalidFrameType (UInt8.ofNat (fc % 8))).into
    | some _, none =>
      Reader.fail (DecodeError.invalidFrameVersion (UInt8.ofNat (fc / 4096 % 4))).into
    | some frameType, some version =>
      readU8.andThen fun seq =>
      (readDestination (fc / 1024 % 4)).andThen fun destination =>
      (readSource (fc / 16384 % 4) (decide (fc / 64 % 2 = 1)) destination).andThen fun source =>
      (readAuxiliarySecurityHeader (decide (fc / 8 % 2 = 1)) version).andThen fun aux =>
      Reader.pure ⟨frameType, decide (fc / 8 % 2 = 1), decide (fc / 16 % 2 = 1),
        decide (fc / 32 % 2 = 1), decide (fc / 64 % 2 = 1), version, seq, destination, source, aux⟩

/-- Modelled from the spec: `Header::try_read`. -/
def Header.tryRead : Reader Header := (readLE 2).andThen Header.readFields

/-- Modelled from the spec: the header codec. -/
def Header.codec : Codec Header := ⟨Header.tryRead, Header.tryWrite⟩

/-! ## The round trip -/

theorem UInt16.ofNat_toNat (v : UInt16) : UInt16.ofNat v.toNat = v :=
  UInt16.toNat.inj (UInt16.toNat_ofNat_of_lt v.toNat_lt_size)

theorem UInt32.ofNat_toNat (v : UInt32) : UInt32.ofNat v.toNat = v :=
  UInt32.toNat.inj (UInt32.toNat_ofNat_of_lt v.toNat_lt_size)

theorem UInt64.ofNat_toNat (v : UInt64) : UInt64.ofNat v.toNat = v :=
  UInt64.toNat.inj (UInt64.toNat_ofNat_of_lt v.toNat_lt_size)

@[simp] theorem decide_toNat_eq_one (b : Bool) : decide (b.toNat = 1) = b := by cases b <;> rfl

theorem addressMode_ne_one (a : Option Address) : addressMode a ≠ 1 := by
  rcases addressMode_cases a with h | h | h <;> omega

/-- Modelled from the spec: the headers the codec is meant for. The `security` flag says
whether there is an auxiliary security header; a source address under PAN ID compression
has a destination with the same PAN identifier; only a 2015 frame suppresses its frame
counter. -/
structure Header.WellFormed (h : Header) : Prop where
  security_eq : h.security = h.auxiliarySecurityHeader.isSome
  sourcePan : ∀ s ∈ h.source, h.panIdCompress → ∃ d ∈ h.destination, d.panId = s.panId
  frameCounter : ∀ aux ∈ h.auxiliarySecurityHeader, aux.frameCounter = none →
    h.version = .ieee802154

/-- A digit and the digits above it, at base `b`. -/
theorem add_mul_div_mod {a b x : Nat} (ha : a < b) : (a + b * x) / b = x ∧ (a + b * x) % b = a :=
  ⟨by rw [Nat.add_mul_div_left _ _ (by omega), Nat.div_eq_of_lt ha, Nat.zero_add],
    by rw [Nat.add_mul_mod_self_left, Nat.mod_eq_of_lt ha]⟩

/-- Each field sits in its own bits of the frame control word. The word is read as mixed-radix
digits, low field first, with the three reserved bits as a zero digit of base 8. -/
theorem Header.frameControl_fields (h : Header) :
    h.frameControl % 8 = h.frameType.bits ∧ h.frameControl / 8 % 2 = h.security.toNat ∧
    h.frameControl / 16 % 2 = h.framePending.toNat ∧ h.frameControl / 32 % 2 = h.ackRequest.toNat ∧
    h.frameControl / 64 % 2 = h.panIdCompress.toNat ∧
    h.frameControl / 1024 % 4 = addressMode h.destination ∧
    h.frameControl / 4096 % 4 = h.version.bits ∧ h.frameControl / 16384 % 4 = addressMode h.source ∧
    h.frameControl < 256 ^ 2 := by
  have ht := h.frameType.bits_lt
  have hv : h.version.bits < 4 := by have := h.version.bits_lt; omega
  have hd : addressMode h.destination < 4 := by have := addressMode_cases h.destination; omega
  have hs : addressMode h.source < 4 := by have := addressMode_cases h.source; omega
  have hlt : h.frameControl < 256 ^ 2 := by
    have := h.security.toNat_le
    have := h.framePending.toNat_le
    have := h.ackRequest.toNat_le
    have := h.panIdCompress.toNat_le
    unfold Header.frameControl; omega
  have e : h.frameControl = h.frameType.bits + 8 * (h.security.toNat + 2 * (h.framePending.toNat
      + 2 * (h.ackRequest.toNat + 2 * (h.panIdCompress.toNat + 2 * (0 + 8 *
        (addressMode h.destination + 4 * (h.version.bits + 4 * addressMode h.source))))))) := by
    unfold Header.frameControl; omega
  rw [show 16384 = 8 * 2 * 2 * 2 * 2 * 8 * 4 * 4 from rfl, show 4096 = 8 * 2 * 2 * 2 * 2 * 8 * 4 from rfl,
    show 1024 = 8 * 2 * 2 * 2 * 2 * 8 from rfl, show 64 = 8 * 2 * 2 * 2 from rfl,
    show 32 = 8 * 2 * 2 from rfl, show 16 = 8 * 2 from rfl]
  simp only [← Nat.div_div_eq_div_mul, e, add_mul_div_mod ht, add_mul_div_mod h.security.toNat_lt,
    add_mul_div_mod h.framePending.toNat_lt, add_mul_div_mod h.ackRequest.toNat_lt,
    add_mul_div_mod h.panIdCompress.toNat_lt, add_mul_div_mod (show 0 < 8 by decide),
    add_mul_div_mod hd, add_mul_div_mod hv, Nat.mod_eq_of_lt hs, true_and]
  rw [← e]
  exact hlt

/-- Each field sits in its own bits of the security control byte. -/
theorem AuxiliarySecurityHeader.controlByte_fields (aux : AuxiliarySecurityHeader) :
    SecurityLevel.fromBits aux.controlByte = aux.control.securityLevel ∧
    KeyIdentifierMode.fromBits (aux.controlByte / 8) = aux.control.keyIdMode ∧
    aux.controlByte / 32 % 2 = aux.frameCounter.isNone.toNat ∧ aux.controlByte < 256 := by
  have := aux.control.securityLevel.bits_lt
  have := aux.control.keyIdMode.bits_lt
  have := aux.frameCounter.isNone.toNat_le
  have hctl : aux.controlByte = aux.control.securityLevel.bits
      + 8 * (aux.control.keyIdMode.bits + 4 * aux.frameCounter.isNone.toNat) := by
    unfold controlByte; omega
  have hdiv : aux.controlByte / 8 = aux.control.keyIdMode.bits + 4 * aux.frameCounter.isNone.toNat := by
    omega
  refine ⟨by rw [hctl, SecurityLevel.fromBits_bits], by rw [hdiv, KeyIdentifierMode.fromBits_bits], ?_, ?_⟩
    <;> omega

theorem readPanId_decodes (p : PanId) : Decodes readPanId (leBytes 2 p.val.toNat) p :=
  (decodes_readLE 2 _ p.val.toNat_lt_size).map (by simp [UInt16.ofNat_toNat])

/-- The address reader decodes an address's encoding; the PAN identifier is read when it
was written and given when it was left out. -/
theorem readAddress_decodes (a : Address) (withPan : Bool) :
    Decodes (readAddress (addressMode (some a)) (if withPan then none else some a.panId))
      (a.encode withPan) a := by
  have hpan : Decodes (readPan (if withPan then none else some a.panId))
      (if withPan then leBytes 2 a.panId.val.toNat else []) a.panId := by
    cases withPan
    · exact decodes_pure _
    · exact readPanId_decodes _
  cases a with
  | short p s =>
    refine hpan.andThen ?_
    simp only [addressMode, if_true]
    exact (decodes_readLE 2 _ s.val.toNat_lt_size).map (by simp [UInt16.ofNat_toNat, Address.panId])
  | extended p e =>
    refine hpan.andThen ?_
    simp only [addressMode, if_neg (by decide : (3 : Nat) ≠ 2)]
    exact (decodes_readLE 8 _ e.val.toNat_lt_size).map (by simp [UInt64.ofNat_toNat, Address.panId])

theorem readDestination_decodes (d : Option Address) :
    Decodes (readDestination (addressMode d)) (Address.encodeOpt true d) d := by
  cases d with
  | none => exact decodes_pure none
  | some a =>
    have h : addressMode (some a) ≠ 0 := by cases a <;> simp [addressMode]
    simp only [readDestination, if_neg h, Address.encodeOpt]
    exact (readAddress_decodes a true).map rfl

theorem readSource_decodes (s d : Option Address) (compress : Bool)
    (hs : ∀ a ∈ s, compress → ∃ b ∈ d, b.panId = a.panId) :
    Decodes (readSource (addressMode s) compress d)
      (Address.encodeOpt (!(compress && d.isSome)) s) s := by
  cases s with
  | none => exact decodes_pure none
  | some a =>
    have h : addressMode (some a) ≠ 0 := by cases a <;> simp [addressMode]
    simp only [readSource, if_neg h, Address.encodeOpt]
    cases compress with
    | false => exact (readAddress_decodes a true).map rfl
    | true =>
      obtain ⟨b, hb, hpan⟩ := hs a rfl rfl
      rw [Option.mem_def] at hb
      subst hb
      simpa [hpan] using (readAddress_decodes a false).map (f := some) rfl

theorem readSecurityControl_decodes (aux : AuxiliarySecurityHeader) :
    Decodes readSecurityControl [UInt8.ofNat aux.controlByte]
      (aux.control, aux.frameCounter.isNone) := by
  obtain ⟨hlevel, hmode, hsupp, hlt⟩ := aux.controlByte_fields
  exact (decodes_readU8 _).map
    (by simp only [UInt8.toNat_ofNat, Nat.mod_eq_of_lt hlt, hlevel, hmode, hsupp, decide_toNat_eq_one])

theorem AuxiliarySecurityHeader.tryRead_decodes (aux : AuxiliarySecurityHeader)
    (version : FrameVersion) (hv : aux.frameCounter = none → version = .ieee802154) :
    Decodes (AuxiliarySecurityHeader.tryRead version) aux.encode aux := by
  refine (readSecurityControl_decodes aux).andThen ?_
  obtain ⟨control, frameCounter, keyId, hkey⟩ := aux
  cases frameCounter with
  | none =>
    simp only [Option.isNone_none, hv rfl, and_self, if_true]
    exact (decodes_pure none).andThen ((decodes_readExact hkey).map rfl)
  | some c =>
    simp only [Option.isNone_some, Bool.false_eq_true, and_false, if_false]
    exact ((decodes_readLE 4 _ c.toNat_lt_size).map (by simp [UInt32.ofNat_toNat])).andThen
      ((decodes_readExact hkey).map rfl)

theorem readAuxiliarySecurityHeader_decodes (h : Header) (hw : h.WellFormed) :
    Decodes (readAuxiliarySecurityHeader h.security h.version)
      (match h.auxiliarySecurityHeader with
        | some aux => aux.encode
        | none => []) h.auxiliarySecurityHeader := by
  rw [hw.security_eq]
  cases haux : h.auxiliarySecurityHeader with
  | none => exact decodes_pure none
  | some aux =>
    exact (aux.tryRead_decodes h.version (hw.frameCounter aux haux)).map rfl

/-- After the frame control word, the field readers decode the rest of a well-formed
header's encoding: sequence number, addresses, auxiliary security header. -/
theorem Header.readFields_decodes (h : Header) (hw : h.WellFormed) :
    Decodes (Header.readFields h.frameControl)
      ([h.seq] ++ (Address.encodeOpt true h.destination ++
        (Address.encodeOpt (!h.sourcePanOmitted) h.source ++
          ((match h.auxiliarySecurityHeader with
            | some aux => aux.encode
            | none => []) ++ [])))) h := by
  obtain ⟨htype, hsec, hpend, hack, hcomp, hdst, hver, hsrc, -⟩ := h.frameControl_fields
  have hmode : ¬(addressMode h.destination = 1 ∨ addressMode h.source = 1) := by
    simp [addressMode_ne_one]
  simp only [Header.readFields, htype, hsec, hpend, hack, hcomp, hdst, hver, hsrc, if_neg hmode,
    FrameType.fromBits_bits, FrameVersion.fromBits_bits, decide_toNat_eq_one]
  exact (decodes_readU8 _).andThen ((readDestination_decodes _).andThen
    ((readSource_decodes _ _ _ hw.sourcePan).andThen
      ((readAuxiliarySecurityHeader_decodes h hw).andThen (decodes_pure _))))

/-- The header reader decodes a well-formed header's encoding, whatever follows it, and
takes exactly the encoding. -/
theorem Header.tryRead_decodes (h : Header) (hw : h.WellFormed) :
    Decodes Header.tryRead h.encode h := by
  have := (decodes_readLE 2 _ h.frameControl_fields.2.2.2.2.2.2.2.2).andThen
    (h.readFields_decodes hw)
  simpa only [Header.encode, List.append_assoc, List.append_nil] using this

/-- The spec's decoding vector: a 2003 data frame with short addresses under PAN ID
compression. -/
example : Header.tryRead [0x41, 0x88, 0x91, 0x8f, 0x20, 0xff, 0xff, 0x33, 0x44, 0x00, 0x00] =
    .ok (⟨.data, false, false, false, true, .ieee802154_2003, 0x91,
      some (.short ⟨0x208f⟩ ⟨0xffff⟩), some (.short ⟨0x208f⟩ ⟨0x4433⟩), none⟩, 9) := by
  decide

/-- The spec's encoding vector: an acknowledgement with an extended destination and a short
source sharing its PAN identifier. -/
example : Header.encode ⟨.acknowledgement, false, false, false, true, .ieee802154_2003, 0xff,
      some (.extended ⟨0x1234⟩ ⟨0x1122334455667788⟩), some (.short ⟨0x1234⟩ ⟨0x9abc⟩), none⟩ =
    [0x42, 0x8c, 0xff, 0x34, 0x12, 0x88, 0x77, 0x66, 0x55, 0x44, 0x33, 0x22, 0x11, 0xbc, 0x9a] := by
  decide

/-- A header whose `security` flag agrees with its auxiliary security header is written as a
slice. -/
theorem Header.tryWrite_eq (h : Header) (hs : h.security = h.auxiliarySecurityHeader.isSome) :
    h.tryWrite = writeSlice h.encode := by
  funext bytes
  unfold Header.tryWrite
  split <;> simp_all

theorem writeSlice_readsBack {r : Reader α} {enc : List UInt8} {x : α} (h : Decodes r enc x) :
    ReadsBack (writeSlice enc) r x := by
  intro buf n buf' hw rest
  by_cases hlt : buf.length < enc.length
  · rw [writeSlice_of_lt hlt] at hw
    cases hw
  · rw [writeSlice_of_le (by omega)] at hw
    cases hw
    simpa using h rest

/-- A well-formed header meets the laws the frame theorems assume of the header codec: it is
written whole when it fits, refused when it does not, and read back. -/
theorem Header.codec_laws (h : Header) (hw : h.WellFormed) :
    WritesInto (Header.codec.tryWrite h) h.encode ∧ FailsShort (Header.codec.tryWrite h) h.encode ∧
      ReadsBack (Header.codec.tryWrite h) Header.codec.tryRead h := by
  simp only [Header.codec, h.tryWrite_eq hw.security_eq]
  exact ⟨writeSlice_writesInto _, writeSlice_failsShort _, writeSlice_readsBack (h.tryRead_decodes hw)⟩

/-- The header writer writes back what the header reader decodes from a well-formed
header's encoding, whatever follows it. -/
theorem Header.writesBack (h : Header) (hw : h.WellFormed) (rest : List UInt8) :
    WritesBack Header.codec.tryRead Header.codec.tryWrite (h.encode ++ rest) := by
  intro x k hx
  rw [show Header.codec.tryRead = Header.tryRead from rfl, h.tryRead_decodes hw rest] at hx
  cases hx
  simpa using (h.codec_laws hw).1

/-! ## The header reader stays inside its slice -/

theorem Reader.bounded_pure (x : α) : (Reader.pure x).Bounded :=
  fun _ => ⟨by simp [Reader.pure], by simp [Reader.pure]⟩

theorem Reader.bounded_fail (e : Error) : (Reader.fail e : Reader α).Bounded :=
  fun _ => ⟨by simp [Reader.fail], by simp [Reader.fail]⟩

theorem Reader.Bounded.andThen {r : Reader α} {next : α → Reader β} (h₁ : r.Bounded)
    (h₂ : ∀ a, (next a).Bounded) : (r.andThen next).Bounded := by
  intro bs
  unfold Reader.andThen
  cases hr : readWith bs 0 r with
  | ok p =>
    obtain ⟨a, o⟩ := p
    cases hn : readWith bs o (next a) with
    | ok q =>
      obtain ⟨b, o'⟩ := q
      simp [hr, hn, readWith_le (h₂ a) hn]
    | err e => simp [hr, hn]
    | panic m => exact absurd hn (readWith_ne_panic (h₂ a) _ _ _)
  | err e => simp [hr]
  | panic m => exact absurd hr (readWith_ne_panic h₁ _ _ _)

theorem Reader.Bounded.map {r : Reader α} (h : r.Bounded) (f : α → β) : (r.map f).Bounded := by
  intro bs
  unfold Reader.map
  cases hr : r bs with
  | ok p =>
    obtain ⟨a, k⟩ := p
    simp [hr, (h bs).2 a k hr]
  | err e => simp [hr]
  | panic m => exact absurd hr ((h bs).1 m)

theorem readLE_bounded (n : Nat) : (readLE n).Bounded := by
  intro bs
  by_cases hl : bs.length < n <;> simp [readLE, checkLen, hl]
  omega

theorem readU8_bounded : readU8.Bounded := by
  intro bs
  cases bs <;> simp [readU8]

theorem readExact_bounded (n : Nat) : (readExact n).Bounded := by
  intro bs
  unfold readExact
  split <;> simp_all

theorem readAddress_bounded (mode : Nat) (pan : Option PanId) : (readAddress mode pan).Bounded := by
  have hpan : (readPan pan).Bounded := by
    cases pan
    · exact (readLE_bounded 2).map (PanId.mk ∘ UInt16.ofNat)
    · exact Reader.bounded_pure _
  refine hpan.andThen fun _ => ?_
  split
  · exact (readLE_bounded 2).map _
  · exact (readLE_bounded 8).map _

theorem readDestination_bounded (mode : Nat) : (readDestination mode).Bounded := by
  unfold readDestination
  split
  · exact Reader.bounded_pure _
  · exact (readAddress_bounded _ _).map _

theorem readSource_bounded (mode : Nat) (compress : Bool) (d : Option Address) :
    (readSource mode compress d).Bounded := by
  unfold readSource
  split
  · exact Reader.bounded_pure _
  split
  · split
    · exact (readAddress_bounded _ _).map _
    · exact Reader.bounded_fail _
  · exact (readAddress_bounded _ _).map _

theorem AuxiliarySecurityHeader.tryRead_bounded (version : FrameVersion) :
    (AuxiliarySecurityHeader.tryRead version).Bounded := by
  refine (readU8_bounded.map _).andThen fun _ => Reader.Bounded.andThen ?_ fun _ =>
    (readExact_bounded _).map _
  split
  · exact Reader.bounded_pure _
  · exact (readLE_bounded 4).map _

/-- The header reader never panics and never reports more bytes than it was given. -/
theorem Header.tryRead_bounded : Header.tryRead.Bounded := by
  refine (readLE_bounded 2).andThen fun fc => ?_
  unfold Header.readFields
  split
  · exact Reader.bounded_fail _
  split
  · exact Reader.bounded_fail _
  · exact Reader.bounded_fail _
  refine readU8_bounded.andThen fun _ => (readDestination_bounded _).andThen fun _ =>
    (readSource_bounded _ _ _).andThen fun _ => Reader.Bounded.andThen ?_ fun _ =>
      Reader.bounded_pure _
  unfold readAuxiliarySecurityHeader
  split
  · exact (AuxiliarySecurityHeader.tryRead_bounded _).map _
  · exact Reader.bounded_pure _

/-! ## Frame codecs with the spec's header codec -/

/-- A body codec whose bodies take no bytes, for the beacon and command bodies that the spec
leaves out of scope. -/
def Codec.unit : Codec Unit := ⟨Reader.pure (), fun _ => writeSlice []⟩

/-- The frame codecs with the spec's header codec and empty beacon and command bodies. -/
def specCodecs : Codecs Unit Unit := ⟨Header.codec, Codec.unit, Codec.unit⟩

theorem Codec.unit_writesBack (bytes : List UInt8) :
    WritesBack Codec.unit.tryRead Codec.unit.tryWrite bytes := by
  intro _ k h
  simp only [Codec.unit, Reader.pure, Outcome.ok.injEq, Prod.mk.injEq] at h
  obtain ⟨-, rfl⟩ := h
  exact writeSlice_writesInto []

end Ieee802154
