import Ieee802154.FrameWrite

/-!
# `Frame::secure_frame`

The outgoing-frame security procedure as `mac/frame/mod.rs` implements it. It checks that
the `security` flag and the auxiliary security header agree (and panics when they do not),
rejects a frame when `AuthLen + AuxLen + 2` exceeds the 127-byte PHY packet size or when the
frame counter is exhausted, looks the key up, and, for the `MIC*` levels only, builds the
AEAD from the key and runs `encrypt_in_place_detached` over the payload as associated data.

The function takes `&mut self` and `&mut SecurityContext` but assigns to neither: the tag
that encryption returns is bound to a local and dropped, the `ENC*` arms are empty, and the
frame counter is read but never written. The model therefore returns the frame and the
context as it got them (`Secured`), together with the AEAD calls it made, which are the only
effect the call has on the world.

`SecurityContext`, `KeyDescriptorLookup` and the AEAD are declared in
`mac::frame::security` and the `aead` crate, which are not among the sources; they are
modelled from the spec's §3 and §6 and say so.

What one call can do is said once, by `secureFrame_result_cases`: every outcome with the
branch it comes from. The theorems about the result take its cases apart: a call succeeds only
with consistent flags and, when secured, a counter below `0xFFFFFFFF` and a key
(`secureFrame_result_eq_ok`); it panics exactly when the flag and the auxiliary header disagree
(`secureFrame_result_eq_panic`); and it never returns `FrameTooLong`, since the length it
checks is at most 32 bytes (`secureFrame_ne_frameTooLong`). Runs of calls on one context
(`secureRun`) thread the context from call to call as the caller's `&mut` does.
-/

namespace Ieee802154

/-! ## The capabilities -/

/-- Modelled from the spec: `security::KeyAddressMode`; the procedure looks keys up by the
destination address mode. -/
inductive KeyAddressMode where
  | dstAddrMode
deriving DecidableEq, Repr

/-- Modelled from the spec: `KeyDescriptor`, the key bytes a lookup returns. -/
structure KeyDescriptor where
  key : List UInt8
deriving DecidableEq, Repr

/-- Modelled from the spec: the `KeyDescriptorLookup` capability,
`lookup_key(address_mode, key_identifier, destination_address)`. -/
structure KeyDescriptorLookup where
  lookupKey : KeyAddressMode → List UInt8 → Option Address → Option KeyDescriptor

/-- Modelled from the spec: `SecurityContext`, the frame counter and the key store. -/
structure SecurityContext where
  frameCounter : UInt32
  keyProvider : KeyDescriptorLookup

/-- Modelled from the spec: the AEAD primitive as `secure_frame` uses it: `new_from_slice`
builds a cipher from key bytes or fails, and nonces are `NonceSize` bytes long. -/
structure Aead (Cipher : Type) where
  nonceSize : Nat
  newFromSlice : List UInt8 → Option Cipher

/-- One `encrypt_in_place_detached` call: the key the cipher was built from, the nonce, the
associated data and the buffer encrypted in place. -/
structure AeadCall where
  key : List UInt8
  nonce : List UInt8
  associatedData : List UInt8
  buffer : List UInt8
deriving DecidableEq, Repr

/-- Modelled from the spec: `SecurityError`. -/
inductive SecurityError where
  | frameTooLong
  | counterError
  | keyFailure
  | unavailableKey
deriving DecidableEq, Repr

/-! ## The procedure -/

/-- The `match` on the security level in `secure_frame`: the length of the authentication
tag. -/
def SecurityLevel.authLen : SecurityLevel → Nat
  | .none => 0
  | .mic32 => 4
  | .mic64 => 8
  | .mic128 => 16
  | .enc => 0
  | .encMic32 => 4
  | .encMic64 => 8
  | .encMic128 => 16

/-- What a `secure_frame` call returns, the frame and the context as it leaves them, and the
AEAD encryptions it made. -/
structure Secured (B C : Type) where
  result : Outcome SecurityError Unit
  frame : Frame B C
  context : SecurityContext
  calls : List AeadCall

variable {B C Cipher : Type}

/-- `Frame::secure_frame`. -/
def Frame.secureFrame (aead : Aead Cipher) (f : Frame B C) (context : SecurityContext) :
    Secured B C :=
  let done (result : Outcome SecurityError Unit) (calls : List AeadCall) : Secured B C :=
    ⟨result, f, context, calls⟩
  if f.header.security then
    match f.header.auxiliarySecurityHeader with
    | some auxSecHeader =>
      let authLen := auxSecHeader.control.securityLevel.authLen
      let auxLen := auxSecHeader.getOctetSize
      if authLen + auxLen + 2 > 127 then done (.err .frameTooLong) []
      else if context.frameCounter = 0xFFFFFFFF then done (.err .counterError) []
      else
        match context.keyProvider.lookupKey .dstAddrMode auxSecHeader.keyIdentifier
            f.header.destination with
        | some key =>
          match auxSecHeader.control.securityLevel with
          | .mic32 | .mic64 | .mic128 =>
            match aead.newFromSlice key.key with
            | some _ =>
              done (.ok ()) [⟨key.key, List.replicate aead.nonceSize 0, f.payload, []⟩]
            | none => done (.err .keyFailure) []
          | .none | .enc | .encMic32 | .encMic64 | .encMic128 => done (.ok ()) []
        | none => done (.err .unavailableKey) []
    | none => done (.panic "Security on but AuxSecHeader absent") []
  else if f.header.auxiliarySecurityHeader.isSome then
    done (.panic "Security off but AuxSecHeader present") []
  else done (.ok ()) []

/-! ## Inputs for the runs below -/

/-- An AEAD whose cipher every key builds, with 13-byte nonces. -/
def openAead : Aead Unit := ⟨13, fun _ => some ()⟩

/-- A context with frame counter 0 whose key store answers every lookup with one key. -/
def oneKeyContext : SecurityContext := ⟨0, ⟨fun _ _ _ => some ⟨[1, 2, 3, 4]⟩⟩⟩

/-- The header of a 2006 data frame to a short address, secured at `level` with a frame
counter and no key identifier. -/
def securedHeader (level : SecurityLevel) : Header :=
  ⟨.data, true, false, false, false, .ieee802154_2006, 1, some (.short ⟨0x1234⟩ ⟨0x5678⟩), none,
    some ⟨⟨level, .none⟩, some 0, [], rfl⟩⟩

/-- A data frame with that header and `payload`. -/
def securedFrame (level : SecurityLevel) (payload : List UInt8) : Frame Unit Unit :=
  ⟨securedHeader level, .data, payload, ⟨[0, 0], rfl⟩⟩

/-! ## What one call does -/

section Step

variable (aead : Aead Cipher) (f : Frame B C) (context : SecurityContext)

/-- The length check of step 7.2.1 b4 never fires: the tag and the auxiliary security header
take at most 30 bytes. -/
@[simp] theorem lengthCheck_false (aux : AuxiliarySecurityHeader) :
    ¬(aux.control.securityLevel.authLen + aux.getOctetSize + 2 > 127) := by
  have := aux.getOctetSize_le
  have : aux.control.securityLevel.authLen ≤ 16 := by cases aux.control.securityLevel <;> decide
  omega

/-! Each path through `secure_frame`, with the outcome it ends in. -/

/-- With security off, a call panics when an auxiliary security header is present and
succeeds otherwise. -/
theorem secureFrame_result_of_off (hs : f.header.security = false) :
    (f.secureFrame aead context).result =
      if f.header.auxiliarySecurityHeader.isSome then .panic "Security off but AuxSecHeader present"
      else .ok () := by
  simp only [Frame.secureFrame, hs, Bool.false_eq_true, if_false]
  split_ifs <;> rfl

/-- Security on without an auxiliary security header is the other contract violation. -/
theorem secureFrame_result_of_absent (hs : f.header.security = true)
    (ha : f.header.auxiliarySecurityHeader = none) :
    (f.secureFrame aead context).result = .panic "Security on but AuxSecHeader absent" := by
  simp [Frame.secureFrame, hs, ha]

section Secured

variable {aead f context} {aux : AuxiliarySecurityHeader} (hs : f.header.security = true)
  (ha : f.header.auxiliarySecurityHeader = some aux)
include hs ha

/-- An exhausted frame counter is refused before the key is looked up. -/
theorem secureFrame_result_of_exhausted (hc : context.frameCounter = 0xFFFFFFFF) :
    (f.secureFrame aead context).result = .err .counterError := by
  simp [Frame.secureFrame, hs, ha, hc]

/-- A key the provider does not know ends the call with `UnavailableKey`. -/
theorem secureFrame_result_of_unavailable (hc : context.frameCounter ≠ 0xFFFFFFFF)
    (hk : context.keyProvider.lookupKey .dstAddrMode aux.keyIdentifier f.header.destination = none) :
    (f.secureFrame aead context).result = .err .unavailableKey := by
  simp [Frame.secureFrame, hs, ha, hc, hk]

/-- With a key, only the `MIC*` levels build a cipher, and fail when it cannot be built. -/
theorem secureFrame_result_of_key {key : KeyDescriptor} (hc : context.frameCounter ≠ 0xFFFFFFFF)
    (hk : context.keyProvider.lookupKey .dstAddrMode aux.keyIdentifier f.header.destination =
      some key) :
    (aux.control.securityLevel ∈ [.mic32, .mic64, .mic128] ∧ aead.newFromSlice key.key = none ∧
        (f.secureFrame aead context).result = .err .keyFailure) ∨
      ((aux.control.securityLevel ∈ [.mic32, .mic64, .mic128] →
          (aead.newFromSlice key.key).isSome) ∧
        (f.secureFrame aead context).result = .ok ()) := by
  simp only [Frame.secureFrame, hs, ha, hc, hk, lengthCheck_false, if_true, if_false]
  cases aux.control.securityLevel <;> cases aead.newFromSlice key.key <;> simp

end Secured

/-- Every outcome of one call, with the branch of `secure_frame` it comes from: the flag and
the auxiliary security header disagree (a panic), the counter is exhausted, no key is found,
the `MIC*` cipher cannot be built from the key, or the call succeeds. -/
theorem secureFrame_result_cases :
    (f.header.security = false ∧ f.header.auxiliarySecurityHeader = none ∧
      (f.secureFrame aead context).result = .ok ()) ∨
    (f.header.security = false ∧ f.header.auxiliarySecurityHeader.isSome ∧
      (f.secureFrame aead context).result = .panic "Security off but AuxSecHeader present") ∨
    (f.header.security = true ∧ f.header.auxiliarySecurityHeader = none ∧
      (f.secureFrame aead context).result = .panic "Security on but AuxSecHeader absent") ∨
    (f.header.security = true ∧ ∃ aux, f.header.auxiliarySecurityHeader = some aux ∧
      ((context.frameCounter = 0xFFFFFFFF ∧ (f.secureFrame aead context).result = .err .counterError) ∨
        (context.frameCounter ≠ 0xFFFFFFFF ∧
          ((context.keyProvider.lookupKey .dstAddrMode aux.keyIdentifier f.header.destination = none ∧
              (f.secureFrame aead context).result = .err .unavailableKey) ∨
            ∃ key, context.keyProvider.lookupKey .dstAddrMode aux.keyIdentifier
                f.header.destination = some key ∧
              ((aux.control.securityLevel ∈ [.mic32, .mic64, .mic128] ∧
                  aead.newFromSlice key.key = none ∧
                  (f.secureFrame aead context).result = .err .keyFailure) ∨
                ((aux.control.securityLevel ∈ [.mic32, .mic64, .mic128] →
                    (aead.newFromSlice key.key).isSome) ∧
                  (f.secureFrame aead context).result = .ok ())))))) := by
  cases hs : f.header.security with
  | false =>
    rw [secureFrame_result_of_off aead f context hs]
    cases f.header.auxiliarySecurityHeader <;> simp
  | true =>
    cases ha : f.header.auxiliarySecurityHeader with
    | none => exact .inr (.inr (.inl ⟨rfl, rfl, secureFrame_result_of_absent aead f context hs ha⟩))
    | some aux =>
      refine .inr (.inr (.inr ⟨rfl, aux, rfl, ?_⟩))
      by_cases hc : context.frameCounter = 0xFFFFFFFF
      · exact .inl ⟨hc, secureFrame_result_of_exhausted hs ha hc⟩
      refine .inr ⟨hc, ?_⟩
      cases hk : context.keyProvider.lookupKey .dstAddrMode aux.keyIdentifier
          f.header.destination with
      | none => exact .inl ⟨rfl, secureFrame_result_of_unavailable hs ha hc hk⟩
      | some key => exact .inr ⟨key, rfl, secureFrame_result_of_key hs ha hc hk⟩

/-- `secure_frame` never returns `FrameTooLong`, however long the frame: the only length it
checks is that of the tag and the auxiliary security header. -/
theorem secureFrame_ne_frameTooLong : (f.secureFrame aead context).result ≠ .err .frameTooLong := by
  rcases secureFrame_result_cases aead f context with ⟨-, -, hr⟩ | ⟨-, -, hr⟩ | ⟨-, -, hr⟩ |
      ⟨-, -, -, ⟨-, hr⟩ | ⟨-, ⟨-, hr⟩ | ⟨-, -, ⟨-, -, hr⟩ | ⟨-, hr⟩⟩⟩⟩ <;>
    simp [hr]

/-- A `MIC32` frame whose encoding with its footer and tag takes more than 127 bytes is
secured successfully. -/
theorem secureFrame_ok_of_long :
    (∃ n buf', (securedFrame .mic32 (List.replicate 200 0)).tryWrite specCodecs .explicit
        (List.replicate 256 0) = .ok n buf' ∧ 127 < n + SecurityLevel.mic32.authLen) ∧
    ((securedFrame .mic32 (List.replicate 200 0)).secureFrame openAead oneKeyContext).result =
      .ok () := by
  have hh := Header.codec_laws (securedHeader .mic32)
    ⟨rfl, by simp [securedHeader], by simp [securedHeader]⟩
  have hlen : (securedHeader .mic32).encode.length = 12 := rfl
  have hc : (FrameContent.data : FrameContent Unit Unit).WritesInto specCodecs [] := rfl
  refine ⟨⟨_, _, Frame.tryWrite_writesInto specCodecs (securedFrame .mic32 (List.replicate 200 0))
    .explicit hh.1 (FrameContent.writesInto specCodecs hc) _ ?_, ?_⟩, rfl⟩
  all_goals simp only [securedFrame, List.length_append, hlen, List.length_replicate,
    FooterMode.length_footerBytes, FooterMode.footerLen, SecurityLevel.authLen, List.length_nil]
  all_goals decide

/-- A successful call had security off and no auxiliary security header, or security on, an
auxiliary security header, a frame counter below `0xFFFFFFFF` and a key. -/
theorem secureFrame_result_eq_ok (h : (f.secureFrame aead context).result = .ok ()) :
    (f.header.security = false ∧ f.header.auxiliarySecurityHeader = none) ∨
      (f.header.security = true ∧ context.frameCounter ≠ 0xFFFFFFFF ∧
        ∃ aux key, f.header.auxiliarySecurityHeader = some aux ∧
          context.keyProvider.lookupKey .dstAddrMode aux.keyIdentifier f.header.destination =
            some key) := by
  rcases secureFrame_result_cases aead f context with ⟨hs, ha, -⟩ | ⟨-, -, hr⟩ | ⟨-, -, hr⟩ |
      ⟨hs, aux, ha, ⟨-, hr⟩ | ⟨hc, ⟨-, hr⟩ | ⟨key, hk, ⟨-, -, hr⟩ | -⟩⟩⟩
  · exact .inl ⟨hs, ha⟩
  -- the panics and the errors
  any_goals (rw [hr] at h; cases h)
  exact .inr ⟨hs, hc, aux, key, ha, hk⟩

/-- A `MIC32` frame secured on the one-key context. -/
theorem secureFrame_result_eq_ok_mic32 :
    ((securedFrame .mic32 [0xde]).secureFrame openAead oneKeyContext).result = .ok () ∧
      (((securedHeader .mic32).security = false ∧
          (securedHeader .mic32).auxiliarySecurityHeader = none) ∨
        ((securedHeader .mic32).security = true ∧ oneKeyContext.frameCounter ≠ 0xFFFFFFFF ∧
          ∃ aux key, (securedHeader .mic32).auxiliarySecurityHeader = some aux ∧
            oneKeyContext.keyProvider.lookupKey .dstAddrMode aux.keyIdentifier
              (securedHeader .mic32).destination = some key)) :=
  ⟨rfl, secureFrame_result_eq_ok openAead (securedFrame .mic32 [0xde]) oneKeyContext rfl⟩

/-- `secure_frame` panics exactly when the `security` flag and the presence of the auxiliary
security header disagree, with the message that says which way. -/
theorem secureFrame_result_eq_panic (msg : String) :
    (f.secureFrame aead context).result = .panic msg ↔
      (f.header.security = true ∧ f.header.auxiliarySecurityHeader = none ∧
        msg = "Security on but AuxSecHeader absent") ∨
      (f.header.security = false ∧ f.header.auxiliarySecurityHeader.isSome ∧
        msg = "Security off but AuxSecHeader present") := by
  rcases secureFrame_result_cases aead f context with ⟨hs, ha, hr⟩ | ⟨hs, ha, hr⟩ | ⟨hs, ha, hr⟩ |
      ⟨hs, aux, ha, ⟨-, hr⟩ | ⟨-, ⟨-, hr⟩ | ⟨-, -, ⟨-, -, hr⟩ | ⟨-, hr⟩⟩⟩⟩ <;>
    simp [hs, ha, hr] <;> exact eq_comm

/-- An `ENC` frame is secured successfully with no AEAD call: its payload stays in the clear. -/
theorem secureFrame_enc_plaintext :
    ((securedFrame .enc [0xde, 0xf0]).secureFrame openAead oneKeyContext).result = .ok () ∧
      ((securedFrame .enc [0xde, 0xf0]).secureFrame openAead oneKeyContext).frame.payload =
        [0xde, 0xf0] ∧
      ((securedFrame .enc [0xde, 0xf0]).secureFrame openAead oneKeyContext).calls = [] := by
  decide

end Step

/-! ## Runs -/

/-- A run of `secure_frame` calls on one context: each call secures the next frame with the
context the call before left. The run returns every call's outcome and the final context. -/
def secureRun (aead : Aead Cipher) :
    SecurityContext → List (Frame B C) → List (Secured B C) × SecurityContext
  | context, [] => ([], context)
  | context, f :: fs =>
    let s := f.secureFrame aead context
    let rest := secureRun aead s.context fs
    (s :: rest.1, rest.2)

/-- Two `MIC32` frames secured one after the other on a context at frame counter 0: both calls
succeed, and the counter is still 0 after them. -/
theorem secureRun_counter_stuck :
    (secureRun openAead oneKeyContext [securedFrame .mic32 [0xde], securedFrame .mic32 [0xad]]).1.map
        Secured.result = [.ok (), .ok ()] ∧
      (secureRun openAead oneKeyContext
        [securedFrame .mic32 [0xde], securedFrame .mic32 [0xad]]).2.frameCounter = 0 := by
  decide

/-- Two `MIC32` frames secured one after the other on one context: the two AEAD calls use the
same key and the same all-zero nonce. -/
theorem secureRun_nonce_reused :
    (secureRun openAead oneKeyContext [securedFrame .mic32 [0xde], securedFrame .mic32 [0xad]]).1.map
        Secured.calls =
      [[⟨[1, 2, 3, 4], List.replicate 13 0, [0xde], []⟩],
        [⟨[1, 2, 3, 4], List.replicate 13 0, [0xad], []⟩]] := by
  decide

end Ieee802154
