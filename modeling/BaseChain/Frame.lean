/-
The channel frame format: `channel_id ++ frame_number ++ frame_data_length ++
frame_data ++ is_last`, and the version-0 container of one or more frames.
The decoder is compared with a grammar of wire frames whose flag byte is left
unread, which is what the decoder really accepts.
-/
import BaseChain.ByteString

namespace BaseChain

open Function List FixedBytes

abbrev ChannelId := FixedBytes 16

instance ChannelId.lawfulBEq : LawfulBEq ChannelId := inferInstance

structure Frame where
  id : ChannelId
  number : UInt16
  data : Bytes
  isLast : Bool
deriving DecidableEq

inductive FrameDecodingError where
  | dataTooShort (length : Nat)
  | dataTooLarge (length : Nat)
  | invalidId
  | invalidNumber
  | invalidDataLength
deriving Repr, DecidableEq

inductive FrameParseError where
  | noFrames
  | unsupportedVersion
  | frameDecodingError (error : FrameDecodingError)
  | dataLengthMismatch
  | noFramesDecoded
deriving Repr, DecidableEq

def derivationVersion0 : UInt8 := 0

variable (encoded : Bytes)

namespace Frame

def encodedOverhead : Nat := 16 + 2 + 4 + 1

def overhead : Nat := 200

def maxLen : Nat := 1000000

variable (frame : Frame)

def encodedLen : Nat := encodedOverhead + frame.data.length

def encode : Bytes := frame.id.val ++ beBytes 2 frame.number.toNat ++
    beBytes 4 frame.data.length ++ frame.data ++
    [if frame.isLast then 1 else 0]

/-- The size a frame is charged against its channel. -/
def size : Nat := frame.data.length + overhead

def decode : Except FrameDecodingError (Nat × Frame) := if encoded.length < encodedOverhead then
    .error (.dataTooShort encoded.length)
  else
    match ofBytes? 16 (slice encoded 0 16) with
    | none => .error .invalidId
    | some id =>
    match ofBytes? 2 (slice encoded 16 18) with
    | none => .error .invalidNumber
    | some number =>
    match ofBytes? 4 (slice encoded 18 22) with
    | none => .error .invalidDataLength
    | some length =>
      let dataLen := beNat length.val
      if dataLen > maxLen ∨ dataLen ≥ encoded.length - (encodedOverhead - 1) then
        .error (.dataTooLarge dataLen)
      else
        .ok (encodedOverhead + dataLen,
          { id := id
            number := UInt16.ofNat (beNat number.val)
            data := slice encoded 22 (22 + dataLen)
            -- every flag byte other than one is read as "not last"
            isLast := encoded[22 + dataLen]? == some 1 })

theorem decode_length_pos {encoded : Bytes} {length : Nat} {frame : Frame}
    (hdecode : decode encoded = .ok (length, frame)) : 0 < length := by
  unfold decode at hdecode
  split at hdecode
  · cases hdecode
  split at hdecode
  · cases hdecode
  split at hdecode
  · cases hdecode
  split at hdecode
  · cases hdecode
  dsimp only at hdecode
  split at hdecode
  · cases hdecode
  · cases hdecode
    simp [encodedOverhead]

/-- The `while offset < data.len()` loop of `parse_frames`, with the frames
pushed so far.  It ends because every decoded frame advances the offset. -/
def parseFramesLoop (data : Bytes) (offset : Nat) (frames : List Frame) :
    Except FrameParseError (Nat × List Frame) :=
  if offset < data.length then
    match _hdecode : decode (data.drop offset) with
    | .error error => .error (.frameDecodingError error)
    | .ok (frameLength, frame) =>
      parseFramesLoop data (offset + frameLength) (frames ++ [frame])
  else
    .ok (offset, frames)
termination_by data.length - offset
decreasing_by
  have hpos := decode_length_pos _hdecode
  omega

def parseFrames : Except FrameParseError (List Frame) := match encoded with
  | [] => .error .noFrames
  | version :: data =>
    if version ≠ derivationVersion0 then
      .error .unsupportedVersion
    else
      match parseFramesLoop data 0 [] with
      | .error error => .error error
      | .ok (offset, frames) =>
        if offset ≠ data.length then
          .error .dataLengthMismatch
        else if frames.isEmpty then
          .error .noFramesDecoded
        else
          .ok frames

end Frame

/-- A frame as it stands on the wire, before its flag byte is read. -/
structure WireFrame where
  id : ChannelId
  number : UInt16
  data : Bytes
  flag : UInt8
deriving DecidableEq

namespace WireFrame

variable (wire : WireFrame)

def bytes : Bytes := wire.id.val ++ beBytes 2 wire.number.toNat ++
    beBytes 4 wire.data.length ++ wire.data ++ [wire.flag]

/-- What the decoder makes of a wire frame. -/
def read : Frame :=
  { id := wire.id, number := wire.number, data := wire.data,
    isLast := wire.flag == 1 }

/-- The size limit the decoder enforces. -/
def Sized : Prop := wire.data.length ≤ Frame.maxLen

/-- The flag is one of the two values the format documents. -/
def FlagCanonical : Prop := wire.flag ≤ 1

@[simp] theorem bytes_length : wire.bytes.length = Frame.encodedOverhead + wire.data.length := by
  simp [bytes, Frame.encodedOverhead]
  omega

theorem bytes_injective {left right : WireFrame} (hlength : left.data.length = right.data.length)
    (hbytes : left.bytes = right.bytes) : left = right := by
  obtain ⟨id, number, data, flag⟩ := left
  obtain ⟨id', number', data', flag'⟩ := right
  simp only [bytes, append_assoc] at hbytes
  obtain ⟨hid, hbytes⟩ := append_inj hbytes (by simp)
  obtain ⟨hnumber, hbytes⟩ := append_inj hbytes (by simp)
  obtain ⟨-, hbytes⟩ := append_inj hbytes (by simp)
  obtain ⟨hdata, hflag⟩ := append_inj hbytes hlength
  have hvalue := congrArg beNat hnumber
  have hlt := number.toNat_lt
  have hlt' := number'.toNat_lt
  simp only [beNat_beBytes] at hvalue
  rw [Nat.mod_eq_of_lt (by omega), Nat.mod_eq_of_lt (by omega)] at hvalue
  rw [ext hid, UInt16.toNat_inj.mp hvalue, hdata]
  simpa using hflag

@[simp] theorem read_data : wire.read.data = wire.data := rfl

end WireFrame

/-- The wire frame that `Frame.encode` writes. -/
def Frame.wire (frame : Frame) : WireFrame :=
  { id := frame.id, number := frame.number, data := frame.data,
    flag := if frame.isLast then 1 else 0 }

namespace Frame

section

variable (frame : Frame)

@[simp] theorem wire_data : frame.wire.data = frame.data := rfl

theorem wire_bytes : frame.wire.bytes = frame.encode := rfl

@[simp] theorem encode_length : frame.encode.length = frame.encodedLen := by
  rw [← wire_bytes, WireFrame.bytes_length, wire_data, encodedLen]

@[simp] theorem wire_read : frame.wire.read = frame := by
  obtain ⟨id, number, data, isLast⟩ := frame
  cases isLast <;> rfl

theorem wire_flagCanonical : frame.wire.FlagCanonical := by
  obtain ⟨id, number, data, isLast⟩ := frame
  cases isLast <;> simp [WireFrame.FlagCanonical, wire]

end

end Frame

/-- A documented flag is exactly what makes reading invertible. -/
theorem WireFrame.read_wire_iff (wire : WireFrame) :
    wire.read.wire = wire ↔ wire.FlagCanonical := by
  constructor
  · intro hwire
    rw [← hwire]
    exact wire.read.wire_flagCanonical
  · intro hflag
    obtain ⟨id, number, data, flag⟩ := wire
    have hcases : flag = 0 ∨ flag = 1 := by
      have hle : flag.toNat ≤ 1 := hflag
      rcases Nat.le_one_iff_eq_zero_or_eq_one.mp hle with hzero | hone
      · exact .inl (UInt8.toNat_inj.mp hzero)
      · exact .inr (UInt8.toNat_inj.mp hone)
    rcases hcases with rfl | rfl <;> rfl

namespace Frame

theorem decode_wire_append (wire : WireFrame) (rest : Bytes) (hsized : wire.Sized) :
    decode (wire.bytes ++ rest) = .ok (wire.bytes.length, wire.read) := by
  obtain ⟨id, number, data, flag⟩ := wire
  have hbound : data.length ≤ 1000000 := hsized
  generalize hencoded : WireFrame.bytes ⟨id, number, data, flag⟩ ++ rest = encoded
  have hsplit : encoded = id.val ++ (beBytes 2 number.toNat ++
      (beBytes 4 data.length ++ (data ++ (flag :: rest)))) := by
    simp [← hencoded, WireFrame.bytes]
  have hlength : encoded.length = 23 + data.length + rest.length := by
    simp [hsplit]
    omega
  have hid : slice encoded 0 16 = id.val := by simp [hsplit, slice_zero_append]
  have hnumber : slice encoded 16 18 = beBytes 2 number.toNat := by
    simp [hsplit, slice_append_right, slice_zero_append]
  have hlen : slice encoded 18 22 = beBytes 4 data.length := by
    simp [hsplit, slice_append_right, slice_zero_append]
  have hdata : slice encoded 22 (22 + data.length) = data := by
    rw [hsplit, add_comm]
    simp [slice_append_right, slice_zero_append]
  have hflag : encoded[22 + data.length]? = some flag := by
    rw [hsplit, add_comm]
    simp [getElem?_append_right]
  have hvalue : data.length % 256 ^ 4 = data.length := Nat.mod_eq_of_lt (by omega)
  unfold decode
  rw [if_neg (by simp [encodedOverhead]; omega), hid, hnumber, hlen,
    ofBytes?_val, ofBytes?_of_length (beBytes_length _ _), ofBytes?_of_length (beBytes_length _ _)]
  simp only [beNat_beBytes, hvalue, hdata, hflag]
  rw [if_neg (by simp [encodedOverhead, maxLen]; omega)]
  simp [WireFrame.read]

theorem decode_eq_ok {encoded : Bytes} {length : Nat} {frame : Frame}
    (hdecode : decode encoded = .ok (length, frame)) :
    ∃ wire rest, wire.Sized ∧ encoded = WireFrame.bytes wire ++ rest ∧
      length = wire.bytes.length ∧ frame = wire.read := by
  unfold decode at hdecode
  split at hdecode
  · cases hdecode
  rename_i hlong
  split at hdecode
  · cases hdecode
  rename_i id hid
  split at hdecode
  · cases hdecode
  rename_i number hnumber
  split at hdecode
  · cases hdecode
  rename_i dataLen hdataLen
  dsimp only at hdecode
  split at hdecode
  · cases hdecode
  rename_i hfits
  rw [ofBytes?_eq_some] at hid hnumber hdataLen
  simp only [encodedOverhead, not_or, not_lt] at hfits hlong
  obtain ⟨hmax, hroom⟩ := hfits
  have hcount : beBytes 4 (beNat dataLen.val) = slice encoded 18 22 := by
    rw [beBytes_beNat_of_length dataLen.length_val, hdataLen]
  generalize beNat dataLen.val = count at *
  have hindex : 22 + count < encoded.length := by omega
  have hdata : (slice encoded 22 (22 + count)).length = count := by
    simp
    omega
  obtain ⟨hlength, hframe⟩ := Prod.mk.inj (Except.ok.inj hdecode)
  refine ⟨⟨id, UInt16.ofNat (beNat number.val), slice encoded 22 (22 + count), encoded[22 + count]⟩,
    encoded.drop (23 + count), ?_, ?_, ?_, ?_⟩
  · simp only [WireFrame.Sized, hdata]
    exact hmax
  · have hnum : beBytes 2 (UInt16.ofNat (beNat number.val)).toNat = slice encoded 16 18 := by
      have hlt := beNat_lt number.val
      rw [number.length_val] at hlt
      rw [UInt16.toNat_ofNat', Nat.mod_eq_of_lt (by omega),
        beBytes_beNat_of_length number.length_val, hnumber]
    have hflag : encoded[22 + count] :: encoded.drop (23 + count) = encoded.drop (22 + count) := by
      rw [drop_eq_getElem_cons hindex]
      congr 2
      omega
    simp only [WireFrame.bytes, hdata, hnum, hcount, ← hid, append_assoc, singleton_append, hflag]
    rw [slice_append_drop _ (by omega), slice_append_drop _ (by omega),
      slice_append_drop _ (by omega), slice_append_drop _ (by omega), drop_zero]
  · rw [← hlength]
    simp [hdata]
  · rw [← hframe]
    simp [WireFrame.read, getElem?_eq_getElem hindex]

theorem parseFramesLoop_wires (front : Bytes) (wires : List WireFrame)
    (frames : List Frame) (hsized : ∀ wire ∈ wires, wire.Sized) :
    parseFramesLoop (front ++ wires.flatMap WireFrame.bytes) front.length frames =
      .ok ((front ++ wires.flatMap WireFrame.bytes).length,
        frames ++ wires.map WireFrame.read) := by
  induction wires generalizing front frames with
  | nil =>
    rw [parseFramesLoop]
    simp
  | cons wire rest ih =>
    have hnext := ih (front ++ wire.bytes) (frames ++ [wire.read])
      (fun other hother => hsized other (mem_cons_of_mem _ hother))
    have hhead : decode ((front ++ (wire :: rest).flatMap WireFrame.bytes).drop front.length) =
          .ok (wire.bytes.length, wire.read) := by
      rw [drop_left]
      exact decode_wire_append wire _ (hsized wire mem_cons_self)
    rw [parseFramesLoop, if_pos (by simp [encodedOverhead])]
    split
    · rename_i error hdecode
      rw [hhead] at hdecode
      cases hdecode
    · rename_i length frame hdecode
      rw [hhead] at hdecode
      cases hdecode
      simpa using hnext

theorem parseFramesLoop_eq_ok {data : Bytes} {offset finish : Nat}
    {frames result : List Frame} (hoffset : offset ≤ data.length)
    (hloop : parseFramesLoop data offset frames = .ok (finish, result)) :
    ∃ wires : List WireFrame, (∀ wire ∈ wires, wire.Sized) ∧
      data.drop offset = wires.flatMap WireFrame.bytes ∧
      finish = data.length ∧ result = frames ++ wires.map WireFrame.read := by
  fun_induction parseFramesLoop data offset frames with
  | case1 => cases hloop
  | case2 offset _ _ length _ hdecode ih =>
    obtain ⟨wire, rest, hsized, hdrop, rfl, rfl⟩ := decode_eq_ok hdecode
    have hrest : data.drop (offset + wire.bytes.length) = rest := by
      rw [← drop_drop, hdrop, drop_left]
    have hadvance : offset + wire.bytes.length ≤ data.length := by
      have := congrArg length hdrop
      simp only [length_drop, length_append] at this
      omega
    obtain ⟨wires, hwires, hflat, hfinish, hresult⟩ := ih hadvance hloop
    refine ⟨wire :: wires, ?_, ?_, hfinish, ?_⟩
    · intro other hother
      rcases mem_cons.mp hother with rfl | hother
      · exact hsized
      · exact hwires other hother
    · rw [hdrop, flatMap_cons, ← hflat, hrest]
    · simp [hresult]
  | case3 offset =>
    obtain ⟨rfl, rfl⟩ := Prod.mk.inj (Except.ok.inj hloop)
    exact ⟨[], by simp, by simp [drop_of_length_le (by omega :
      data.length ≤ offset)], by omega, by simp⟩

/-- The parser accepts exactly the version byte followed by one or more sized
wire frames, and returns their readings. -/
theorem parseFrames_eq_ok_iff (frames : List Frame) : parseFrames encoded = .ok frames ↔
      ∃ wires : List WireFrame, wires ≠ [] ∧ (∀ wire ∈ wires, wire.Sized) ∧
        encoded = derivationVersion0 :: wires.flatMap WireFrame.bytes ∧
        frames = wires.map WireFrame.read := by
  constructor
  · intro hparse
    cases encoded with
    | nil => cases hparse
    | cons =>
      simp only [parseFrames] at hparse
      split at hparse
      · cases hparse
      rename_i hversion
      split at hparse
      · cases hparse
      rename_i offset result hloop
      obtain ⟨wires, hsized, hdata, -, hresult⟩ := parseFramesLoop_eq_ok (Nat.zero_le _) hloop
      split at hparse
      · cases hparse
      split at hparse
      · cases hparse
      rename_i hnonempty
      cases hparse
      refine ⟨wires, ?_, hsized, ?_, by simpa using hresult⟩
      · rintro rfl
        simp [hresult] at hnonempty
      · rw [← hdata, drop_zero, not_not.mp hversion]
  · rintro ⟨wires, hne, hsized, rfl, rfl⟩
    have hloop := parseFramesLoop_wires [] wires [] hsized
    simp only [nil_append, length_nil] at hloop
    simp [parseFrames, hloop, hne]

end Frame

theorem WireFrame.flatMap_bytes_injective {left right : List WireFrame}
    (hlength : left.map (fun wire => wire.data.length) = right.map (fun wire => wire.data.length))
    (hbytes : left.flatMap bytes = right.flatMap bytes) : left = right := by
  induction left generalizing right with
  | nil =>
    cases right with
    | nil => rfl
    | cons => simp at hlength
  | cons _ _ ih =>
    cases right with
    | nil => simp at hlength
    | cons =>
      simp only [map_cons, cons.injEq] at hlength
      obtain ⟨hhead, htail⟩ := append_inj hbytes (by
        simp [hlength.1])
      rw [ih hlength.2 htail, bytes_injective hlength.1 hhead]

namespace Frame

/-- The documented container: version zero, then one or more frames of at most
`maxLen` payload bytes in their written form. -/
def Container (frames : List Frame) : Prop :=
  frames ≠ [] ∧ (∀ frame ∈ frames, frame.data.length ≤ maxLen) ∧
    encoded = derivationVersion0 :: frames.flatMap encode

theorem flatMap_encode (frames : List Frame) :
    frames.flatMap encode = (frames.map wire).flatMap WireFrame.bytes := by
  rw [flatMap_map]
  rfl

/-- What the encoder writes is parsed back. -/
theorem parseFrames_of_container {encoded : Bytes} {frames : List Frame}
    (hcontainer : Container encoded frames) :
    parseFrames encoded = .ok frames := by
  obtain ⟨hne, hsized, hencoded⟩ := hcontainer
  rw [parseFrames_eq_ok_iff]
  refine ⟨frames.map wire, by simpa using hne, ?_, ?_, ?_⟩
  · intro other hother
    obtain ⟨frame, hframe, rfl⟩ := mem_map.mp hother
    exact hsized frame hframe
  · rw [hencoded, flatMap_encode]
  · simp [comp_def]

theorem map_read_wire {wires : List WireFrame} (hflags : ∀ wire ∈ wires, wire.FlagCanonical) :
    (wires.map WireFrame.read).map wire = wires := by
  rw [map_map]
  conv_rhs => rw [← map_id wires]
  refine map_congr_left fun other hother => ?_
  exact other.read_wire_iff.mpr (hflags other hother)

/-- The parser and the documented container agree on an input exactly when
no reading of that input as sized wire frames has an undocumented flag. -/
theorem parseFrames_iff_container (encoded : Bytes) :
    (∀ frames, parseFrames encoded = .ok frames ↔
        Container encoded frames) ↔
      ∀ wires : List WireFrame, (∀ wire ∈ wires, wire.Sized) →
        encoded = derivationVersion0 :: wires.flatMap WireFrame.bytes →
        ∀ wire ∈ wires, wire.flag ≤ 1 := by
  constructor
  · intro hgrammar wires hsized hencoded wire hwire
    have hne : wires ≠ [] := List.ne_nil_of_mem hwire
    have hparse : parseFrames encoded = .ok (wires.map WireFrame.read) :=
      (parseFrames_eq_ok_iff _ _).mpr ⟨wires, hne, hsized, hencoded, rfl⟩
    obtain ⟨-, -, hcontainer⟩ := (hgrammar _).mp hparse
    have hbytes : wires.flatMap WireFrame.bytes =
        ((wires.map WireFrame.read).map Frame.wire).flatMap
          WireFrame.bytes := by
      rw [← flatMap_encode]
      exact (List.cons.inj (hencoded.symm.trans hcontainer)).2
    -- payload lengths survive reading, so equal bytes are equal frames
    have hsame := WireFrame.flatMap_bytes_injective (by simp [Function.comp_def]) hbytes
    rw [hsame] at hwire
    obtain ⟨frame, -, rfl⟩ := List.mem_map.mp hwire
    exact frame.wire_flagCanonical
  · intro hflags frames
    constructor
    · intro hparse
      obtain ⟨wires, hne, hsized, hencoded, rfl⟩ := (parseFrames_eq_ok_iff _ _).mp hparse
      refine ⟨by simpa using hne, ?_, ?_⟩
      · intro frame hframe
        obtain ⟨wire, hwire, rfl⟩ := List.mem_map.mp hframe
        exact hsized wire hwire
      · rw [flatMap_encode, map_read_wire (hflags wires hsized hencoded)]
        exact hencoded
    · exact parseFrames_of_container

/-- An empty frame whose flag byte is two. -/
def undocumentedFlagFrame : WireFrame := { id := default, number := 0, data := [], flag := 2 }

/-- A container whose only flag byte is two is accepted, and what it is parsed
to is not written back as that container. -/
theorem parseFrames_accepts_undocumented_flag :
    ∃ encoded frames, parseFrames encoded = .ok frames ∧
      ¬ Container encoded frames := by
  refine ⟨derivationVersion0 :: [undocumentedFlagFrame].flatMap WireFrame.bytes,
    [undocumentedFlagFrame].map WireFrame.read, ?_, ?_⟩
  · exact (parseFrames_eq_ok_iff _ _).mpr ⟨[undocumentedFlagFrame], by simp,
        by simp [WireFrame.Sized, undocumentedFlagFrame], rfl, rfl⟩
  · rintro ⟨-, -, hencoded⟩
    revert hencoded
    decide

end Frame

end BaseChain
