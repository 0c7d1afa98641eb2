import StarcoinMcp.Lib.ByteReader

/-! The frames of the native bridge (`framing.rs`): four bytes with the length, in the order
of the machine, then the payload. A stream of frames is read back as it was written, in
whatever pieces it comes; cut inside a frame, it ends in an error. -/

namespace StarcoinMcp.NativeHost

def nativeBridgeMaxInboundBytes : Nat := 64 * 1024 * 1024

def nativeBridgeMaxOutboundBytes : Nat := 1024 * 1024

/-- The order of the bytes of a number, which is that of the machine. -/
inductive ByteOrder
  | little | big
deriving DecidableEq, Repr

/-- `u32::to_ne_bytes`. -/
def toNeBytes (order : ByteOrder) (n : Nat) : List UInt8 :=
  let bytes := [UInt8.ofNat n, UInt8.ofNat (n / 2 ^ 8), UInt8.ofNat (n / 2 ^ 16), UInt8.ofNat (n / 2 ^ 24)]
  match order with
  | .little => bytes
  | .big => bytes.reverse

def valueOf : List UInt8 → Nat
  | [] => 0
  | b :: bytes => b.toNat + 2 ^ 8 * valueOf bytes

/-- `u32::from_ne_bytes`. -/
def fromNeBytes (order : ByteOrder) (bytes : List UInt8) : Nat :=
  match order with
  | .little => valueOf bytes
  | .big => valueOf bytes.reverse

inductive FrameError
  | headerTruncated (headerRead : Nat)
  | exceedsInboundLimit (length : Nat)
  | exceedsOutboundLimit (length : Nat)
  | lengthOutOfRange
  | io (kind : IoErrorKind)
deriving DecidableEq, Repr

def FrameError.text : FrameError → String
  | .headerTruncated headerRead =>
    "native bridge frame header truncated after " ++ toString headerRead ++ " bytes"
  | .exceedsInboundLimit length => "native bridge frame exceeds inbound limit: " ++ toString length
  | .exceedsOutboundLimit length => "native bridge frame exceeds outbound limit: " ++ toString length
  | .lengthOutOfRange => "out of range integral type conversion attempted"
  | .io .unexpectedEof => "failed to fill whole buffer"
  | .io .interrupted => "interrupted"
  | .io .other => "other error"

/-! ## Reading and writing -/

/-- The loop that fills the header. The end of the stream is no error before its first byte. -/
def readHeader (r : Reader) (header : List UInt8) : Except FrameError (Option (List UInt8)) × Reader :=
  if 4 ≤ header.length then (.ok (some header), r)
  else
    match r.read (4 - header.length) with
    | (.ok [], r') =>
      if header.isEmpty then (.ok none, r') else (.error (.headerTruncated header.length), r')
    | (.ok (b :: bytes), r') => readHeader r' (header ++ b :: bytes)
    | (.error kind, r') =>
      if kind = .unexpectedEof ∧ header.isEmpty then (.ok none, r') else (.error (.io kind), r')
termination_by 4 - header.length
decreasing_by
  simp only [List.length_append, List.length_cons]
  omega

/-- What follows the header. -/
def readBody (order : ByteOrder) (header : List UInt8) (r : Reader) :
    Except FrameError (Option (List UInt8)) × Reader :=
  if nativeBridgeMaxInboundBytes < fromNeBytes order header then
    (.error (.exceedsInboundLimit (fromNeBytes order header)), r)
  else
    match r.readExact (fromNeBytes order header) with
    | (.ok payload, r') => (.ok (some payload), r')
    | (.error kind, r') => (.error (.io kind), r')

def readFrame (order : ByteOrder) (r : Reader) : Except FrameError (Option (List UInt8)) × Reader :=
  match readHeader r [] with
  | (.ok (some header), r') => readBody order header r'
  | (.ok none, r') => (.ok none, r')
  | (.error e, r') => (.error e, r')

/-- `write_frame` into a buffer. -/
def writeFrame (order : ByteOrder) (buffer payload : List UInt8) : Except FrameError (List UInt8) :=
  if 2 ^ 32 ≤ payload.length then .error .lengthOutOfRange
  else if nativeBridgeMaxOutboundBytes < payload.length then
    .error (.exceedsOutboundLimit payload.length)
  else .ok (buffer ++ toNeBytes order payload.length ++ payload)

def writeFrames (order : ByteOrder) (buffer : List UInt8) :
    List (List UInt8) → Except FrameError (List UInt8)
  | [] => .ok buffer
  | payload :: payloads => do
    let buffer' ← writeFrame order buffer payload
    writeFrames order buffer' payloads

/-- So many calls of `read_frame`, one after another. -/
def readFrames (order : ByteOrder) : Nat → Reader → List (Except FrameError (Option (List UInt8)))
  | 0, _ => []
  | n + 1, r => (readFrame order r).1 :: readFrames order n (readFrame order r).2

/-! ## The length -/

theorem length_toNeBytes (order : ByteOrder) (n : Nat) : (toNeBytes order n).length = 4 := by
  cases order <;> rfl

theorem fromNeBytes_toNeBytes (order : ByteOrder) {n : Nat} (h : n < 2 ^ 32) :
    fromNeBytes order (toNeBytes order n) = n := by
  have hvalue : valueOf [UInt8.ofNat n, UInt8.ofNat (n / 2 ^ 8), UInt8.ofNat (n / 2 ^ 16),
      UInt8.ofNat (n / 2 ^ 24)] = n := by
    simp only [valueOf, UInt8.toNat_ofNat']
    omega
  cases order with
  | little => exact hvalue
  | big =>
    show valueOf (List.reverse (List.reverse _)) = n
    rw [List.reverse_reverse]
    exact hvalue

/-- One frame. -/
def frame (order : ByteOrder) (payload : List UInt8) : List UInt8 :=
  toNeBytes order payload.length ++ payload

/-- A frame is written, after what was there, just when its payload is within the limit. -/
theorem writeFrame_ok_iff (order : ByteOrder) (buffer payload : List UInt8) :
    writeFrame order buffer payload = .ok (buffer ++ frame order payload) ↔
      payload.length ≤ nativeBridgeMaxOutboundBytes := by
  unfold writeFrame nativeBridgeMaxOutboundBytes
  constructor
  · intro h
    by_contra hlarge
    by_cases hhuge : 2 ^ 32 ≤ payload.length
    · rw [if_pos hhuge] at h
      cases h
    · rw [if_neg hhuge, if_pos (by omega)] at h
      cases h
  · intro hle
    rw [if_neg (by omega), if_neg (by omega), List.append_assoc]
    rfl

theorem writeFrames_eq (order : ByteOrder) {payloads : List (List UInt8)}
    (h : ∀ p ∈ payloads, p.length ≤ nativeBridgeMaxOutboundBytes) :
    ∀ buffer, writeFrames order buffer payloads = .ok (buffer ++ payloads.flatMap (frame order)) := by
  induction payloads with
  | nil =>
    intro buffer
    rw [List.flatMap_nil, List.append_nil]
    rfl
  | cons payload payloads ih =>
    intro buffer
    have hle := h payload (List.mem_cons_self ..)
    have hwrite := (writeFrame_ok_iff order buffer payload).mpr hle
    have hrest := ih (fun p hp => h p (List.mem_cons_of_mem _ hp)) (buffer ++ frame order payload)
    rw [List.flatMap_cons, ← List.append_assoc, ← hrest]
    show (writeFrame order buffer payload >>= fun buffer' => writeFrames order buffer' payloads) = _
    rw [hwrite]
    rfl

/-! ## The header -/

section Header

variable {r r' : Reader} {header : List UInt8}

theorem readHeader_full (h : 4 ≤ header.length) : readHeader r header = (.ok (some header), r) := by
  rw [readHeader, if_pos h]

theorem readHeader_of_read_nil (h : header.length < 4)
    (hread : r.read (4 - header.length) = (.ok [], r')) : readHeader r header =
      if header.isEmpty then (.ok none, r') else (.error (.headerTruncated header.length), r') := by
  rw [readHeader, if_neg (by omega), hread]

theorem readHeader_of_read_cons {b : UInt8} {bytes : List UInt8} (h : header.length < 4)
    (hread : r.read (4 - header.length) = (.ok (b :: bytes), r')) :
    readHeader r header = readHeader r' (header ++ b :: bytes) := by
  rw [readHeader, if_neg (by omega), hread]

/-- The header is the four bytes that stand first. By induction on the bytes still missing. -/
theorem readHeader_of_append {missing : Nat} : ∀ {r : Reader} (header : List UInt8)
    {front back : List UInt8}, r.Gives → r.remaining = front ++ back → front.length = missing →
    header.length + missing = 4 →
    ∃ r', readHeader r header = (.ok (some (header ++ front)), r') ∧ r'.remaining = back ∧ r'.Gives := by
  induction missing using Nat.strong_induction_on with
  | _ missing ih =>
    intro r header front back hr hremaining hlength hfour
    by_cases hzero : missing = 0
    · obtain rfl : front = [] := List.length_eq_zero_iff.mp (hlength.trans hzero)
      rw [List.append_nil]
      exact ⟨r, readHeader_full (by omega), hremaining, hr⟩
    · have hne : r.remaining ≠ [] := by
        intro hnil
        rw [hremaining] at hnil
        simp_all
      have hneed : 4 - header.length ≠ 0 := by omega
      obtain ⟨b, bytes, r', hread, hsplit, hle, hr'⟩ := hr.read_piece hneed hne
      obtain ⟨tail, htail⟩ : (b :: bytes) <+: front := by
        refine List.prefix_of_prefix_length_le ⟨_, (hremaining.symm.trans hsplit).symm⟩
          (List.prefix_append front back) ?_
        omega
      have hlen : (b :: bytes).length + tail.length = missing := by
        rw [← List.length_append, htail, hlength]
      have hrest : r'.remaining = tail ++ back := by
        rw [hremaining, ← htail, List.append_assoc] at hsplit
        exact (List.append_cancel_left hsplit).symm
      have hpos : 0 < (b :: bytes).length := Nat.succ_pos _
      have hgrown : (header ++ b :: bytes).length + tail.length = 4 := by
        rw [List.length_append]
        omega
      obtain ⟨r'', hheader, hback, hr''⟩ := ih tail.length (by omega) _ hr' hrest rfl hgrown
      refine ⟨r'', ?_, hback, hr''⟩
      rw [readHeader_of_read_cons (by omega) hread, hheader, List.append_assoc, htail]

theorem readHeader_at_end (hr : r.Gives) (hremaining : r.remaining = []) :
    ∃ r', readHeader r [] = (.ok none, r') := by
  obtain ⟨r', hread⟩ := hr.read_nil hremaining
  exact ⟨r', readHeader_of_read_nil (by decide) hread⟩

/-- A header cut short is an error, unless nothing of it was there. -/
theorem readHeader_truncated {missing : Nat} : ∀ {r : Reader} (header : List UInt8), r.Gives →
    r.remaining.length = missing → 0 < header.length + missing → header.length + missing < 4 →
    ∃ e r', readHeader r header = (.error e, r') := by
  induction missing using Nat.strong_induction_on with
  | _ missing ih =>
    intro r header hr hlength hpos hshort
    by_cases hremaining : r.remaining = []
    · obtain ⟨r', hread⟩ : ∃ r', r.read (4 - header.length) = (.ok [], r') := hr.read_nil hremaining
      have hnonempty : header.isEmpty = false := by
        rw [hremaining, List.length_nil] at hlength
        cases header with
        | nil =>
          rw [List.length_nil] at hpos
          omega
        | cons b bytes => rfl
      refine ⟨.headerTruncated header.length, r', ?_⟩
      rw [readHeader_of_read_nil (by omega) hread, hnonempty]
      rfl
    · have hneed : 4 - header.length ≠ 0 := by omega
      obtain ⟨b, bytes, r', hread, hsplit, hle, hr'⟩ := hr.read_piece hneed hremaining
      have hlen : r.remaining.length = (b :: bytes).length + r'.remaining.length := by
        rw [hsplit, List.length_append]
      have hpiece : 0 < (b :: bytes).length := Nat.succ_pos _
      have hgrown : (header ++ b :: bytes).length = header.length + (b :: bytes).length :=
        List.length_append
      obtain ⟨e, r'', hheader⟩ := ih r'.remaining.length (by omega)
        (header ++ b :: bytes) hr' rfl (by omega) (by omega)
      exact ⟨e, r'', (readHeader_of_read_cons (by omega) hread).trans hheader⟩

end Header

/-! ## Frames -/

section Frames

variable {order : ByteOrder} {r : Reader}

theorem readBody_of_header (r : Reader) {n : Nat} (hle : n ≤ nativeBridgeMaxOutboundBytes) :
    readBody order (toNeBytes order n) r =
      match r.readExact n with
      | (.ok payload, r') => (.ok (some payload), r')
      | (.error kind, r') => (.error (.io kind), r') := by
  unfold nativeBridgeMaxOutboundBytes at hle
  have hsize : fromNeBytes order (toNeBytes order n) = n := fromNeBytes_toNeBytes order (by omega)
  have hlimit : ¬ nativeBridgeMaxInboundBytes < n := by
    unfold nativeBridgeMaxInboundBytes
    omega
  unfold readBody
  rw [hsize, if_neg hlimit]

/-- A frame that stands first is read, and what follows it is left. -/
theorem readFrame_of_append (hr : r.Gives) {payload back : List UInt8}
    (hle : payload.length ≤ nativeBridgeMaxOutboundBytes)
    (hremaining : r.remaining = frame order payload ++ back) :
    ∃ r', readFrame order r = (.ok (some payload), r') ∧ r'.remaining = back ∧ r'.Gives := by
  unfold frame at hremaining
  rw [List.append_assoc] at hremaining
  obtain ⟨r₁, hheader, hrest, hr₁⟩ := readHeader_of_append [] hr hremaining
    (length_toNeBytes _ _) rfl
  obtain ⟨r₂, hbody, hback, hr₂⟩ := hr₁.readExact_of_append hrest rfl
  refine ⟨r₂, ?_, hback, hr₂⟩
  unfold readFrame
  rw [hheader]
  show readBody order (toNeBytes order payload.length) r₁ = _
  rw [readBody_of_header r₁ hle, hbody]

/-- A first part of a frame, neither empty nor the whole of it, is an error. -/
theorem readFrame_truncated (hr : r.Gives) {payload : List UInt8}
    (hle : payload.length ≤ nativeBridgeMaxOutboundBytes)
    (hpart : r.remaining <+: frame order payload) (hsome : r.remaining ≠ [])
    (hless : r.remaining.length < (frame order payload).length) :
    ∃ e r', readFrame order r = (.error e, r') := by
  have hpos : 0 < r.remaining.length := List.length_pos_iff.mpr hsome
  have hlength : (frame order payload).length = 4 + payload.length := by
    unfold frame
    rw [List.length_append, length_toNeBytes]
  by_cases hshort : r.remaining.length < 4
  · obtain ⟨e, r', hheader⟩ := readHeader_truncated [] hr rfl (by simpa using hpos)
      (by simpa using hshort)
    refine ⟨e, r', ?_⟩
    unfold readFrame
    rw [hheader]
  · -- the header is whole, so the payload is not
    obtain ⟨front, hfront⟩ : toNeBytes order payload.length <+: r.remaining := by
      refine List.prefix_of_prefix_length_le (List.prefix_append _ _) hpart ?_
      rw [length_toNeBytes]
      omega
    obtain ⟨r₁, hheader, hrest, hr₁⟩ :=
      readHeader_of_append [] hr hfront.symm (length_toNeBytes _ _) rfl
    have hfrontLength : r.remaining.length = 4 + front.length := by
      rw [← hfront, List.length_append, length_toNeBytes]
    obtain ⟨r₂, hbody⟩ : ∃ r', r₁.readExact payload.length = (.error .unexpectedEof, r') := by
      refine hr₁.readExact_of_short ?_
      rw [hrest]
      omega
    refine ⟨.io .unexpectedEof, r₂, ?_⟩
    unfold readFrame
    rw [hheader]
    show readBody order (toNeBytes order payload.length) r₁ = _
    rw [readBody_of_header r₁ hle, hbody]

theorem readFrame_at_end (hr : r.Gives) (hremaining : r.remaining = []) :
    (readFrame order r).1 = .ok none := by
  obtain ⟨r', hheader⟩ := readHeader_at_end hr hremaining
  unfold readFrame
  rw [hheader]

/-- Whole frames come out as they went in, and the calls after them see what follows. -/
theorem readFrames_of_append (order : ByteOrder) {payloads : List (List UInt8)} (n : Nat) :
    ∀ {r : Reader} {back : List UInt8}, r.Gives →
      (∀ p ∈ payloads, p.length ≤ nativeBridgeMaxOutboundBytes) →
      r.remaining = payloads.flatMap (frame order) ++ back →
      ∃ r', readFrames order (payloads.length + n) r =
          payloads.map (fun p => .ok (some p)) ++ readFrames order n r' ∧
        r'.remaining = back ∧ r'.Gives := by
  induction payloads with
  | nil =>
    intro r back hr _ hremaining
    refine ⟨r, ?_, hremaining, hr⟩
    rw [List.length_nil, Nat.zero_add]
    rfl
  | cons payload payloads ih =>
    intro r back hr hle hremaining
    rw [List.flatMap_cons, List.append_assoc] at hremaining
    obtain ⟨r₁, hframe, hrest, hr₁⟩ :=
      readFrame_of_append hr (hle payload (List.mem_cons_self ..)) hremaining
    obtain ⟨r₂, hframes, hback, hr₂⟩ :=
      ih hr₁ (fun p hp => hle p (List.mem_cons_of_mem _ hp)) hrest
    refine ⟨r₂, ?_, hback, hr₂⟩
    have hcount : (payload :: payloads).length + n = (payloads.length + n) + 1 := by
      rw [List.length_cons]
      omega
    rw [hcount]
    show (readFrame order r).1 :: readFrames order (payloads.length + n) (readFrame order r).2 = _
    rw [hframe, hframes]
    rfl

/-- A cut that is at no boundary is inside one frame. -/
theorem exists_cut_frame {payloads : List (List UInt8)} :
    ∀ {cut : Nat}, cut < (payloads.flatMap (frame order)).length →
      (∀ n ≤ payloads.length, cut ≠ ((payloads.take n).flatMap (frame order)).length) →
      ∃ before payload after, payloads = before ++ payload :: after ∧
        (before.flatMap (frame order)).length < cut ∧
        cut < (before.flatMap (frame order)).length + (frame order payload).length := by
  induction payloads with
  | nil =>
    intro cut hcut
    simp at hcut
  | cons payload payloads ih =>
    intro cut hcut hboundary
    have hzero : cut ≠ 0 := hboundary 0 (Nat.zero_le _)
    have hone := hboundary 1 (by simp)
    simp only [List.take_succ_cons, List.take_zero, List.flatMap_cons, List.flatMap_nil,
      List.append_nil] at hone
    rw [List.flatMap_cons, List.length_append] at hcut
    by_cases hfirst : cut < (frame order payload).length
    · refine ⟨[], payload, payloads, rfl, Nat.pos_of_ne_zero hzero, ?_⟩
      rwa [List.flatMap_nil, List.length_nil, Nat.zero_add]
    · obtain ⟨before, found, after, rfl, hlow, hhigh⟩ :=
        @ih (cut - (frame order payload).length) (by omega) (by
          intro n hn heq
          have hnext := hboundary (n + 1) (by simpa using hn)
          rw [List.take_succ_cons, List.flatMap_cons, List.length_append] at hnext
          omega)
      refine ⟨payload :: before, found, after, rfl, ?_, ?_⟩
      · rw [List.flatMap_cons, List.length_append]
        omega
      · rw [List.flatMap_cons, List.length_append]
        omega

end Frames

/-- What was written is read back, however it is delivered; cut inside a frame, all the frames
before that one are read and then comes an error. -/
theorem frames_read_as_written (order : ByteOrder) (payloads : List (List UInt8))
    (hle : ∀ p ∈ payloads, p.length ≤ nativeBridgeMaxOutboundBytes) :
    ∃ stream, writeFrames order [] payloads = .ok stream ∧
      (∀ script : List Turn, (∀ t ∈ script, ∃ extra, t = .give extra) →
        readFrames order (payloads.length + 1) ⟨stream, script⟩ =
          payloads.map (fun p => .ok (some p)) ++ [.ok none]) ∧
      ∀ (cut : Nat) (script : List Turn), (∀ t ∈ script, ∃ extra, t = .give extra) →
        cut < stream.length →
        (∀ n ≤ payloads.length, cut ≠ ((payloads.take n).flatMap (frame order)).length) →
        ∃ before payload after e, payloads = before ++ payload :: after ∧
          (before.flatMap (frame order)).length < cut ∧
          cut < (before.flatMap (frame order)).length + (frame order payload).length ∧
          readFrames order (before.length + 1) ⟨stream.take cut, script⟩ =
            before.map (fun p => .ok (some p)) ++ [.error e] := by
  refine ⟨payloads.flatMap (frame order), writeFrames_eq order hle [], ?_, ?_⟩
  · intro script hscript
    obtain ⟨r', hframes, hrest, hr'⟩ := readFrames_of_append order 1
      (r := ⟨payloads.flatMap (frame order), script⟩) hscript hle (List.append_nil _).symm
    rw [hframes]
    show _ ++ [(readFrame order r').1] = _
    rw [readFrame_at_end hr' hrest]
  · intro cut script hscript hcut hboundary
    obtain ⟨before, payload, after, rfl, hlow, hhigh⟩ := exists_cut_frame hcut hboundary
    have hsplit : ((before ++ payload :: after).flatMap (frame order)).take cut =
        before.flatMap (frame order) ++
          (frame order payload).take (cut - (before.flatMap (frame order)).length) := by
      rw [List.flatMap_append, List.flatMap_cons, List.take_append, List.take_append,
        List.take_of_length_le (le_of_lt hlow)]
      congr 1
      rw [show cut - (before.flatMap (frame order)).length - (frame order payload).length = 0 by omega,
        List.take_zero, List.append_nil]
    obtain ⟨r', hframes, hrest, hr'⟩ := readFrames_of_append order 1
      (r := ⟨((before ++ payload :: after).flatMap (frame order)).take cut, script⟩) hscript
      (fun p hp => hle p (by simp [hp])) hsplit
    have hlength : r'.remaining.length = cut - (before.flatMap (frame order)).length := by
      rw [hrest, List.length_take]
      omega
    obtain ⟨e, r'', herror⟩ := readFrame_truncated hr' (hle payload (by simp))
      (hrest ▸ List.take_prefix _ _) (by
        intro hnil
        rw [hnil, List.length_nil] at hlength
        omega) (by omega)
    refine ⟨before, payload, after, e, rfl, hlow, hhigh, ?_⟩
    rw [hframes]
    show _ ++ [(readFrame order r').1] = _
    rw [herror]

theorem frames_read_as_written_two :
    (∀ p ∈ ([[1, 2], [3]] : List (List UInt8)), p.length ≤ nativeBridgeMaxOutboundBytes) ∧
    ∃ stream, writeFrames .little [] [[1, 2], [3]] = .ok stream ∧
      readFrames .little 3 ⟨stream, [.give 0, .give 1, .give 0, .give 0]⟩ =
        [.ok (some [1, 2]), .ok (some [3]), .ok none] ∧
      ∃ before payload after e, ([[1, 2], [3]] : List (List UInt8)) = before ++ payload :: after ∧
        (before.flatMap (frame .little)).length < 8 ∧
        8 < (before.flatMap (frame .little)).length + (frame .little payload).length ∧
        readFrames .little (before.length + 1) ⟨stream.take 8, [.give 0, .give 1]⟩ =
          before.map (fun p => .ok (some p)) ++ [.error e] := by
  have hle : ∀ p ∈ ([[1, 2], [3]] : List (List UInt8)),
      p.length ≤ nativeBridgeMaxOutboundBytes := by decide
  obtain ⟨stream, hstream, hread, hcut⟩ := frames_read_as_written .little [[1, 2], [3]] hle
  refine ⟨hle, stream, hstream, hread _ (by simp), ?_⟩
  obtain rfl : [2, 0, 0, 0, 1, 2, 1, 0, 0, 0, 3] = stream := by
    have h : writeFrames .little [] [[1, 2], [3]] = .ok [2, 0, 0, 0, 1, 2, 1, 0, 0, 0, 3] := by
      decide
    exact Except.ok.inj (h.symm.trans hstream)
  exact hcut 8 _ (by simp) (by decide) (by decide)

end StarcoinMcp.NativeHost
