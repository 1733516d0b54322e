import ClassAtlas.ClassFile.Session
import ClassAtlas.Proofs.ClassFile.Inversion

/-!
# What a session reads and leaves

Every request is one read of its size, of which the reply says what the bytes
were: numbers are written in one way, and bytes stand for themselves. So a
request at a position fails exactly if it asks for a negative number of bytes or
for more than are left, and then nothing moves.

A session goes from position to position in one run of bytes. Put together, what
its successful requests read is all that lies between its start and its end.
-/

namespace ClassAtlas.ClassFile

namespace Request

/-- The number of bytes that are asked for. -/
def size : Request → Int
  | u1 => 1
  | u2 => 2
  | u4 => 4
  | s4 => 4
  | read size => size
  | skip size => size

/-- The reply is the right one where the request goes over the bytes. -/
inductive Reads : Request → Reply → Bytes → Prop
  | u1 {n : Nat} : n < 2 ^ 8 → Reads .u1 (.number n) (bigEndianBytes 1 n)
  | u2 {n : Nat} : n < 2 ^ 16 → Reads .u2 (.number n) (bigEndianBytes 2 n)
  | u4 {n : Nat} : n < 2 ^ 32 → Reads .u4 (.number n) (bigEndianBytes 4 n)
  | s4 {v : Int} : -2 ^ 31 ≤ v → v < 2 ^ 31 →
      Reads .s4 (.number v) (bigEndianBytes 4 (twosComplement 32 v))
  | read (chunk : Bytes) : Reads (.read chunk.length) (.bytes chunk) chunk
  | skip (chunk : Bytes) : Reads (.skip chunk.length) .nothing chunk

/-- What is made of the bytes. -/
def reply : Request → Bytes → Reply
  | u1, bs => .number (bigEndian bs)
  | u2, bs => .number (bigEndian bs)
  | u4, bs => .number (bigEndian bs)
  | s4, bs => .number (signed 32 (bigEndian bs))
  | read _, bs => .bytes bs
  | skip _, _ => .nothing

/-- Every request is one read. -/
theorem decoder_eq (r : Request) :
    r.decoder = (do return r.reply (← Decoder.read r.size) : Decoder Reply) := by
  cases r with
  | u1 => simp [decoder, reply, size, Decoder.u1, Decoder.unsigned_eq, Decoder.take]
  | u2 => simp [decoder, reply, size, Decoder.u2, Decoder.unsigned_eq, Decoder.take]
  | u4 => simp [decoder, reply, size, Decoder.u4, Decoder.unsigned_eq, Decoder.take]
  | s4 =>
      simp [decoder, reply, size, Decoder.s4_eq, Decoder.u4, Decoder.unsigned_eq, Decoder.take]
  | read n => rfl
  | skip n => simp [decoder, reply, size, Decoder.skip_eq]

theorem reads_reply {r : Request} {bs : Bytes} (h : (bs.length : Int) = r.size) :
    r.Reads (r.reply bs) bs := by
  -- numbers of a fixed size are told by their bytes, and the bytes by them
  have hnumber : ∀ n : Nat, (bs.length : Int) = n →
      bigEndian bs < 256 ^ n ∧ bigEndianBytes n (bigEndian bs) = bs := by
    intro n hn
    obtain rfl : bs.length = n := by omega
    exact ⟨bigEndian_lt bs, bigEndianBytes_bigEndian bs⟩
  cases r with
  | u1 =>
      obtain ⟨hlt, hbytes⟩ := hnumber 1 h
      have hreads := Reads.u1 hlt
      rwa [hbytes] at hreads
  | u2 =>
      obtain ⟨hlt, hbytes⟩ := hnumber 2 h
      have hreads := Reads.u2 hlt
      rwa [hbytes] at hreads
  | u4 =>
      obtain ⟨hlt, hbytes⟩ := hnumber 4 h
      have hreads := Reads.u4 hlt
      rwa [hbytes] at hreads
  | s4 =>
      obtain ⟨hlt, hbytes⟩ := hnumber 4 h
      have hbounds : -2 ^ 31 ≤ signed 32 (bigEndian bs) ∧ signed 32 (bigEndian bs) < 2 ^ 31 :=
        signed_bounds hlt
      have hreads := Reads.s4 hbounds.1 hbounds.2
      rwa [twosComplement_signed hlt, hbytes] at hreads
  | read n =>
      obtain rfl : (bs.length : Int) = n := h
      exact .read bs
  | skip n =>
      obtain rfl : (bs.length : Int) = n := h
      exact .skip bs

end Request

/-! ## One request -/

section Attempt

variable {c : Cursor}

theorem Cursor.attempt_of_fits {r : Request} (hc : c.overrun = 0) (h : 0 ≤ r.size)
    (hsize : r.size ≤ c.rest.length) :
    c.attempt r =
      ⟨r, c, .ok (r.reply (c.rest.take r.size.toNat)), c.advance r.size.toNat⟩ := by
  have houtcome : r.decoder.outcome c =
      (.ok (r.reply (c.rest.take r.size.toNat)), c.advance r.size.toNat) := by
    rw [r.decoder_eq, Decoder.outcome_bind_ok (Decoder.outcome_read hc h hsize)]
    rfl
  rw [Cursor.attempt, houtcome]

/-- **A request that fails moves nothing.** -/
theorem Cursor.attempt_of_short {r : Request} (h : r.size < 0 ∨ (c.rest.length : Int) < r.size) :
    c.attempt r = ⟨r, c, .error (c.shortOf r.size), c⟩ := by
  have houtcome : r.decoder.outcome c = (.error (c.shortOf r.size), c) := by
    rw [r.decoder_eq, Decoder.outcome_bind_error (Decoder.outcome_read_short (h.imp_right .inr))]
  rw [Cursor.attempt, houtcome]

/-- Two reads in a row may fail in between, and then the first has moved the cursor. -/
example : ((do let _ ← Decoder.u1; Decoder.u4 : Decoder Nat).outcome
    (Cursor.at "class record" [0xCA, 0xFE])).2.position = 1 := by decide

end Attempt

/-! ## Positions in one run of bytes -/

section Session

variable {subject : String} {data : Bytes} {p q : Nat} {r : Request} {events : List Event}

@[simp] theorem Cursor.subject_at : (Cursor.at subject data p).subject = subject := rfl

@[simp] theorem Cursor.position_at : (Cursor.at subject data p).position = p := rfl

theorem Cursor.overrun_at (h : p ≤ data.length) : (Cursor.at subject data p).overrun = 0 :=
  Nat.sub_eq_zero_of_le h

theorem Cursor.length_rest_at (subject : String) (h : p ≤ data.length) :
    ((Cursor.at subject data p).rest.length : Int) = data.length - p := by
  show ((data.drop p).length : Int) = _
  rw [List.length_drop]
  omega

theorem Cursor.advance_at {n : Nat} (h : p + n ≤ data.length) :
    (Cursor.at subject data p).advance n = Cursor.at subject data (p + n) := by
  simp only [Cursor.at, Cursor.advance, List.drop_drop, Cursor.mk.injEq, true_and]
  omega

/-- One request either goes over the bytes that its reply is for, or fails and moves nothing. -/
theorem Cursor.attempt_at (subject : String) (h : p ≤ data.length) (r : Request) :
    (∃ reply chunk, r.Reads reply chunk ∧ (chunk.length : Int) = r.size ∧
      data.drop p = chunk ++ data.drop (p + chunk.length) ∧ p + chunk.length ≤ data.length ∧
      (Cursor.at subject data p).attempt r =
        ⟨r, Cursor.at subject data p, .ok reply, Cursor.at subject data (p + chunk.length)⟩) ∨
    ((r.size < 0 ∨ (data.length : Int) - p < r.size) ∧
      (Cursor.at subject data p).attempt r =
        ⟨r, Cursor.at subject data p, .error (.truncated subject r.size p (data.length - p)),
          Cursor.at subject data p⟩) := by
  have hleft := Cursor.length_rest_at subject h
  by_cases hfits : 0 ≤ r.size ∧ r.size ≤ (data.length : Int) - p
  · obtain ⟨hnonneg, hle⟩ := hfits
    obtain ⟨n, hn⟩ := Int.eq_ofNat_of_zero_le hnonneg
    have hlength : ((data.drop p).take n).length = n := by
      rw [List.length_take, List.length_drop]
      omega
    refine .inl ⟨r.reply ((data.drop p).take n), (data.drop p).take n,
      Request.reads_reply (by rw [hlength, hn]), by rw [hlength, hn], ?_, by omega, ?_⟩
    · rw [hlength, ← List.drop_drop, List.take_append_drop]
    · rw [Cursor.attempt_of_fits (Cursor.overrun_at h) hnonneg (by omega), hn, Int.toNat_natCast,
        hlength, Cursor.advance_at (by omega)]
      rfl
  · refine .inr ⟨by omega, ?_⟩
    rw [Cursor.attempt_of_short (by omega), Cursor.shortOf, Cursor.available, hleft,
      Cursor.overrun_at h]
    simp

/-- What can be said of one event of a session that starts at `offset` of `data`. -/
structure Event.Sound (data : Bytes) (offset : Nat) (e : Event) : Prop where
  start : offset ≤ e.before.position
  forward : e.before.position ≤ e.after.position
  stop : e.after.position ≤ data.length
  fails_iff : (∃ fault, e.outcome = .error fault) ↔
    e.request.size < 0 ∨ (data.length : Int) - e.before.position < e.request.size
  stays : ∀ fault, e.outcome = .error fault → e.after = e.before
  told : ∀ fault, e.outcome = .error fault → fault = .truncated e.before.subject e.request.size
    e.before.position (data.length - e.before.position)

theorem Event.Sound.mono {offset : Nat} {e : Event} (h : e.Sound data p) (hle : offset ≤ p) :
    e.Sound data offset :=
  { h with start := hle.trans h.start }

/-- The request and the reply of an event that is no failure. -/
def Event.success? (e : Event) : Option (Request × Reply) :=
  match e.outcome with
  | .ok reply => some (e.request, reply)
  | .error _ => none

/-- Events lead from position `p` to position `q`: each is sound, and what the successes read, put
together, is what lies between. -/
structure Leads (data : Bytes) (p : Nat) (events : List Event) (q : Nat) : Prop where
  forward : p ≤ q
  stop : q ≤ data.length
  sound : ∀ e ∈ events, e.Sound data p
  read : ∃ chunks, data.drop p = chunks.flatten ++ data.drop q ∧
    List.Forall₂ (fun (s : Request × Reply) chunk => s.1.Reads s.2 chunk)
      (events.filterMap Event.success?) chunks

theorem Leads.nil (h : p ≤ data.length) : Leads data p [] p :=
  ⟨le_rfl, h, by simp, [], rfl, .nil⟩

theorem Leads.success {reply : Reply} {chunk : Bytes} (hreads : r.Reads reply chunk)
    (hsize : (chunk.length : Int) = r.size)
    (hdrop : data.drop p = chunk ++ data.drop (p + chunk.length))
    (h : Leads data (p + chunk.length) events q) :
    Leads data p (⟨r, Cursor.at subject data p, .ok reply,
      Cursor.at subject data (p + chunk.length)⟩ :: events) q := by
  have hle : p + chunk.length ≤ data.length := h.forward.trans h.stop
  obtain ⟨chunks, hbehind, hchunks⟩ := h.read
  refine ⟨(Nat.le_add_right p _).trans h.forward, h.stop, List.forall_mem_cons.mpr ⟨?_, ?_⟩,
    chunk :: chunks, ?_, .cons hreads hchunks⟩
  · have hfits : ¬(r.size < 0 ∨ (data.length : Int) - p < r.size) := by omega
    exact ⟨le_rfl, Nat.le_add_right p _, hle, iff_of_false (by simp) hfits, nofun, nofun⟩
  · exact fun e he => (h.sound e he).mono (Nat.le_add_right p _)
  · rw [hdrop, hbehind, List.flatten_cons, List.append_assoc]

theorem Leads.failure (hshort : r.size < 0 ∨ (data.length : Int) - p < r.size)
    (h : Leads data p events q) :
    Leads data p (⟨r, Cursor.at subject data p,
      .error (.truncated subject r.size p (data.length - p)), Cursor.at subject data p⟩ :: events)
      q := by
  refine { h with sound := List.forall_mem_cons.mpr ⟨?_, h.sound⟩ }
  exact ⟨le_rfl, le_rfl, h.forward.trans h.stop, iff_of_true ⟨_, rfl⟩ hshort, fun _ _ => rfl,
    fun _ hfault => (Except.error.inj hfault).symm⟩

/-- A session leads from its start to where it stops. -/
theorem Cursor.session_at (subject : String) (h : p ≤ data.length) (requests : List Request) :
    ∃ events q, (Cursor.at subject data p).session requests = (events, Cursor.at subject data q) ∧
      events.map (·.request) = requests ∧ Leads data p events q := by
  induction requests generalizing p with
  | nil => exact ⟨[], p, rfl, rfl, .nil h⟩
  | cons r rest ih =>
      rcases Cursor.attempt_at subject h r with
        ⟨reply, chunk, hreads, hsize, hdrop, hle, hattempt⟩ | ⟨hshort, hattempt⟩
      · obtain ⟨events, q, hsession, hrequests, hlead⟩ := ih hle
        exact ⟨_, q, by rw [Cursor.session, hattempt, hsession], by rw [List.map_cons, hrequests],
          hlead.success hreads hsize hdrop⟩
      · obtain ⟨events, q, hsession, hrequests, hlead⟩ := ih h
        exact ⟨_, q, by rw [Cursor.session, hattempt, hsession], by rw [List.map_cons, hrequests],
          hlead.failure hshort⟩

theorem Leads.exists_chunks (h : Leads data p events q) :
    ∃ chunks, List.Forall₂ (fun (s : Request × Reply) chunk => s.1.Reads s.2 chunk)
        (events.filterMap Event.success?) chunks ∧
      (data.take q).drop p = chunks.flatten := by
  obtain ⟨chunks, hdrop, hchunks⟩ := h.read
  refine ⟨chunks, hchunks, ?_⟩
  have hlength : chunks.flatten.length = q - p := by
    have hlengths := congrArg List.length hdrop
    have hstop := h.stop
    rw [List.length_append, List.length_drop, List.length_drop] at hlengths
    omega
  rw [List.drop_take, hdrop, List.take_left' hlength]

end Session

/-- **Sessions are lossless, and a failure moves nothing.** A session of any requests at any offset
of the data records an event for each request. A request fails exactly if it asks for a negative
number of bytes or for more than are left; then the fault tells how many and where, and the cursor
stays as it was. No position lies before the offset or behind the end. What the successful requests
read, in order, is exactly what lies between the offset and the last position: digits of the numbers,
two's complement for signed ones, and the bytes that were returned or skipped. -/
theorem session_lossless (subject : String) (data : Bytes) (offset : Nat)
    (h : offset ≤ data.length) (requests : List Request) :
    ∃ events stop, (Cursor.at subject data offset).session requests = (events, stop) ∧
      events.map (·.request) = requests ∧
      (∀ e ∈ events, e.Sound data offset) ∧
      offset ≤ stop.position ∧ stop.position ≤ data.length ∧
      ∃ chunks, List.Forall₂ (fun (s : Request × Reply) chunk => s.1.Reads s.2 chunk)
          (events.filterMap Event.success?) chunks ∧
        (data.take stop.position).drop offset = chunks.flatten := by
  obtain ⟨events, q, hsession, hrequests, hlead⟩ :=
    Cursor.session_at subject h requests
  exact ⟨events, Cursor.at subject data q, hsession, hrequests, hlead.sound, hlead.forward,
    hlead.stop, hlead.exists_chunks⟩

def sampleBytes : Bytes := [0xCA, 0xFF, 0xFF, 0xFF, 0xFE, 0x01, 0x02, 0x03]

/-- Two of these fail behind the first byte: a negative read, and four bytes where one is left. -/
def sampleRequests : List Request := [.s4, .read (-1), .skip 2, .u4, .u1]

theorem session_lossless_sample :
    1 ≤ sampleBytes.length ∧
      ((Cursor.at "class record" sampleBytes 1).session sampleRequests).1.filterMap Event.success? =
        [(.s4, .number (-2)), (.skip 2, .nothing), (.u1, .number 3)] ∧
      ∃ chunks, List.Forall₂ (fun (s : Request × Reply) chunk => s.1.Reads s.2 chunk)
          [(.s4, .number (-2)), (.skip 2, .nothing), (.u1, .number 3)] chunks ∧
        [0xFF, 0xFF, 0xFF, 0xFE, 0x01, 0x02, 0x03] = chunks.flatten := by
  have hstart : 1 ≤ sampleBytes.length := by decide
  obtain ⟨events, stop, hsession, -, -, -, -, chunks, hchunks, hbytes⟩ :=
    session_lossless "class record" sampleBytes 1 hstart sampleRequests
  cases hsession
  exact ⟨hstart, rfl, chunks, hchunks, hbytes⟩

end ClassAtlas.ClassFile
