import Mjpeg.Proofs.Reading

/-!
# Reading a captured body to its end

A body that was captured lies in one piece before its reader, which takes `readSize` bytes of it at
a time. `readAll` asks a reader for frames until it answers an error, and lists what it comes
across, frames and malformed segments, in order.

How far a captured body is read depends on its first bytes only. The reader stops at the first read
behind which too much is left, and else at the end of the body (`IsRead`, `readAll_start_isRead`).
What it comes across are the segments of the bytes it has read, so a body that goes on begins with
what was come across before (`found_readAll_append`).
-/

namespace Mjpeg.Reader

open Bytes Decoder

/-! ### Reading to the end -/

/-- What a reader comes across until it answers an error, and that error. -/
structure Reading where
  found : List Find
  error : FrameError

/-- The frames that were answered before the error. -/
def Reading.frames (g : Reading) : List Frame := g.found.filterMap Find.frame?

/-- Asks a reader for frames until it answers an error. -/
def readAll (r : Reader) : Reading :=
  match h : r.readFrame with
  | { skipped, outcome := .error e, .. } => ⟨skipped.map .malformed, e⟩
  | { reader := rest, skipped, outcome := .ok frame } =>
    have : rest.weight < r.weight := by
      have lt := weight_readFrame_lt (r := r) (by rw [h])
      rwa [h] at lt
    let later := rest.readAll
    { later with found := skipped.map .malformed ++ .frame frame :: later.found }
termination_by r.weight

theorem readAll_of_error {r rest : Reader} {skipped : List Nat} {e : FrameError}
    (h : r.readFrame = ⟨rest, skipped, .error e⟩) :
    r.readAll = ⟨skipped.map .malformed, e⟩ := by
  rw [readAll]
  split <;> rename_i heq <;> cases h.symm.trans heq
  rfl

theorem readAll_of_ok {r rest : Reader} {skipped : List Nat} {frame : Frame}
    (h : r.readFrame = ⟨rest, skipped, .ok frame⟩) :
    r.readAll = ⟨skipped.map .malformed ++ .frame frame :: rest.readAll.found,
      rest.readAll.error⟩ := by
  rw [readAll]
  split <;> rename_i heq <;> cases h.symm.trans heq
  rfl

/-! ### A captured body -/

variable {b : Boundary} {maxBuffer n : Nat} {body left : Bytes} {found : List Find}
  {source : List ReadEvent} {r : Reader}

/-- The source is what is left of a body that lies in one piece. -/
def Captured (source : List ReadEvent) (left : Bytes) : Prop :=
  source = [.data left] ∨ source = [] ∧ left = []

/-- One read takes as many bytes as it asks for, or all that are left. -/
theorem Captured.readSource (h : Captured source left) :
    ∃ rest, readSource source = (.ok (left.take readSize), rest) ∧
      Captured rest (left.drop readSize) := by
  rcases h with rfl | ⟨rfl, rfl⟩
  · rw [Reader.readSource]
    split
    · rename_i hdrop
      refine ⟨[], ?_, Or.inr ⟨rfl, hdrop⟩⟩
      rw [List.take_of_length_le (List.drop_eq_nil_iff.mp hdrop)]
    · rename_i byte rest hdrop
      exact ⟨_, rfl, Or.inl (by rw [hdrop])⟩
  · exact ⟨[], rfl, Or.inr ⟨rfl, rfl⟩⟩

/-- The bytes that so many reads take. -/
def taken (body : Bytes) (n : Nat) : Bytes := body.take (n * readSize)

theorem taken_succ (body : Bytes) (n : Nat) :
    taken body (n + 1) = taken body n ++ (body.drop (n * readSize)).take readSize := by
  rw [taken, taken, Nat.succ_mul, List.take_add]

/-- What a body comes to when it is read: `n` reads were made and took its first bytes. Before the
last of them no more was left behind a delimiter than may be; behind it too much is, or else
nothing follows. -/
structure IsRead (b : Boundary) (maxBuffer : Nat) (body : Bytes) (n : Nat) (g : Reading) :
    Prop where
  found : g.found = (Body.segments b (taken body n)).filterMap Find.ofSegment?
  within : ∀ j < n, (Body.remainder b (taken body j)).length ≤ maxBuffer
  ending :
    ((Body.remainder b (taken body n)).length ≤ maxBuffer ∧ taken body n = body ∧
      g.error = .connectionClosed) ∨
    (maxBuffer < (Body.remainder b (taken body n)).length ∧
      g.error = .bufferOverflow (Body.remainder b (taken body n)).length maxBuffer)

/-- A reader of a captured body that has made `n` reads and come across what it has passed. -/
structure Stands (b : Boundary) (maxBuffer : Nat) (body : Bytes) (n : Nat) (found : List Find)
    (r : Reader) : Prop where
  marked : r.decoder.Marked
  passes : ∃ passed, Passes ((Decoder.start b maxBuffer).push (taken body n)) passed r.decoder ∧
    found = passed.filterMap Find.ofSegment?
  source : Captured r.source (body.drop (n * readSize))
  within : ∀ j < n, (Body.remainder b (taken body j)).length ≤ maxBuffer

theorem stands_start (b : Boundary) (maxBuffer : Nat) (body : Bytes) :
    Stands b maxBuffer body 0 [] (start b maxBuffer [.data body]) where
  marked := marked_of_scanned_eq_zero rfl
  passes := by
    refine ⟨[], ?_, rfl⟩
    rw [taken, Nat.zero_mul, List.take_zero, push_nil]
    exact Passes.refl _
  source := by
    rw [Nat.zero_mul, List.drop_zero]
    exact Or.inl rfl
  within := fun j hj => absurd hj (Nat.not_lt_zero j)

/-- Asking the decoder comes across some more. If that is no frame, it is all that the bytes read
hold, and what is left is held against the limit. -/
theorem Stands.asked (h : Stands b maxBuffer body n found r) :
    Stands b maxBuffer body n (found ++ r.decoder.nextFrame.found)
        { r with decoder := r.decoder.nextFrame.decoder } ∧
      ((∃ frame, r.decoder.nextFrame.outcome = .ok (some frame)) ∨
        found ++ r.decoder.nextFrame.found =
            (Body.segments b (taken body n)).filterMap Find.ofSegment? ∧
          r.decoder.nextFrame.outcome =
            heldAgainst maxBuffer (Body.remainder b (taken body n)).length) := by
  obtain ⟨passed, hpasses, rfl⟩ := h.passes
  obtain ⟨here, hreads⟩ := nextFrame_reads h.marked
  have hall := hpasses.trans hreads.passes
  have hfound : passed.filterMap Find.ofSegment? ++ r.decoder.nextFrame.found =
      (passed ++ here).filterMap Find.ofSegment? := by
    rw [hreads.found, List.filterMap_append]
  refine ⟨⟨hreads.marked, ⟨passed ++ here, hall, hfound⟩, h.source, h.within⟩, ?_⟩
  rcases hreads.outcome with hframe | ⟨hclear, hheld⟩
  · exact Or.inl hframe
  · -- no delimiter is left, so the segments passed are those of the bytes read
    rw [hpasses.boundary] at hclear
    obtain ⟨hsegments, hremainder⟩ := hall.segments_eq
    obtain ⟨hnil, hrest⟩ := Body.segments_eq_nil_of_forall_not_occurs (b := b) hclear
    rw [pending_push, pending_start, List.nil_append] at hsegments hremainder
    change Body.segments b (taken body n) = _ ++ Body.segments b _ at hsegments
    change Body.remainder b (taken body n) = Body.remainder b _ at hremainder
    rw [hnil, List.append_nil] at hsegments
    rw [hrest] at hremainder
    refine Or.inr ⟨?_, ?_⟩
    · rw [hfound, hsegments]
    · rw [hheld, hremainder]
      exact congrArg (heldAgainst · _) hpasses.maxBuffer

/-- A decoder that answers neither a frame nor the limit leaves no more than may be left. -/
theorem le_of_heldAgainst {size : Nat} (h : heldAgainst maxBuffer size = .ok none) :
    size ≤ maxBuffer := by
  rw [heldAgainst] at h
  split at h
  · exact absurd h (by simp)
  · omega

theorem eq_of_heldAgainst {size : Nat} {e : FrameError}
    (h : heldAgainst maxBuffer size = .error e) :
    maxBuffer < size ∧ e = .bufferOverflow size maxBuffer := by
  rw [heldAgainst] at h
  split at h
  · rename_i hgt
    exact ⟨hgt, (Except.error.inj h).symm⟩
  · exact absurd h (by simp)

/-- The decoder has been asked in vain, so the source is to be read. -/
theorem Stands.asked_in_vain (h : Stands b maxBuffer body n found r)
    (hnext : r.decoder.nextFrame.outcome = .ok none) :
    Stands b maxBuffer body n (found ++ r.decoder.nextFrame.skipped.map .malformed)
        { r with decoder := r.decoder.nextFrame.decoder } ∧
      found ++ r.decoder.nextFrame.skipped.map .malformed =
        (Body.segments b (taken body n)).filterMap Find.ofSegment? ∧
      (Body.remainder b (taken body n)).length ≤ maxBuffer := by
  have hfound : r.decoder.nextFrame.found = r.decoder.nextFrame.skipped.map .malformed := by
    rw [Decoder.Pull.found, hnext]
    exact List.append_nil _
  obtain ⟨hstands, houtcome⟩ := h.asked
  rw [hfound, hnext] at houtcome
  rw [hfound] at hstands
  rcases houtcome with ⟨frame, hframe⟩ | ⟨hall, hheld⟩
  · exact absurd hframe (by simp)
  · exact ⟨hstands, hall, le_of_heldAgainst hheld.symm⟩

/-- What was read is fed. -/
theorem Stands.push (h : Stands b maxBuffer body n found r)
    (hle : (Body.remainder b (taken body n)).length ≤ maxBuffer)
    (hsource : Captured source ((body.drop (n * readSize)).drop readSize)) (reads : Nat) :
    Stands b maxBuffer body (n + 1) found
      ⟨r.decoder.push ((body.drop (n * readSize)).take readSize), source, reads⟩ where
  marked := h.marked.push _
  passes := by
    obtain ⟨passed, hpasses, hfound⟩ := h.passes
    refine ⟨passed, ?_, hfound⟩
    rw [taken_succ, ← push_push]
    exact hpasses.push _
  source := by rwa [Nat.succ_mul, ← List.drop_drop]
  within := fun j hj => (Nat.lt_succ_iff_lt_or_eq.mp hj).elim (h.within j) fun heq => heq ▸ hle

/-- **One call on a captured body**: it comes across some malformed segments and a frame, or else
the body is read. -/
theorem readFrame_stands (r : Reader) : ∀ n found, Stands b maxBuffer body n found r →
    ∃ m, (∃ frame, r.readFrame.outcome = .ok frame ∧
        Stands b maxBuffer body m
          (found ++ (r.readFrame.skipped.map .malformed ++ [.frame frame])) r.readFrame.reader) ∨
      ∃ e, r.readFrame.outcome = .error e ∧
        IsRead b maxBuffer body m ⟨found ++ r.readFrame.skipped.map .malformed, e⟩ := by
  fun_induction readFrame r with
  | case1 r decoder skipped e hnext =>
    intro n found h
    obtain ⟨-, houtcome⟩ := h.asked
    rw [hnext, Decoder.Pull.found] at houtcome
    rcases houtcome with ⟨frame, hframe⟩ | ⟨hall, hheld⟩
    · exact absurd hframe (by simp)
    · have hfound : found ++ skipped.map .malformed = _ :=
        (congrArg (found ++ ·) (List.append_nil _)).symm.trans hall
      exact ⟨n, Or.inr ⟨e, rfl, hfound, h.within, Or.inr (eq_of_heldAgainst hheld.symm)⟩⟩
  | case2 r decoder skipped frame hnext =>
    intro n found h
    obtain ⟨hstands, -⟩ := h.asked
    rw [hnext, Decoder.Pull.found] at hstands
    exact ⟨n, Or.inl ⟨frame, rfl, hstands⟩⟩
  | case3 r decoder skipped hnext e source hread hlt after hkind pull ih =>
    intro n found h
    obtain ⟨rest, hread', -⟩ := h.source.readSource
    exact absurd (hread.symm.trans hread') (by simp)
  | case4 r decoder skipped hnext e source hread hlt after hkind =>
    intro n found h
    obtain ⟨rest, hread', -⟩ := h.source.readSource
    exact absurd (hread.symm.trans hread') (by simp)
  | case5 r decoder skipped hnext source hread =>
    intro n found h
    obtain ⟨-, hall, hle⟩ := h.asked_in_vain (by rw [hnext])
    rw [hnext] at hall
    obtain ⟨rest, hread', -⟩ := h.source.readSource
    -- nothing is read when nothing is left
    have hnil : (body.drop (n * readSize)).take readSize = [] :=
      Except.ok.inj (Prod.mk.inj (hread'.symm.trans hread)).1
    have hdrop : body.drop (n * readSize) = [] :=
      (List.take_eq_nil_iff.mp hnil).resolve_left (by decide)
    have hbody : taken body n = body := List.take_of_length_le (List.drop_eq_nil_iff.mp hdrop)
    exact ⟨n, Or.inr ⟨_, rfl, hall, h.within, Or.inl ⟨hle, hbody, rfl⟩⟩⟩
  | case6 r decoder skipped hnext byte bytes source hread hlt after pull ih =>
    intro n found h
    obtain ⟨hstands, -, hle⟩ := h.asked_in_vain (by rw [hnext])
    rw [hnext] at hstands
    obtain ⟨rest, hread', hrest⟩ := h.source.readSource
    obtain ⟨hbytes, rfl⟩ := Prod.mk.inj (hread'.symm.trans hread)
    have hpush := hstands.push hle hrest (r.reads + 1)
    rw [Except.ok.inj hbytes] at hpush
    obtain ⟨m, hcall⟩ := ih (n + 1) (found ++ skipped.map .malformed) hpush
    refine ⟨m, ?_⟩
    dsimp only
    rw [List.map_append]
    simpa only [List.append_assoc] using hcall

/-- **Asking until the end reads the body.** -/
theorem readAll_isRead (r : Reader) : ∀ n found, Stands b maxBuffer body n found r →
    ∃ m, IsRead b maxBuffer body m ⟨found ++ r.readAll.found, r.readAll.error⟩ := by
  fun_induction readAll r with
  | case1 r rest skipped e hcall =>
    intro n found h
    obtain ⟨m, ⟨frame, hframe, -⟩ | ⟨e', he, hread⟩⟩ := readFrame_stands r n found h
    · exact absurd (hcall ▸ hframe) (by simp)
    · rw [hcall] at he hread
      obtain rfl := Except.error.inj he
      exact ⟨m, hread⟩
  | case2 r rest skipped frame hcall hlt later ih =>
    intro n found h
    obtain ⟨m, ⟨frame', hframe, hstands⟩ | ⟨e, he, -⟩⟩ := readFrame_stands r n found h
    · rw [hcall] at hframe hstands
      obtain rfl := Except.ok.inj hframe
      obtain ⟨k, hread⟩ := ih m _ hstands
      refine ⟨k, ?_⟩
      simpa only [List.append_assoc, List.singleton_append] using hread
    · exact absurd (hcall ▸ he) (by simp)

/-- **What reading a captured body comes to.** -/
theorem readAll_start_isRead (b : Boundary) (maxBuffer : Nat) (body : Bytes) :
    ∃ n, IsRead b maxBuffer body n (start b maxBuffer [.data body]).readAll := by
  obtain ⟨n, hread⟩ := readAll_isRead _ 0 [] (stands_start b maxBuffer body)
  exact ⟨n, hread⟩

namespace IsRead

variable {g g' : Reading} {m : Nat} {more : Bytes}

/-- The frames answered are those of the bytes read. -/
theorem frames_eq (h : IsRead b maxBuffer body n g) :
    g.frames = Body.frames b (taken body n) := by
  rw [Reading.frames, h.found, filterMap_ofSegment?_frame?]
  rfl

/-- A body that was read to its end has had all its frames answered. -/
theorem frames_eq_of_closed (h : IsRead b maxBuffer body n g)
    (hclosed : g.error = .connectionClosed) : g.frames = Body.frames b body := by
  rcases h.ending with ⟨-, hbody, -⟩ | ⟨-, hlimit⟩
  · rw [h.frames_eq, hbody]
  · exact absurd (hclosed.symm.trans hlimit) (by simp)

/-- The only errors are the end of the body and the limit. -/
theorem error_eq (h : IsRead b maxBuffer body n g) :
    g.error = .connectionClosed ∨ ∃ size, g.error = .bufferOverflow size maxBuffer := by
  rcases h.ending with ⟨-, -, hclosed⟩ | ⟨-, hlimit⟩
  · exact Or.inl hclosed
  · exact Or.inr ⟨_, hlimit⟩

/-- A body within the limit is read to its end. -/
theorem closed_of_length_le (h : IsRead b maxBuffer body n g) (hle : body.length ≤ maxBuffer) :
    g.error = .connectionClosed := by
  rcases h.ending with ⟨-, -, hclosed⟩ | ⟨hlimit, -⟩
  · exact hclosed
  · have hrest := Body.length_remainder_le b (taken body n)
    have htaken : (taken body n).length ≤ body.length := List.length_take_le' _ _
    omega

/-- A body that goes on is read at least as far. -/
theorem taken_isPrefix (h : IsRead b maxBuffer body n g)
    (h' : IsRead b maxBuffer (body ++ more) m g') :
    taken body n <+: taken (body ++ more) m := by
  have hwhole : taken body n <+: body ++ more :=
    (List.take_prefix _ _).trans (List.prefix_append _ _)
  refine List.prefix_of_prefix_length_le hwhole (List.take_prefix _ _) ?_
  -- while whole reads are taken from the body, it makes no difference that it goes on
  have hsame : ∀ j, j * readSize ≤ body.length → taken (body ++ more) j = taken body j :=
    fun j hj => List.take_append_of_le_length hj
  by_cases hle : n ≤ m
  · have hmul := Nat.mul_le_mul_right readSize hle
    rw [taken, taken, List.length_take, List.length_take, List.length_append]
    omega
  · rcases h'.ending with ⟨-, hall, -⟩ | ⟨hlimit, -⟩
    · rw [hall]
      exact hwhole.length_le
    · -- the limit, when it was passed so early, would have been passed in the body too
      by_cases hm : m * readSize ≤ body.length
      · rw [hsame m hm] at hlimit
        exact absurd (h.within m (Nat.lt_of_not_le hle)) (Nat.not_le_of_lt hlimit)
      · rw [taken, taken, List.length_take, List.length_take, List.length_append]
        omega

end IsRead

/-- **A body that goes on begins with what was come across before.** -/
theorem found_readAll_append (b : Boundary) (maxBuffer : Nat) (body more : Bytes) :
    (start b maxBuffer [.data body]).readAll.found <+:
      (start b maxBuffer [.data (body ++ more)]).readAll.found := by
  obtain ⟨n, hread⟩ := readAll_start_isRead b maxBuffer body
  obtain ⟨m, hread'⟩ := readAll_start_isRead b maxBuffer (body ++ more)
  obtain ⟨rest, hrest⟩ := hread.taken_isPrefix hread'
  rw [hread.found, hread'.found, ← hrest, (Body.segments_append b _ rest).1, List.filterMap_append]
  exact List.prefix_append _ _

/-! ### The first read -/

/-- The decoder of a reader whose first read took these bytes and whose first call answered this
frame. -/
def HasAnswered (b : Boundary) (maxBuffer : Nat) (bytes : Bytes) (frame : Frame) (d : Decoder) :
    Prop :=
  Follows b maxBuffer [.read (.ok bytes), .answered (some (.ok frame))] d

/-- **A frame among the bytes of the first read is answered before the next read.** -/
theorem readFrame_start {frame : Frame} {frames : List Frame}
    (hframes : Body.frames b (taken body 1) = frame :: frames) :
    let p := (start b maxBuffer [.data body]).readFrame
    p.outcome = .ok frame ∧ HasAnswered b maxBuffer (taken body 1) frame p.reader.decoder := by
  have hnil : Body.frames b [] = [] := by
    rw [Body.frames, (Body.segments_eq_nil_of_forall_not_occurs (not_occurs_nil b)).1]
    rfl
  have hrest : (Body.remainder b []).length ≤ maxBuffer := by
    rw [(Body.segments_eq_nil_of_forall_not_occurs (not_occurs_nil b)).2]
    exact Nat.zero_le _
  -- nothing has been read, so the source is read first
  have hstart := follows_start b maxBuffer
  have hnext : (Decoder.start b maxBuffer).nextFrame.outcome = .ok none :=
    hstart.nextFrame_of_complete hnil.symm hrest
  have hcaptured : Captured [.data body] body := Or.inl rfl
  obtain ⟨rest, hread, -⟩ := hcaptured.readSource
  have htaken : body.take readSize = taken body 1 := by rw [taken, Nat.one_mul]
  obtain ⟨byte, bytes, hbytes⟩ : ∃ byte bytes, taken body 1 = byte :: bytes := by
    refine List.exists_cons_of_ne_nil fun hempty => ?_
    rw [hempty, hnil] at hframes
    exact absurd hframes (by simp)
  rw [htaken] at hread
  have hturn := readFrame_of_read (r := start b maxBuffer [.data body]) hnext hread
  rw [hbytes] at hturn
  -- then the frame is found in what was read
  have hfollows := (hstart.asked (by rw [hnext]; rfl)).1.read (taken body 1)
  have hread' : bytesRead ([] ++ [.read (.ok (taken body 1))]) = taken body 1 := by
    rw [bytesRead_concat]
    rfl
  have hleft : Body.frames b (bytesRead ([] ++ [.read (.ok (taken body 1))])) =
      framesAnswered ([] ++ [.read (.ok (taken body 1))]) ++ frame :: frames := by
    rw [hread', hframes]
    rfl
  have hfound := hfollows.nextFrame_of_frames hleft
  rw [hbytes] at hfollows hfound
  have hsame := hturn.trans (readFrame_of_frame
    (r := mk ((Decoder.start b maxBuffer).nextFrame.decoder.push (byte :: bytes)) rest 1) hfound)
  refine ⟨hsame.outcome, ?_⟩
  rw [HasAnswered, hbytes, hsame.decoder]
  exact (hfollows.answered_frame hfound).2

/-- A reader that has answered all frames of the bytes read, and has nothing more to read, answers
the end. -/
theorem readFrame_of_nil {bytes : Bytes} {frame : Frame} {d : Decoder}
    (h : HasAnswered b maxBuffer bytes frame d) (hframes : Body.frames b bytes = [frame])
    (hle : (Body.remainder b bytes).length ≤ maxBuffer) (reads : Nat) :
    (mk d [] reads).readFrame.outcome = .error .connectionClosed := by
  have hbytes : bytesRead [.read (.ok bytes), .answered (some (.ok frame))] = bytes := by
    simp [bytesRead, Event.bytes]
  have hnext : d.nextFrame.outcome = .ok none :=
    Follows.nextFrame_of_complete h (by rw [Complete, hbytes, hframes]; rfl) (by rwa [hbytes])
  exact (readFrame_of_read (r := mk d [] reads) hnext rfl).outcome

end Mjpeg.Reader
