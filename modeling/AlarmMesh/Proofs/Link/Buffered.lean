import AlarmMesh.Proofs.Link.Splitting

/-!
# The flag of a reader

Whoever waits for a frame asks the reader first, which keeps a flag for that, and the stream only if
the flag is not set.  The flag is written in one place, where a run is split off the kept bytes.
Bytes are kept and thrown away elsewhere, so in the middle of a read it may be behind what is kept:
not set although a terminator came.  It is never ahead, and when a read returns it is right.

* `splitRun`, `takeRuns` — the loop that splits runs off until one is not empty, and
  `takeRuns_eq_takeFrame`;
* `NotAhead` — what the flag says in the middle of a read;
* `Tells`, `tells_readFrame` — what it says at each return;
* `frames_of_takeRuns`, `readFrame_of_frames` — the frames that are kept;
* `Informed`, `informed_afterReads` — what waits and reads find after any reads.
-/

namespace AlarmMesh.Link

/-- What a look at the stream says, without a reader. -/
def Arrival.poll : List Arrival → Except ChannelError Bool
  | [] => .error .endOfStream
  | .pause :: _ => .ok false
  | .bytes _ :: _ => .ok true

/-- The first run comes before those of the rest. -/
theorem frames_append_flag {run : List UInt8} (h : flag ∉ run) (rest : List UInt8) :
    frames (run ++ flag :: rest) = [run].filter (· ≠ []) ++ frames rest := by
  rw [frames, List.splitOn_append_cons_self_of_not_mem h,
    List.dropLast_cons_of_ne_nil (List.splitOn_ne_nil _ _), frames, ← List.filter_append]
  rfl

theorem frames_of_not_mem {bytes : List UInt8} (h : flag ∉ bytes) : frames bytes = [] := by
  simp [frames, List.splitOn_eq_singleton h]

/-- The first run ends where the first terminator is. -/
theorem takeWhile_append_flag {run : List UInt8} (h : flag ∉ run) (rest : List UInt8) :
    (run ++ flag :: rest).takeWhile (· != flag) = run := by
  have hall : ∀ b ∈ run, (b != flag) = true :=
    fun b hb => bne_iff_ne.2 fun heq => h (heq ▸ hb)
  rw [List.takeWhile_append_of_pos hall]
  simp

namespace StreamReader

variable {reader reader' : StreamReader} {run frame : List UInt8} {room : Nat}
  {arrivals : List Arrival}

/-! ### Run by run -/

/-- Split the first run off the kept bytes, and note whether they still hold a terminator. -/
def splitRun (reader : StreamReader) : Option (List UInt8 × StreamReader) :=
  if flag ∈ reader.pending then
    let run := reader.pending.takeWhile (· != flag)
    let rest := reader.pending.drop (run.length + 1)
    some (run, { pending := rest, buffered := rest.contains flag })
  else none

theorem splitRun_eq_none_iff : reader.splitRun = none ↔ flag ∉ reader.pending := by
  unfold splitRun
  split <;> simp_all

theorem pending_of_splitRun (h : reader.splitRun = some (run, reader')) :
    reader.pending = run ++ flag :: reader'.pending ∧ flag ∉ run ∧
      reader'.buffered = reader'.pending.contains flag := by
  unfold splitRun at h
  split at h
  · next hmem =>
    obtain ⟨before, rest, hsplit, hbefore⟩ := List.eq_append_cons_of_mem hmem
    have hleft : (before ++ flag :: rest).drop (before.length + 1) = rest := by simp
    rw [hsplit, takeWhile_append_flag hbefore] at h
    dsimp only at h
    rw [hleft] at h
    obtain ⟨rfl, rfl⟩ := Prod.mk.inj (Option.some.inj h)
    exact ⟨hsplit, hbefore, rfl⟩
  · cases h

theorem length_pending_of_splitRun (h : reader.splitRun = some (run, reader')) :
    reader'.pending.length < reader.pending.length := by
  rw [(pending_of_splitRun h).1, List.length_append, List.length_cons]
  omega

/-- Split runs off until one is not empty, or no terminator is left. -/
def takeRuns (reader : StreamReader) : Option (List UInt8) × StreamReader :=
  match _ : reader.splitRun with
  | none => (none, reader)
  | some (run, after) => if run = [] then takeRuns after else (some run, after)
  termination_by reader.pending.length
  decreasing_by exact length_pending_of_splitRun ‹_›

/-- Terminators at the front are left out. -/
theorem takeFrame_flag_cons (rest : List UInt8) (buffered : Bool) :
    takeFrame { pending := flag :: rest, buffered := buffered } =
      takeFrame { pending := rest, buffered := rest.contains flag } := by
  have hdrop : (flag :: rest).dropWhile (· == flag) = rest.dropWhile (· == flag) := by simp
  have hmem : (flag :: rest).contains flag = true := by simp
  unfold takeFrame
  dsimp only
  rw [if_pos hmem, hdrop]
  by_cases hrest : rest.contains flag = true
  · rw [if_pos hrest]
  · have hnot : flag ∉ rest := fun h => hrest (List.contains_iff_mem.2 h)
    have hsame : rest.dropWhile (· == flag) = rest := by
      cases rest with
      | nil => rfl
      | cons b rest =>
        have hb : ¬ b = flag := fun heq => hnot (heq ▸ List.mem_cons_self)
        simp [hb]
    rw [if_neg hrest, hsame, if_neg hrest, eq_false_of_ne_true hrest]

theorem takeFrame_of_run (h : reader.pending = run ++ flag :: reader'.pending) (hrun : flag ∉ run)
    (hne : run ≠ []) : reader.takeFrame =
      (some run, { pending := reader'.pending, buffered := reader'.pending.contains flag }) := by
  have hfront : reader.pending.dropWhile (· == flag) = run ++ flag :: reader'.pending := by
    cases run with
    | nil => exact absurd rfl hne
    | cons b run =>
      have hb : ¬ b = flag := fun heq => hrun (heq ▸ List.mem_cons_self)
      rw [h]
      simp [hb]
  have hleft : (run ++ flag :: reader'.pending).drop (run.length + 1) = reader'.pending := by simp
  have hmem : (run ++ flag :: reader'.pending).contains flag = true := by simp
  unfold takeFrame
  rw [hfront, h, if_pos hmem, if_pos hmem, takeWhile_append_flag hrun]
  dsimp only
  rw [hleft]

theorem takeRuns_eq_takeFrame (reader : StreamReader) : reader.takeRuns = reader.takeFrame := by
  fun_induction takeRuns reader with
  | case1 reader hnone =>
    have hnot : ¬ reader.pending.contains flag = true :=
      fun h => splitRun_eq_none_iff.1 hnone (List.contains_iff_mem.1 h)
    rw [takeFrame, if_neg hnot]
  | case2 reader after hsplit ih =>
    obtain ⟨hpending, -, hbuffered⟩ := pending_of_splitRun hsplit
    rw [ih]
    obtain ⟨bytes, buffered⟩ := reader
    obtain ⟨rest, buffered'⟩ := after
    dsimp only at hpending hbuffered
    rw [hpending, hbuffered]
    exact (takeFrame_flag_cons rest buffered).symm
  | case3 reader run after hsplit hne =>
    obtain ⟨hpending, hrun, hbuffered⟩ := pending_of_splitRun hsplit
    rw [takeFrame_of_run hpending hrun hne, ← hbuffered]

/-! ### The flag in the middle of a read and at its end -/

/-- The flag is not set unless a terminator is kept. -/
def NotAhead (reader : StreamReader) : Prop := reader.buffered = true → flag ∈ reader.pending

/-- The flag is set exactly when a terminator is kept. -/
def Tells (reader : StreamReader) : Prop := reader.buffered = true ↔ flag ∈ reader.pending

theorem tells_empty : Tells {} := by simp [Tells]

theorem tells_of_splitRun (h : reader.splitRun = some (run, reader')) : reader'.Tells := by
  unfold Tells
  rw [(pending_of_splitRun h).2.2, List.contains_iff_mem]

/-- A frame is taken, or no terminator is left; then the flag is right. -/
theorem tells_takeRuns (h : reader.NotAhead) : reader.takeRuns.2.Tells := by
  fun_induction takeRuns reader with
  | case1 reader hnone =>
    have hnot := splitRun_eq_none_iff.1 hnone
    exact ⟨h, fun hmem => absurd hmem hnot⟩
  | case2 reader after hsplit ih => exact ih (tells_of_splitRun hsplit).1
  | case3 reader run after hsplit hne => exact tells_of_splitRun hsplit

theorem flag_not_mem_of_takeRuns (h : reader.takeRuns = (none, reader')) :
    flag ∉ reader'.pending := by
  fun_induction takeRuns reader with
  | case1 reader hnone =>
    obtain rfl := (Prod.mk.inj h).2
    exact splitRun_eq_none_iff.1 hnone
  | case2 reader after hsplit ih => exact ih h
  | case3 reader run after hsplit hne => cases h

/-- Bytes without a terminator may be thrown away. -/
theorem tells_resynchronised (h : reader.Tells) (hflag : flag ∉ reader.pending) :
    reader.resynchronised.Tells := by
  unfold resynchronised
  split
  · have hunset : reader.buffered ≠ true := fun hset => hflag (h.1 hset)
    exact ⟨fun hset => absurd hset hunset, fun hmem => absurd hmem List.not_mem_nil⟩
  · exact h

theorem tells_of_taken (h : reader.NotAhead)
    (htaken : reader.takeFrame = (some frame, reader')) : reader'.Tells := by
  have htells := tells_takeRuns h
  rw [takeRuns_eq_takeFrame, htaken] at htells
  exact htells

theorem tells_of_not_taken (h : reader.NotAhead) (htaken : reader.takeFrame = (none, reader')) :
    reader'.resynchronised.Tells := by
  have htells := tells_takeRuns h
  rw [takeRuns_eq_takeFrame, htaken] at htells
  rw [← takeRuns_eq_takeFrame] at htaken
  exact tells_resynchronised htells (flag_not_mem_of_takeRuns htaken)

/-- With more bytes the flag may be behind. -/
theorem notAhead_append (h : reader.NotAhead) (piece : List UInt8) :
    NotAhead { reader with pending := reader.pending ++ piece } :=
  fun hset => List.mem_append_left _ (h hset)

/-- Whatever a read returns, the flag is right then. -/
theorem tells_readFrame (h : reader.NotAhead) (room : Nat) (arrivals : List Arrival) :
    (readFrame room reader arrivals).2.1.Tells := by
  -- a read takes pieces until one of them ends a run, and splits runs off before each of them
  induction arrivals generalizing reader with
  | nil =>
    rcases htaken : reader.takeFrame with ⟨_ | frame, reader'⟩
    · unfold readFrame
      rw [htaken]
      exact tells_of_not_taken h htaken
    · rw [readFrame_of_taken room htaken]
      exact tells_of_taken h htaken
  | cons arrival rest ih =>
    rcases htaken : reader.takeFrame with ⟨_ | frame, reader'⟩
    · have hkept := tells_of_not_taken h htaken
      unfold readFrame
      rw [htaken]
      cases arrival with
      | pause => exact hkept
      | bytes piece => exact ih (notAhead_append hkept.1 piece)
    · rw [readFrame_of_taken room htaken]
      exact tells_of_taken h htaken

/-! ### Frames that are kept -/

theorem frames_of_takeRuns (reader : StreamReader) :
    frames reader.pending = reader.takeRuns.1.toList ++ frames reader.takeRuns.2.pending := by
  fun_induction takeRuns reader with
  | case1 => rfl
  | case2 reader after hsplit ih =>
    obtain ⟨hpending, hrun, -⟩ := pending_of_splitRun hsplit
    rw [hpending, frames_append_flag hrun, ← ih]
    rfl
  | case3 reader run after hsplit hne =>
    obtain ⟨hpending, hrun, -⟩ := pending_of_splitRun hsplit
    rw [hpending, frames_append_flag hrun]
    simp [hne]

/-- A frame that is kept whole is given by the next read, which takes nothing from the stream. -/
theorem readFrame_of_frames {later : List (List UInt8)} (h : frames reader.pending = frame :: later)
    (room : Nat) (arrivals : List Arrival) : ∃ reader',
      readFrame room reader arrivals = (answerOf room frame, reader', arrivals) ∧
        frames reader'.pending = later := by
  have hframes := reader.frames_of_takeRuns
  rcases htaken : reader.takeRuns with ⟨_ | first, reader'⟩
  · rw [htaken, h, frames_of_not_mem (flag_not_mem_of_takeRuns htaken)] at hframes
    cases hframes
  · rw [htaken, h] at hframes
    obtain ⟨rfl, hlater⟩ := List.cons.inj hframes
    rw [takeRuns_eq_takeFrame] at htaken
    exact ⟨reader', readFrame_of_taken room htaken, hlater.symm⟩

/-! ### All reads -/

/-- The reader, and the arrivals that are left, after reads into buffers of these sizes. -/
def afterReads (reader : StreamReader) (arrivals : List Arrival) :
    List Nat → StreamReader × List Arrival
  | [] => (reader, arrivals)
  | room :: rooms =>
    let read := readFrame room reader arrivals
    afterReads read.2.1 read.2.2 rooms

theorem tells_afterReads (h : reader.Tells) (arrivals : List Arrival) (rooms : List Nat) :
    (reader.afterReads arrivals rooms).1.Tells := by
  induction rooms generalizing reader arrivals with
  | nil => exact h
  | cons room rooms ih => exact ih (tells_readFrame h.1 room arrivals) _

/-- What waits and reads find at a reader. -/
structure Informed (reader : StreamReader) : Prop where
  /-- The flag is set exactly when a terminator is kept. -/
  tells : reader.buffered = true ↔ flag ∈ reader.pending
  /-- A wait does not look at the stream while one is kept. -/
  ready : flag ∈ reader.pending → ∀ arrivals, reader.ready arrivals = .ok true
  /-- Otherwise it does. -/
  polls : flag ∉ reader.pending → ∀ arrivals, reader.ready arrivals = Arrival.poll arrivals
  /-- While a frame is kept whole, a wait is over at once, and the next read gives the frame and
  takes nothing from the stream. -/
  gives : ∀ frame later, frames reader.pending = frame :: later → ∀ room arrivals,
    reader.ready arrivals = .ok true ∧ ∃ reader',
      readFrame room reader arrivals = (answerOf room frame, reader', arrivals) ∧
        frames reader'.pending = later

theorem Tells.informed (h : reader.Tells) : reader.Informed where
  tells := h
  ready hmem arrivals := if_pos (h.2 hmem)
  polls hnot arrivals := by
    have hunset : ¬ reader.buffered = true := fun hset => hnot (h.1 hset)
    unfold StreamReader.ready
    rw [if_neg hunset]
    unfold Arrival.poll
    rfl
  gives frame later hframes room arrivals := by
    have hmem : flag ∈ reader.pending := by
      by_contra hnot
      rw [frames_of_not_mem hnot] at hframes
      cases hframes
    exact ⟨if_pos (h.2 hmem), readFrame_of_frames hframes room arrivals⟩

/-- No complete frame is stranded: whatever a stream brings, and into whatever buffers it is read,
after each read the flag of the reader is right. -/
theorem informed_afterReads (arrivals : List Arrival) (rooms : List Nat) :
    (afterReads {} arrivals rooms).1.Informed :=
  (tells_afterReads tells_empty arrivals rooms).informed

end StreamReader

end AlarmMesh.Link
