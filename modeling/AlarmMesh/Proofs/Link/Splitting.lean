import AlarmMesh.Link.Stream
import Mathlib.Data.List.Basic
import Mathlib.Data.List.Induction
import Mathlib.Data.List.ReduceOption

/-!
# The runs of a stream

A terminator ends a run, and a stream is cut into runs by its terminators.  The reader gets the
bytes in pieces, with pauses in between, and gives one answer for each run that is not empty.  What
it gives depends on the pieces in one way only: when a read begins while more bytes of a run are
kept than `maxUnterminated`, they are thrown away, and the run goes on without them.

So the bytes are told apart by runs, and in each run it is marked where a read began.

* `Arrival.stream`, `Arrival.marked` — the bytes that arrive, without and with these marks;
* `salvaged run` — what is left of a marked run; `salvaged_suffix` and `salvaged_eq_iff` say how
  much that is, and `recovered marks` is what is left of all the runs that end;
* `StreamReader.answers` — what the reads give, pauses left out;
* `StreamReader.Reads` — one read, by its three outcomes, and `answers_eq` — all of them;
* `answers_of_short_runs` — runs that are short enough are all given, and whole;
* `Salvages`, `salvages` — of any run its end is given, and it is said when that is all of it.
-/

namespace AlarmMesh.Link

open StreamReader (maxUnterminated)

namespace Arrival

/-- The bytes that arrive. -/
def stream : List Arrival → List UInt8
  | [] => []
  | .bytes piece :: rest => piece ++ stream rest
  | .pause :: rest => stream rest

/-- The bytes that arrive, with a mark wherever a read begins that brings some. -/
def marked : List Arrival → List (Option UInt8)
  | [] => []
  | .bytes piece :: rest => none :: (piece.map some ++ marked rest)
  | .pause :: rest => marked rest

/-- How many reads find nothing. -/
def pauses (arrivals : List Arrival) : Nat := arrivals.count .pause

/-- The marks apart, these are the bytes. -/
theorem reduceOption_marked (arrivals : List Arrival) :
    (marked arrivals).reduceOption = stream arrivals := by
  induction arrivals with
  | nil => rfl
  | cons arrival rest ih =>
    cases arrival with
    | pause => exact ih
    | bytes piece =>
      have hpiece : (piece.map some).reduceOption = piece := by
        simp [List.reduceOption, List.filterMap_map]
      rw [marked, stream, List.reduceOption_cons_of_none, List.reduceOption_append, hpiece, ih]

/-- Nothing arrives, or a read begins. -/
theorem marked_cases (arrivals : List Arrival) :
    marked arrivals = [] ∨ ∃ marks, marked arrivals = none :: marks := by
  induction arrivals with
  | nil => exact .inl rfl
  | cons arrival rest ih =>
    cases arrival with
    | pause => exact ih
    | bytes piece => exact .inr ⟨_, rfl⟩

end Arrival

/-- The runs that a terminator ends, those left out that are empty. -/
def frames (stream : List UInt8) : List (List UInt8) :=
  (stream.splitOn flag).dropLast.filter (· ≠ [])

/-! ### What is left of a run -/

/-- The kept bytes of a run after one more byte, or after the mark of a read. -/
def keep (kept : List UInt8) : Option UInt8 → List UInt8
  | some b => kept ++ [b]
  | none => if maxUnterminated < kept.length then [] else kept

/-- What is kept of a run at its end. -/
def salvaged (run : List (Option UInt8)) : List UInt8 := run.foldl keep []

/-- What is left of the runs that a terminator ends, unless it is nothing. -/
def recovered (marks : List (Option UInt8)) : List (List UInt8) :=
  ((marks.splitOn (some flag)).dropLast.map salvaged).filter (· ≠ [])

section Salvage

variable {run a b marks : List (Option UInt8)}

theorem salvaged_append (a b : List (Option UInt8)) :
    salvaged (a ++ b) = b.foldl keep (salvaged a) := List.foldl_append

theorem foldl_keep_map_some (kept bytes : List UInt8) :
    (bytes.map some).foldl keep kept = kept ++ bytes := by
  induction bytes generalizing kept with
  | nil => simp
  | cons b bytes ih => simp [keep, ih]

theorem salvaged_map_some (bytes : List UInt8) : salvaged (bytes.map some) = bytes :=
  foldl_keep_map_some [] bytes

/-- What is left of a run is its end, and if that is not all of it then more was thrown away than is
kept without a terminator. -/
theorem salvaged_suffix (run : List (Option UInt8)) :
    ∃ lost, run.reduceOption = lost ++ salvaged run ∧
      (lost = [] ∨ maxUnterminated < lost.length) := by
  induction run using List.reverseRecOn with
  | nil => exact ⟨[], rfl, .inl rfl⟩
  | append_singleton run mark ih =>
    obtain ⟨lost, hrun, hlost⟩ := ih
    rw [salvaged_append, List.reduceOption_append, hrun]
    cases mark with
    | some b => exact ⟨lost, by simp [keep, List.reduceOption], hlost⟩
    | none =>
      by_cases hlong : maxUnterminated < (salvaged run).length
      · refine ⟨lost ++ salvaged run, by simp [keep, hlong, List.reduceOption], .inr ?_⟩
        rw [List.length_append]
        omega
      · exact ⟨lost, by simp [keep, hlong, List.reduceOption], hlost⟩

theorem length_foldl_keep_le (kept : List UInt8) (run : List (Option UInt8)) :
    (run.foldl keep kept).length ≤ kept.length + run.reduceOption.length := by
  induction run generalizing kept with
  | nil => simp
  | cons mark run ih =>
    have hrest := ih (keep kept mark)
    rw [List.foldl_cons]
    cases mark with
    | some b =>
      rw [keep, List.length_append, List.length_singleton] at hrest
      rw [List.reduceOption_cons_of_some, List.length_cons, keep]
      omega
    | none =>
      have hkept : (keep kept none).length ≤ kept.length := by
        rw [keep]
        split
        · exact Nat.zero_le _
        · exact Nat.le_refl _
      rw [List.reduceOption_cons_of_none]
      omega

/-- A run is left whole unless a read begins when more of it came than is kept without a
terminator. -/
theorem salvaged_eq_iff (run : List (Option UInt8)) :
    salvaged run = run.reduceOption ↔
      ∀ before after, run = before ++ none :: after →
        before.reduceOption.length ≤ maxUnterminated := by
  constructor
  · rintro hwhole before after rfl
    by_contra hlong
    -- before the mark something was lost already, or else it is lost there
    have hmark : (keep (salvaged before) none).length < before.reduceOption.length := by
      rw [keep]
      split
      · exact Nat.lt_of_le_of_lt (Nat.zero_le _) (Nat.lt_of_not_le hlong)
      · omega
    have hafter := length_foldl_keep_le (keep (salvaged before) none) after
    have hlength := congrArg List.length hwhole
    rw [salvaged_append, List.foldl_cons, List.reduceOption_append,
      List.reduceOption_cons_of_none, List.length_append] at hlength
    omega
  · intro hshort
    induction run using List.reverseRecOn with
    | nil => rfl
    | append_singleton run mark ih =>
      have hrun : salvaged run = run.reduceOption := by
        refine ih fun before after heq => hshort before (after ++ [mark]) ?_
        rw [heq, List.append_assoc, List.cons_append]
      rw [salvaged_append, List.reduceOption_append, ← hrun]
      cases mark with
      | some b => rfl
      | none =>
        have hroom : ¬ maxUnterminated < (salvaged run).length := by
          rw [hrun]
          exact Nat.not_lt.2 (hshort run [] rfl)
        simp [keep, hroom, List.reduceOption]

/-! ### What is left of all runs -/

/-- What is left of the first run comes before what is left of the others. -/
theorem recovered_append_flag (h : some flag ∉ a) (marks : List (Option UInt8)) :
    recovered (a ++ some flag :: marks) = [salvaged a].filter (· ≠ []) ++ recovered marks := by
  rw [recovered, List.splitOn_append_cons_self_of_not_mem h,
    List.dropLast_cons_of_ne_nil (List.splitOn_ne_nil _ _), List.map_cons, recovered,
    ← List.filter_append]
  rfl

theorem recovered_of_not_mem (h : some flag ∉ a) : recovered a = [] := by
  simp [recovered, List.splitOn_eq_singleton h]

/-- Of the beginning of a run it only matters what is kept. -/
theorem recovered_congr (ha : some flag ∉ a) (hb : some flag ∉ b) (h : salvaged a = salvaged b)
    (marks : List (Option UInt8)) : recovered (a ++ marks) = recovered (b ++ marks) := by
  by_cases hmarks : some flag ∈ marks
  · obtain ⟨first, rest, rfl, hfirst⟩ := List.eq_append_cons_of_mem hmarks
    have hrun : ∀ {begun : List (Option UInt8)}, some flag ∉ begun →
        recovered (begun ++ (first ++ some flag :: rest)) =
          [first.foldl keep (salvaged begun)].filter (· ≠ []) ++ recovered rest := by
      intro begun hbegun
      rw [← List.append_assoc, recovered_append_flag (by simp [hbegun, hfirst]), salvaged_append]
    rw [hrun ha, hrun hb, h]
  · rw [recovered_of_not_mem (by simp [ha, hmarks]), recovered_of_not_mem (by simp [hb, hmarks])]

end Salvage

/-! ### Runs of bytes -/

theorem some_flag_not_mem {bytes : List UInt8} (h : flag ∉ bytes) :
    some flag ∉ bytes.map some := by
  simpa using h

/-- The runs of a marked stream are those of the stream. -/
theorem map_reduceOption_splitOn (marks : List (Option UInt8)) :
    (marks.splitOn (some flag)).map List.reduceOption = marks.reduceOption.splitOn flag := by
  induction marks with
  | nil => rfl
  | cons mark marks ih =>
    obtain ⟨run, runs, hruns⟩ := List.exists_cons_of_ne_nil (List.splitOn_ne_nil (some flag) marks)
    rw [hruns, List.map_cons] at ih
    rw [List.splitOn_cons_eq_if_modifyHead, hruns]
    cases mark with
    | none =>
      rw [List.reduceOption_cons_of_none, ← ih]
      rfl
    | some b =>
      rw [List.reduceOption_cons_of_some, List.splitOn_cons_eq_if_modifyHead, ← ih]
      by_cases hb : b = flag
      · simp [hb]
      · simp [hb, List.reduceOption_cons_of_some]

/-- Runs that are short enough are left whole. -/
theorem recovered_of_short {marks : List (Option UInt8)}
    (h : ∀ run ∈ marks.reduceOption.splitOn flag, run.length ≤ maxUnterminated) :
    recovered marks = frames marks.reduceOption := by
  have hwhole : ∀ run ∈ marks.splitOn (some flag), salvaged run = run.reduceOption := by
    intro run hrun
    rw [salvaged_eq_iff]
    rintro before after rfl
    have hshort := h _ (map_reduceOption_splitOn marks ▸ List.mem_map_of_mem hrun)
    rw [List.reduceOption_append, List.length_append] at hshort
    exact Nat.le_trans (Nat.le_add_right _ _) hshort
  rw [recovered, frames, ← map_reduceOption_splitOn, ← List.map_dropLast]
  congr 1
  exact List.map_congr_left fun run hrun => hwhole run (List.dropLast_subset _ hrun)

namespace StreamReader

variable {reader reader' : StreamReader} {arrivals rest : List Arrival} {frame : List UInt8}

/-- What a read gives of a run. -/
def answerOf (room : Nat) (run : List UInt8) : Except ChannelError (List UInt8) :=
  if run.length ≤ room then .ok run else .error (.tooLong run.length room)

/-- What reads give of runs, and then of the end of the stream. -/
def answered (room : Nat) (runs : List (List UInt8)) : List (Except ChannelError (List UInt8)) :=
  runs.map (answerOf room) ++ [.error .endOfStream]

/-- Whether a read gave anything. -/
def isAnswer : Except ChannelError (List UInt8) → Bool
  | .ok _ => true
  | .error error => !error.isTimeout

/-- What up to `reads` reads give, those left out that find nothing. -/
def answers (room reads : Nat) (arrivals : List Arrival) (reader : StreamReader) :
    List (Except ChannelError (List UInt8)) :=
  ((readings room reads reader arrivals).map Reading.result).filter isAnswer

/-- The runs that are still to be given, or what will be left of them. -/
def toCome (reader : StreamReader) (arrivals : List Arrival) : List (List UInt8) :=
  recovered (reader.pending.map some ++ Arrival.marked arrivals)

theorem delivered_eq (run : List UInt8) (room : Nat) : delivered run room = answerOf room run := by
  by_cases h : room < run.length
  · rw [delivered, answerOf, if_pos h, if_neg (Nat.not_le.2 h)]
  · rw [delivered, answerOf, if_neg h, if_pos (Nat.not_lt.1 h)]

/-! ### Taking a frame from the kept bytes -/

/-- Terminators at the front end runs that are empty. -/
theorem recovered_dropWhile (bytes : List UInt8) (marks : List (Option UInt8)) :
    recovered (bytes.map some ++ marks) =
      recovered ((bytes.dropWhile (· == flag)).map some ++ marks) := by
  induction bytes with
  | nil => rfl
  | cons b bytes ih =>
    by_cases hb : b = flag
    · subst hb
      have hempty := recovered_append_flag (a := []) List.not_mem_nil (bytes.map some ++ marks)
      simpa using hempty.trans ih
    · simp [hb]

/-- A frame is taken up to the next terminator, those at the front left out. -/
theorem dropWhile_of_taken (h : reader.takeFrame = (some frame, reader')) :
    reader.pending.dropWhile (· == flag) = frame ++ flag :: reader'.pending ∧
      flag ∉ frame ∧ frame ≠ [] := by
  unfold takeFrame at h
  split at h
  · extract_lets bytes taken after at h
    split at h
    · next hbytes =>
      obtain ⟨before, behind, hsplit, hbefore⟩ :=
        List.eq_append_cons_of_mem (List.contains_iff_mem.1 hbytes)
      have htaken : taken = before := by
        have hall : ∀ b ∈ before, (b != flag) = true :=
          fun b hb => bne_iff_ne.2 fun heq => hbefore (heq ▸ hb)
        show bytes.takeWhile (· != flag) = before
        rw [hsplit, List.takeWhile_append_of_pos hall]
        simp
      have hafter : after = behind := by
        show bytes.drop (taken.length + 1) = behind
        rw [htaken, hsplit]
        simp
      have hfront : before ≠ [] := by
        rintro rfl
        have hhead := List.head?_dropWhile_not (· == flag) reader.pending
        rw [show reader.pending.dropWhile (· == flag) = flag :: behind from hsplit] at hhead
        simp at hhead
      obtain ⟨hframe, hreader⟩ := Prod.mk.inj h
      obtain rfl := (Option.some.inj hframe).symm.trans htaken
      refine ⟨?_, hbefore, hfront⟩
      rw [← hreader, show reader.pending.dropWhile (· == flag) = bytes from rfl, hsplit, hafter]
    · simp at h
  · simp at h

theorem toCome_of_taken (h : reader.takeFrame = (some frame, reader')) :
    reader.toCome arrivals = frame :: reader'.toCome arrivals := by
  obtain ⟨hbytes, hflag, hempty⟩ := dropWhile_of_taken h
  rw [toCome, recovered_dropWhile, hbytes, List.map_append, List.map_cons, List.append_assoc,
    List.cons_append, recovered_append_flag (some_flag_not_mem hflag), salvaged_map_some]
  simp [hempty, toCome]

theorem toCome_of_not_taken (arrivals : List Arrival)
    (h : reader.takeFrame = (none, reader')) :
    flag ∉ reader'.pending ∧ reader.toCome arrivals = reader'.toCome arrivals := by
  unfold takeFrame at h
  split at h
  · extract_lets bytes at h
    split at h
    · simp at h
    · next hbytes =>
      obtain rfl := (Prod.mk.inj h).2
      exact ⟨fun hmem => hbytes (List.contains_iff_mem.2 hmem), recovered_dropWhile _ _⟩
  · next hpending =>
    obtain rfl := (Prod.mk.inj h).2
    exact ⟨fun hmem => hpending (List.contains_iff_mem.2 hmem), rfl⟩

/-! ### One read -/

/-- The outcomes of a read: a frame, nothing within the time of one poll, or the end. -/
inductive Reads (room : Nat) (reader : StreamReader) (arrivals : List Arrival) :
    Except ChannelError (List UInt8) × StreamReader × List Arrival → Prop where
  | frame {run : List UInt8} {reader' : StreamReader} {rest : List Arrival}
      (toCome : reader.toCome arrivals = run :: reader'.toCome rest)
      (pauses : Arrival.pauses arrivals = Arrival.pauses rest) :
      Reads room reader arrivals (answerOf room run, reader', rest)
  | pause {reader' : StreamReader} {rest : List Arrival}
      (toCome : reader.toCome arrivals = reader'.toCome rest)
      (pauses : Arrival.pauses arrivals = Arrival.pauses rest + 1) :
      Reads room reader arrivals (.error .wouldBlock, reader', rest)
  | finish {reader' : StreamReader}
      (toCome : reader.toCome arrivals = []) (pauses : Arrival.pauses arrivals = 0) :
      Reads room reader arrivals (.error .endOfStream, reader', [])

theorem salvaged_mark (bytes : List UInt8) :
    salvaged (bytes.map some ++ [none]) = keep bytes none := by
  rw [salvaged_append, salvaged_map_some]
  rfl

/-- Throwing kept bytes away is what the mark of a read stands for. -/
theorem pending_resynchronised (reader : StreamReader) :
    reader.resynchronised.pending = keep reader.pending none := by
  rw [resynchronised, keep]
  split <;> rfl

theorem flag_not_mem_keep {kept : List UInt8} (h : flag ∉ kept) : flag ∉ keep kept none := by
  rw [keep]
  split
  · exact List.not_mem_nil
  · exact h

theorem toCome_bytes (h : flag ∉ reader.pending) (piece : List UInt8) (rest : List Arrival) :
    reader.toCome (.bytes piece :: rest) =
      toCome { reader.resynchronised with
        pending := reader.resynchronised.pending ++ piece } rest := by
  have hkept := flag_not_mem_keep h
  have hmark := recovered_congr (a := reader.pending.map some ++ [none])
    (by simpa using h) (some_flag_not_mem hkept) (by rw [salvaged_mark, salvaged_map_some])
    (piece.map some ++ Arrival.marked rest)
  rw [toCome, toCome, pending_resynchronised, List.map_append, List.append_assoc, ← hmark,
    List.append_assoc]
  rfl

/-- A read that finds nothing may throw kept bytes away, which the next one would do as well. -/
theorem toCome_pause (h : flag ∉ reader.pending) (rest : List Arrival) :
    reader.toCome (.pause :: rest) = reader.resynchronised.toCome rest := by
  have hkept := flag_not_mem_keep h
  rw [toCome, toCome, pending_resynchronised, Arrival.marked]
  rcases Arrival.marked_cases rest with hrest | ⟨marks, hrest⟩
  · rw [hrest, List.append_nil, List.append_nil, recovered_of_not_mem (some_flag_not_mem h),
      recovered_of_not_mem (some_flag_not_mem hkept)]
  · have hagain : keep (keep reader.pending none) none = keep reader.pending none := by
      by_cases hlong : maxUnterminated < reader.pending.length <;> simp [keep, hlong]
    have hmark := recovered_congr (a := reader.pending.map some ++ [none])
      (b := (keep reader.pending none).map some ++ [none]) (by simpa using h)
      (by simpa using hkept) (by rw [salvaged_mark, salvaged_mark, hagain]) marks
    simpa [hrest] using hmark

theorem toCome_nil (h : flag ∉ reader.pending) : reader.toCome [] = [] := by
  rw [toCome, Arrival.marked, List.append_nil, recovered_of_not_mem (some_flag_not_mem h)]

theorem readFrame_of_taken (room : Nat) (h : reader.takeFrame = (some frame, reader')) :
    readFrame room reader arrivals = (answerOf room frame, reader', arrivals) := by
  rw [← delivered_eq]
  cases arrivals <;> (unfold readFrame; rw [h])

/-- What a read gives of the rest, it gives of what comes to the same. -/
theorem Reads.before {room : Nat}
    {read : Except ChannelError (List UInt8) × StreamReader × List Arrival}
    (h : Reads room reader' rest read) (htoCome : reader.toCome arrivals = reader'.toCome rest)
    (hpauses : Arrival.pauses arrivals = Arrival.pauses rest) :
    Reads room reader arrivals read := by
  cases h with
  | frame hrun hrest => exact .frame (htoCome.trans hrun) (hpauses.trans hrest)
  | pause hrun hrest => exact .pause (htoCome.trans hrun) (hpauses.trans hrest)
  | finish hrun hrest => exact .finish (htoCome.trans hrun) (hpauses.trans hrest)

theorem reads_readFrame (room : Nat) (reader : StreamReader) (arrivals : List Arrival) :
    Reads room reader arrivals (readFrame room reader arrivals) := by
  -- a read takes pieces until one of them ends a run
  induction arrivals generalizing reader with
  | nil =>
    rcases htaken : reader.takeFrame with ⟨_ | frame, reader'⟩
    · obtain ⟨hflag, htoCome⟩ := toCome_of_not_taken [] htaken
      unfold readFrame
      rw [htaken]
      exact .finish (htoCome.trans (toCome_nil hflag)) rfl
    · rw [readFrame_of_taken room htaken]
      exact .frame (toCome_of_taken htaken) rfl
  | cons arrival rest ih =>
    rcases htaken : reader.takeFrame with ⟨_ | frame, reader'⟩
    · obtain ⟨hflag, htoCome⟩ := toCome_of_not_taken (arrival :: rest) htaken
      unfold readFrame
      rw [htaken]
      cases arrival with
      | pause =>
        refine .pause (htoCome.trans (toCome_pause hflag rest)) ?_
        simp [Arrival.pauses]
      | bytes piece =>
        refine (ih _).before (htoCome.trans (toCome_bytes hflag piece rest)) ?_
        simp [Arrival.pauses]
    · rw [readFrame_of_taken room htaken]
      exact .frame (toCome_of_taken htaken) rfl

/-! ### All reads -/

theorem answers_succ {room reads : Nat} {result : Except ChannelError (List UInt8)}
    (h : readFrame room reader arrivals = (result, reader', rest))
    (hresult : result ≠ .error .endOfStream) :
    answers room (reads + 1) arrivals reader =
      [result].filter isAnswer ++ answers room reads rest reader' := by
  unfold answers
  rw [readings, h, ← List.filter_append]
  split
  · next hend => exact absurd hend hresult
  · rfl

theorem isAnswer_answerOf (room : Nat) (run : List UInt8) :
    isAnswer (answerOf room run) = true ∧ answerOf room run ≠ .error .endOfStream := by
  unfold answerOf
  split <;> simp [isAnswer, ChannelError.isTimeout]

/-- There is one answer for each run that is still to come, and then the end, however many pauses
are in between. -/
theorem answers_eq (room : Nat) {reads : Nat} {reader : StreamReader} {arrivals : List Arrival}
    (h : Arrival.pauses arrivals + (reader.toCome arrivals).length < reads) :
    answers room reads arrivals reader =
      answered room (reader.toCome arrivals) := by
  induction reads generalizing reader arrivals with
  | zero => exact absurd h (Nat.not_lt_zero _)
  | succ reads ih =>
    have hread := reads_readFrame room reader arrivals
    generalize hout : readFrame room reader arrivals = out at hread
    cases hread with
    | @frame run reader' rest htoCome hpauses =>
      obtain ⟨hanswer, hgoesOn⟩ := isAnswer_answerOf room run
      have hrest : answers room reads rest reader' = answered room (reader'.toCome rest) := by
        refine ih ?_
        rw [htoCome, List.length_cons] at h
        omega
      rw [answers_succ hout hgoesOn, hrest, htoCome]
      simp [answered, hanswer]
    | @pause reader' rest htoCome hpauses =>
      have hrest : answers room reads rest reader' = answered room (reader'.toCome rest) := by
        refine ih ?_
        rw [htoCome] at h
        omega
      rw [answers_succ hout (by simp), hrest, htoCome]
      rfl
    | finish htoCome hpauses =>
      rw [htoCome, answers, readings, hout]
      rfl

/-- With more reads the first answers stay the same. -/
theorem readings_begin (room reads more : Nat) (reader : StreamReader) (arrivals : List Arrival) :
    readings room reads reader arrivals <+: readings room (reads + more) reader arrivals := by
  induction reads generalizing reader arrivals with
  | zero => exact List.nil_prefix
  | succ reads ih =>
    rw [Nat.add_right_comm, readings, readings]
    split
    · exact List.prefix_refl _
    · exact (List.prefix_cons_inj _).2 (ih _ _)

theorem answers_begin (room reads : Nat) (arrivals : List Arrival) (reader : StreamReader) :
    answers room reads arrivals reader <+: answered room (reader.toCome arrivals) := by
  let more := Arrival.pauses arrivals + (reader.toCome arrivals).length + 1
  have hall : answers room (reads + more) arrivals reader = _ := answers_eq room (by omega)
  rw [← hall]
  exact ((readings_begin room reads more reader arrivals).map _).filter _

/-! ### From the beginning -/

/-- When no run is longer than what is kept without a terminator, reads give every run that is not
empty, whole and in order, whatever the pieces and the pauses, and then the end of the stream. -/
theorem answers_of_short_runs (room reads : Nat) (arrivals : List Arrival)
    (hruns : ∀ run ∈ (Arrival.stream arrivals).splitOn flag, run.length ≤ maxUnterminated) :
    answers room reads arrivals {} <+: answered room (frames (Arrival.stream arrivals)) ∧
      (Arrival.pauses arrivals + (frames (Arrival.stream arrivals)).length < reads →
        answers room reads arrivals {} = answered room (frames (Arrival.stream arrivals))) := by
  have htoCome : toCome {} arrivals = frames (Arrival.stream arrivals) := by
    rw [← Arrival.reduceOption_marked] at hruns ⊢
    exact recovered_of_short hruns
  rw [← htoCome]
  exact ⟨answers_begin room reads arrivals {}, answers_eq room⟩

/-- Four reads of a stream that comes in three pieces, one of them late: two runs that fit, one that
does not, and the end.  The run without a terminator is not given. -/
theorem answers_of_short_runs_pieces :
    (∀ run ∈ (Arrival.stream [.bytes [0xd4, 0x03, flag, flag, 0x46], .pause,
      .bytes [flag, 1, 2, 3], .bytes [flag, 9]]).splitOn flag, run.length ≤ maxUnterminated) ∧
    answers 2 5 [.bytes [0xd4, 0x03, flag, flag, 0x46], .pause, .bytes [flag, 1, 2, 3],
        .bytes [flag, 9]] {} =
      [.ok [0xd4, 0x03], .ok [0x46], .error (.tooLong 3 2), .error .endOfStream] := by
  have hruns : ∀ run ∈ (Arrival.stream [.bytes [0xd4, 0x03, flag, flag, 0x46], .pause,
      .bytes [flag, 1, 2, 3], .bytes [flag, 9]]).splitOn flag, run.length ≤ maxUnterminated := by
    decide
  exact ⟨hruns, (answers_of_short_runs 2 5 _ hruns).2 (by decide)⟩

theorem exists_run_of_answered {room : Nat} {marks : List (Option UInt8)}
    (h : .ok frame ∈ answered room (recovered marks)) :
    ∃ run ∈ (marks.splitOn (some flag)).dropLast, salvaged run = frame := by
  rcases List.mem_append.1 h with hmem | hend
  · obtain ⟨taken, htaken, hanswer⟩ := List.mem_map.1 hmem
    have heq : taken = frame := by
      unfold answerOf at hanswer
      split at hanswer
      · exact Except.ok.inj hanswer
      · cases hanswer
    exact List.mem_map.1 (heq ▸ List.mem_of_mem_filter htaken)
  · simp at hend

/-- What reads give of a stream, whatever its runs and its pieces. -/
structure Salvages (room : Nat) (arrivals : List Arrival) : Prop where
  /-- One answer for each run of which something is left, and then the end. -/
  given : ∀ reads, answers room reads arrivals {} <+:
    answered room (recovered (Arrival.marked arrivals))
  /-- With reads enough these are all the answers. -/
  complete : ∀ reads,
    Arrival.pauses arrivals + (recovered (Arrival.marked arrivals)).length < reads →
      answers room reads arrivals {} = answered room (recovered (Arrival.marked arrivals))
  /-- A frame is the end of a run that a terminator ends, and if something of the run is missing
  before it then it is more than is kept without a terminator. -/
  frame : ∀ reads frame, .ok frame ∈ answers room reads arrivals {} →
    ∃ lost, lost ++ frame ∈ ((Arrival.stream arrivals).splitOn flag).dropLast ∧
      (lost = [] ∨ maxUnterminated < lost.length)
  /-- The marked runs are those of the stream. -/
  runs : ((Arrival.marked arrivals).splitOn (some flag)).map List.reduceOption =
    (Arrival.stream arrivals).splitOn flag
  /-- One of them is left whole unless a read begins when more of it came than is kept without a
  terminator. -/
  whole : ∀ run ∈ (Arrival.marked arrivals).splitOn (some flag),
    salvaged run = run.reduceOption ↔
      ∀ before after, run = before ++ none :: after →
        before.reduceOption.length ≤ maxUnterminated

theorem salvages (room : Nat) (arrivals : List Arrival) : Salvages room arrivals where
  given reads := answers_begin room reads arrivals {}
  complete _ := @answers_eq room _ {} arrivals
  frame reads frame hframe := by
    have hanswered : .ok frame ∈ answered room (recovered (Arrival.marked arrivals)) :=
      (answers_begin room reads arrivals {}).subset hframe
    obtain ⟨run, hrun, rfl⟩ := exists_run_of_answered hanswered
    obtain ⟨lost, hlost, hlong⟩ := salvaged_suffix run
    refine ⟨lost, ?_, hlong⟩
    rw [← hlost, ← Arrival.reduceOption_marked, ← map_reduceOption_splitOn, ← List.map_dropLast]
    exact List.mem_map_of_mem hrun
  runs := by rw [map_reduceOption_splitOn, Arrival.reduceOption_marked]
  whole run _ := salvaged_eq_iff run

/-- Of a run of 194 bytes that comes 64 at a time the first 192 are thrown away, and the last two
are given. -/
example : answers 32 2 (Arrival.ofBytes (List.replicate 192 0x11 ++ [0x22, 0x22, flag])) {} =
    [.ok [0x22, 0x22], .error .endOfStream] := by
  decide +kernel

end StreamReader

end AlarmMesh.Link
