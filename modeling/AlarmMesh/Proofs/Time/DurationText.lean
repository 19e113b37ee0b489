import AlarmMesh.Time.Duration
import Mathlib.Algebra.Group.Nat.Defs
import Mathlib.Data.List.Basic
import Mathlib.Data.List.TakeWhile

/-!
# Durations as text

A duration is written as a number of a unit.  Which texts are read is said apart from how they are
read: digits, blanks, and what names a unit.  A duration that was read is written in the largest
unit of which it is a whole number, and what is written so is read as the same duration again, since
in no unit it is counted in more bits than in the one it was read in.

* `Text.trim_eq_iff` — what is left of a text without the blanks around it;
* `TimeUnit`, `TimeUnit.Names`, `Duration.Writes` — units, their names, and texts of durations;
* `Duration.ofChars?_eq_some_iff` — the texts that are read;
* `Duration.format_of_largest`, `Duration.exists_largest` — the unit that is written;
* `Duration.TextForm`, `Duration.textForm` — what holds of reading and writing.
-/

namespace AlarmMesh.Text

variable {cs mid front back : List Char}

/-- There is no blank at either end. -/
structure Trimmed (cs : List Char) : Prop where
  first : ∀ c rest, cs = c :: rest → isBlank c = false
  last : ∀ c rest, cs = rest ++ [c] → isBlank c = false

theorem Trimmed.of_forall (h : ∀ c ∈ cs, isBlank c = false) : Trimmed cs := by
  constructor
  · rintro c rest rfl
    exact h c List.mem_cons_self
  · rintro c rest rfl
    exact h c (List.mem_append_right _ List.mem_cons_self)

theorem trimFront_of_first (h : ∀ c rest, cs = c :: rest → isBlank c = false) :
    trimFront cs = cs := by
  unfold trimFront
  cases cs with
  | nil => rfl
  | cons c rest => rw [List.dropWhile_cons_of_neg (by simp [h c rest rfl])]

theorem trimFront_append (h : ∀ c ∈ front, isBlank c = true) (cs : List Char) :
    trimFront (front ++ cs) = trimFront cs :=
  List.dropWhile_append_of_pos h

/-- Nothing but blanks is taken off the front, and the rest begins with none. -/
theorem exists_trimFront_eq (cs : List Char) : ∃ front, cs = front ++ trimFront cs ∧
    (∀ c ∈ front, isBlank c = true) ∧ ∀ c rest, trimFront cs = c :: rest → isBlank c = false := by
  refine ⟨cs.takeWhile isBlank, List.takeWhile_append_dropWhile.symm, ?_, ?_⟩
  · intro c hc
    exact List.mem_takeWhile_imp hc
  · intro c rest hrest
    have hhead := List.head?_dropWhile_not isBlank cs
    rw [show cs.dropWhile isBlank = c :: rest from hrest] at hhead
    exact hhead

/-- Blanks at both ends are what is taken off. -/
theorem trim_eq_iff : trim cs = mid ↔ Trimmed mid ∧ ∃ front back, cs = front ++ mid ++ back ∧
    (∀ c ∈ front, isBlank c = true) ∧ ∀ c ∈ back, isBlank c = true := by
  constructor
  · rintro rfl
    obtain ⟨front, hfront, hblank, hfirst⟩ := exists_trimFront_eq cs
    obtain ⟨back, hback, hblank', hlast⟩ := exists_trimFront_eq (trimFront cs).reverse
    have hsplit : trimFront cs = trim cs ++ back.reverse := by
      rw [trim, ← List.reverse_append, ← hback, List.reverse_reverse]
    refine ⟨⟨?_, ?_⟩, front, back.reverse, ?_, hblank, ?_⟩
    · intro c rest hmid
      refine hfirst c (rest ++ back.reverse) ?_
      rw [hsplit, hmid, List.cons_append]
    · intro c rest hmid
      refine hlast c rest.reverse ?_
      rw [← List.reverse_inj, List.reverse_cons, List.reverse_reverse, ← hmid]
      rfl
    · rw [List.append_assoc, ← hsplit, ← hfront]
    · intro c hc
      exact hblank' c (List.mem_reverse.1 hc)
  · rintro ⟨htrimmed, front, back, rfl, hfront, hback⟩
    have hbehind : trimFront (back.reverse ++ mid.reverse) = mid.reverse := by
      rw [trimFront_append fun c hc => hback c (List.mem_reverse.1 hc)]
      refine trimFront_of_first fun c rest hrest => htrimmed.last c rest.reverse ?_
      rw [← List.reverse_inj, hrest, List.reverse_append, List.reverse_reverse]
      rfl
    unfold trim
    rw [List.append_assoc, trimFront_append hfront]
    cases mid with
    | nil =>
      have hnone : trimFront back = [] := by
        rw [← List.append_nil back, trimFront_append hback]
        rfl
      rw [List.nil_append, hnone]
      rfl
    | cons c rest =>
      have hbefore : trimFront (c :: rest ++ back) = c :: rest ++ back := by
        apply trimFront_of_first
        intro first behind heq
        obtain ⟨rfl, -⟩ := List.cons.inj heq
        exact htrimmed.first c rest rfl
      rw [hbefore, List.reverse_append, hbehind, List.reverse_reverse]

theorem trimmed_trim (cs : List Char) : Trimmed (trim cs) := (trim_eq_iff.1 rfl).1

theorem Trimmed.trim_eq (h : Trimmed cs) : trim cs = cs :=
  trim_eq_iff.2 ⟨h, [], [], by simp, by simp, by simp⟩

/-- Blanks behind a text without any there are none. -/
theorem Trimmed.eq_nil_of_blank (h : Trimmed (cs ++ back)) (hback : ∀ c ∈ back, isBlank c = true) :
    back = [] := by
  rcases List.eq_nil_or_concat' back with hnone | ⟨before, c, rfl⟩
  · exact hnone
  · have hlast := h.last c (cs ++ before) (List.append_assoc ..).symm
    rw [hback c (List.mem_append_right _ List.mem_cons_self)] at hlast
    cases hlast

theorem isDigit_eq (c : Char) : isDigit c = c.isDigit := by
  simp [isDigit, Char.isDigit, Char.le_def]

theorem isBlank_of_isDigit {c : Char} (h : c.isDigit = true) : isBlank c = false := by
  have hcode := Char.isDigit_iff_toNat.1 h
  have hlow : 48 ≤ c.toNat := hcode.1
  have hhigh : c.toNat ≤ 57 := hcode.2
  simp only [isBlank, blankCodes, Bool.or_eq_false_iff, Bool.and_eq_false_imp, decide_eq_true_eq,
    decide_eq_false_iff_not]
  refine ⟨⟨by omega, by omega⟩, ?_⟩
  simp
  omega

end AlarmMesh.Text

namespace AlarmMesh

/-! ### Units -/

/-- The units of a duration in text. -/
inductive TimeUnit where
  | hours
  | minutes
  | seconds
  | millis
  deriving DecidableEq, Repr

namespace TimeUnit

/-- How the unit is written. -/
def suffix : TimeUnit → List Char
  | hours => ['h']
  | minutes => ['m']
  | seconds => ['s']
  | millis => ['m', 's']

/-- How much is counted for one of the unit: seconds, or milliseconds. -/
def counts : TimeUnit → Nat
  | hours => 3600
  | minutes => 60
  | seconds | millis => 1

/-- How long that is which is counted. -/
def counted : TimeUnit → Nat
  | millis => 1000000
  | _ => 1000000000

/-- The length of one of the unit. -/
def nanoseconds (unit : TimeUnit) : Nat := unit.counts * unit.counted

/-- What is written names the unit; where nothing is written the unit is a second. -/
def Names (unit : TimeUnit) (cs : List Char) : Prop :=
  cs = unit.suffix ∨ unit = seconds ∧ cs = []

/-- The duration is a whole number of the unit, and of no larger one. -/
structure Largest (unit : TimeUnit) (d : Duration) : Prop where
  whole : unit.nanoseconds ∣ d.nanoseconds
  largest : ∀ other : TimeUnit, other.nanoseconds ∣ d.nanoseconds →
    other.nanoseconds ≤ unit.nanoseconds

theorem counted_le {unit other : TimeUnit} (h : unit.nanoseconds ≤ other.nanoseconds) :
    unit.counted ≤ other.counted := by
  revert h
  cases unit <;> cases other <;> decide

theorem counted_pos (unit : TimeUnit) : 0 < unit.counted := by cases unit <;> decide

theorem counts_pos (unit : TimeUnit) : 0 < unit.counts := by cases unit <;> decide

theorem millis_dvd (unit : TimeUnit) : 1000000 ∣ unit.nanoseconds := by cases unit <;> decide

theorem Names.plain {unit : TimeUnit} {cs : List Char} (h : unit.Names cs) {c : Char}
    (hc : c ∈ cs) : c.isDigit = false ∧ Text.isBlank c = false := by
  have hsuffix : ∀ c ∈ unit.suffix, c.isDigit = false ∧ Text.isBlank c = false := by
    cases unit <;>
      simp only [suffix, List.mem_cons, List.not_mem_nil, or_false, forall_eq_or_imp, forall_eq] <;>
        decide
  obtain rfl | ⟨-, rfl⟩ := h
  · exact hsuffix c hc
  · cases hc

end TimeUnit

namespace Duration

open Text (digitsValue isDigit isBlank trim)

variable {d : Duration} {cs digits rest : List Char} {unit : TimeUnit} {text : String}

/-! ### Texts that are read -/

/-- The texts of a duration, without the blanks around them: digits, perhaps blanks, and what names
a unit.  What is counted in seconds or milliseconds fits 64 bits, and so does the number itself. -/
inductive Writes : List Char → Duration → Prop
  | intro {digits blanks suffix : List Char} (unit : TimeUnit)
      (hdigits : digits ≠ []) (hdigit : ∀ c ∈ digits, c.isDigit = true)
      (hblank : ∀ c ∈ blanks, isBlank c = true) (hsuffix : unit.Names suffix)
      (hvalue : Nat.ofDigitChars 10 digits 0 < 2 ^ 64)
      (hcount : Nat.ofDigitChars 10 digits 0 * unit.counts < 2 ^ 64) :
      Writes (digits ++ (blanks ++ suffix))
        ⟨Nat.ofDigitChars 10 digits 0 * unit.nanoseconds⟩

/-- A unit is known by its name, and gives a duration that is counted in 64 bits. -/
theorem ofUnit?_eq_some_iff {value : Nat} {suffix : List Char} :
    ofUnit? value suffix = some d ↔ ∃ unit : TimeUnit, unit.Names suffix ∧ value < 2 ^ 64 ∧
      value * unit.counts < 2 ^ 64 ∧ d = ⟨value * unit.nanoseconds⟩ := by
  have hlength (unit : TimeUnit) :
      value * unit.nanoseconds = value * unit.counts * unit.counted := (Nat.mul_assoc ..).symm
  constructor
  · intro h
    unfold ofUnit? at h
    split at h
    · cases h
    · next hlimit =>
      have hvalue : value < 2 ^ 64 := Nat.lt_of_not_le hlimit
      have hone : value * 1 < 2 ^ 64 := by rwa [Nat.mul_one]
      split at h
      · obtain rfl := Option.some.inj h
        exact ⟨.millis, .inl rfl, hvalue, hone, rfl⟩
      · obtain rfl := Option.some.inj h
        exact ⟨.seconds, .inr ⟨rfl, rfl⟩, hvalue, hone, rfl⟩
      · obtain rfl := Option.some.inj h
        exact ⟨.seconds, .inl rfl, hvalue, hone, rfl⟩
      · split at h
        · next hcount =>
          obtain rfl := Option.some.inj h
          exact ⟨.minutes, .inl rfl, hvalue, hcount, by rw [hlength]; rfl⟩
        · cases h
      · split at h
        · next hcount =>
          obtain rfl := Option.some.inj h
          exact ⟨.hours, .inl rfl, hvalue, hcount, by rw [hlength]; rfl⟩
        · cases h
      · cases h
  · rintro ⟨unit, hnames, hvalue, hcount, rfl⟩
    unfold ofUnit?
    rw [if_neg (show ¬ limit ≤ value from Nat.not_le.2 hvalue), hlength]
    obtain rfl | ⟨rfl, rfl⟩ := hnames
    · cases unit with
      | hours => exact if_pos hcount
      | minutes => exact if_pos hcount
      | seconds => rw [TimeUnit.counts, Nat.mul_one]; rfl
      | millis => rw [TimeUnit.counts, Nat.mul_one]; rfl
    · rw [TimeUnit.counts, Nat.mul_one]
      rfl

theorem split_digits (hdigit : ∀ c ∈ digits, c.isDigit = true)
    (hrest : ∀ c ∈ rest, c.isDigit = false) :
    (digits ++ rest).takeWhile isDigit = digits ∧ (digits ++ rest).dropWhile isDigit = rest := by
  have hfront : ∀ c ∈ digits, isDigit c = true := by
    intro c hc
    rw [Text.isDigit_eq, hdigit c hc]
  rw [List.takeWhile_append_of_pos hfront, List.dropWhile_append_of_pos hfront]
  cases rest with
  | nil => simp
  | cons c rest =>
    have hc : isDigit c = false := by rw [Text.isDigit_eq, hrest c List.mem_cons_self]
    simp [hc]

theorem ofChars?_eq_some_iff (htrimmed : Text.Trimmed cs) :
    ofChars? cs = some d ↔ Writes cs d := by
  constructor
  · intro h
    unfold ofChars? at h
    have hsplit : cs.takeWhile isDigit ++ cs.dropWhile isDigit = cs :=
      List.takeWhile_append_dropWhile
    have hdigit : ∀ c ∈ cs.takeWhile isDigit, c.isDigit = true := by
      intro c hc
      rw [← Text.isDigit_eq, List.mem_takeWhile_imp hc]
    dsimp only at h
    generalize cs.takeWhile isDigit = digits at h hsplit hdigit
    generalize cs.dropWhile isDigit = rest at h hsplit
    subst hsplit
    split at h
    · cases h
    · next hdigits =>
      obtain ⟨-, front, back, hrest, hfront, hback⟩ := Text.trim_eq_iff.1 (rfl : trim rest = _)
      obtain ⟨unit, hnames, hvalue, hcount, rfl⟩ := ofUnit?_eq_some_iff.1 h
      -- the text does not end with a blank, so nothing is taken off behind the unit
      have hend : back = [] := by
        rw [hrest, ← List.append_assoc] at htrimmed
        exact htrimmed.eq_nil_of_blank hback
      rw [hend, List.append_nil] at hrest
      have hnonempty : digits ≠ [] := by simpa using hdigits
      rw [hrest]
      exact .intro unit hnonempty hdigit hfront hnames hvalue hcount
  · rintro @⟨digits, blanks, suffix, unit, hdigits, hdigit, hblank, hnames, hvalue, hcount⟩
    have hrest : ∀ c ∈ blanks ++ suffix, c.isDigit = false := by
      intro c hc
      rcases List.mem_append.1 hc with hc | hc
      · by_contra hdigit
        have hblank := hblank c hc
        rw [Text.isBlank_of_isDigit (eq_true_of_ne_false hdigit)] at hblank
        cases hblank
      · exact (hnames.plain hc).1
    have htrimmed : Text.Trimmed suffix := .of_forall fun c hc => (hnames.plain hc).2
    have htrim : trim (blanks ++ suffix) = suffix :=
      Text.trim_eq_iff.2 ⟨htrimmed, blanks, [], by simp, hblank, by simp⟩
    obtain ⟨htaken, hleft⟩ := split_digits hdigit hrest
    unfold ofChars?
    rw [htaken, hleft, htrim]
    dsimp only
    rw [if_neg (by simpa using hdigits)]
    exact ofUnit?_eq_some_iff.2 ⟨unit, hnames, hvalue, hcount, rfl⟩

theorem parse?_eq_some_iff : parse? text = some d ↔ Writes (trim text.toList) d :=
  ofChars?_eq_some_iff (Text.trimmed_trim _)

/-! ### The unit that is written -/

theorem exists_largest (h : 1000000 ∣ d.nanoseconds) : ∃ unit : TimeUnit, unit.Largest d := by
  by_cases hhours : TimeUnit.hours.nanoseconds ∣ d.nanoseconds
  · exact ⟨.hours, hhours, fun other _ => by cases other <;> decide⟩
  by_cases hminutes : TimeUnit.minutes.nanoseconds ∣ d.nanoseconds
  · refine ⟨.minutes, hminutes, fun other hother => ?_⟩
    cases other with
    | hours => exact absurd hother hhours
    | _ => decide
  by_cases hseconds : TimeUnit.seconds.nanoseconds ∣ d.nanoseconds
  · refine ⟨.seconds, hseconds, fun other hother => ?_⟩
    cases other with
    | hours => exact absurd hother hhours
    | minutes => exact absurd hother hminutes
    | _ => decide
  · refine ⟨.millis, h, fun other hother => ?_⟩
    cases other with
    | hours => exact absurd hother hhours
    | minutes => exact absurd hother hminutes
    | seconds => exact absurd hother hseconds
    | millis => exact Nat.le_refl _

theorem format_of_largest (hd : d.nanoseconds ≠ 0) (h : unit.Largest d) :
    d.format = toString (d.nanoseconds / unit.nanoseconds) ++ String.ofList unit.suffix := by
  have hnot (other : TimeUnit) (hlarger : unit.nanoseconds < other.nanoseconds) :
      ¬ other.nanoseconds ∣ d.nanoseconds :=
    fun hother => absurd (h.largest other hother) (Nat.not_le.2 hlarger)
  have hwhole := h.whole
  unfold format subsecond seconds millis
  generalize d.nanoseconds = n at hd hwhole hnot
  cases unit with
  | hours =>
    have hn : 3600000000000 ∣ n := hwhole
    have hnumber : n / 1000000000 / 3600 = n / TimeUnit.hours.nanoseconds :=
      Nat.div_div_eq_div_mul ..
    rw [if_neg (by omega), if_pos (by omega), hnumber]
    rfl
  | minutes =>
    have hn : 60000000000 ∣ n := hwhole
    have hhours : ¬ 3600000000000 ∣ n := hnot .hours (by decide)
    rw [if_neg (by omega), if_neg (by omega), if_pos (by omega), Nat.div_div_eq_div_mul]
    rfl
  | seconds =>
    have hn : 1000000000 ∣ n := hwhole
    have hhours : ¬ 3600000000000 ∣ n := hnot .hours (by decide)
    have hminutes : ¬ 60000000000 ∣ n := hnot .minutes (by decide)
    rw [if_neg (by omega), if_neg (by omega), if_neg (by omega)]
    rfl
  | millis =>
    have hn : 1000000 ∣ n := hwhole
    have hseconds : ¬ 1000000000 ∣ n := hnot .seconds (by decide)
    rw [if_pos (by omega)]
    rfl

/-! ### What is written is read -/

theorem Writes.millis_dvd (h : Writes cs d) : 1000000 ∣ d.nanoseconds := by
  cases h with
  | intro unit => exact Nat.dvd_mul_left_of_dvd unit.millis_dvd _

/-- Counted in the largest unit of which it is a whole number, a duration that was read fits 64
bits. -/
theorem Writes.count_lt (h : Writes cs d) (hlargest : unit.Largest d) :
    d.nanoseconds / unit.nanoseconds * unit.counts < 2 ^ 64 := by
  cases h with
  | @intro digits _ _ named _ _ _ _ _ hcount =>
    have hcounted : named.counted ≤ unit.counted :=
      TimeUnit.counted_le (hlargest.largest named (Nat.dvd_mul_left _ _))
    have hwhole := Nat.div_mul_cancel hlargest.whole
    dsimp only at hwhole ⊢
    generalize Nat.ofDigitChars 10 digits 0 = value at hcount hwhole ⊢
    generalize hnumber : value * named.nanoseconds / unit.nanoseconds = number at hwhole ⊢
    have hsame : number * unit.counts * unit.counted = value * named.counts * named.counted := by
      rw [Nat.mul_assoc, Nat.mul_assoc]
      exact hwhole
    refine Nat.lt_of_le_of_lt ?_ hcount
    refine Nat.le_of_mul_le_mul_right ?_ unit.counted_pos
    calc number * unit.counts * unit.counted = value * named.counts * named.counted := hsame
      _ ≤ value * named.counts * unit.counted := Nat.mul_le_mul_left _ hcounted

theorem parse?_format_of_largest (hd : d.nanoseconds ≠ 0) (h : unit.Largest d)
    (hcount : d.nanoseconds / unit.nanoseconds * unit.counts < 2 ^ 64) :
    parse? d.format = some d := by
  have hwhole := Nat.div_mul_cancel h.whole
  have hvalue := Nat.lt_of_le_of_lt (Nat.le_mul_of_pos_right _ unit.counts_pos) hcount
  have htext : d.format.toList =
      Nat.toDigits 10 (d.nanoseconds / unit.nanoseconds) ++ ([] ++ unit.suffix) := by
    rw [format_of_largest hd h]
    simp
  generalize d.nanoseconds / unit.nanoseconds = number at hcount hwhole hvalue htext
  have hdigit : ∀ c ∈ Nat.toDigits 10 number, c.isDigit = true :=
    fun c hc => Nat.isDigit_of_mem_toDigits (by decide) (by decide) hc
  have hplain : ∀ c ∈ d.format.toList, isBlank c = false := by
    intro c hc
    rw [htext, List.nil_append] at hc
    rcases List.mem_append.1 hc with hc | hc
    · exact Text.isBlank_of_isDigit (hdigit c hc)
    · exact (TimeUnit.Names.plain (.inl rfl) hc).2
  have htrimmed : Text.Trimmed d.format.toList := .of_forall hplain
  have hread : Nat.ofDigitChars 10 (Nat.toDigits 10 number) 0 = number :=
    Nat.ofDigitChars_toDigits (by decide) (by decide)
  have hwrites : Writes (Nat.toDigits 10 number ++ ([] ++ unit.suffix))
      ⟨Nat.ofDigitChars 10 (Nat.toDigits 10 number) 0 * unit.nanoseconds⟩ :=
    .intro unit Nat.toDigits_ne_nil hdigit (by simp) (.inl rfl) (by rwa [hread]) (by rwa [hread])
  rw [hread, hwhole, ← htext] at hwrites
  rw [parse?_eq_some_iff, htrimmed.trim_eq]
  exact hwrites

theorem parse?_format (h : parse? text = some d) : parse? d.format = some d := by
  have hwrites := parse?_eq_some_iff.1 h
  by_cases hd : d.nanoseconds = 0
  · obtain rfl : d = ⟨0⟩ := congrArg Duration.mk hd
    decide
  · obtain ⟨unit, hlargest⟩ := exists_largest hwrites.millis_dvd
    exact parse?_format_of_largest hd hlargest (hwrites.count_lt hlargest)

/-- What holds of durations in text. -/
structure TextForm : Prop where
  /-- A text is read if what is left without the blanks around it writes a duration. -/
  reads : ∀ text d, parse? text = some d ↔ Writes (trim text.toList) d
  /-- A duration that was read is written so that it is read again. -/
  again : ∀ text d, parse? text = some d → parse? d.format = some d
  /-- It is a whole number of milliseconds. -/
  millis : ∀ text d, parse? text = some d → TimeUnit.millis.nanoseconds ∣ d.nanoseconds
  /-- A whole number of milliseconds is written in the largest unit of which it is one. -/
  largest : ∀ d : Duration, TimeUnit.millis.nanoseconds ∣ d.nanoseconds → d.nanoseconds ≠ 0 →
    ∃ unit : TimeUnit, unit.Largest d ∧
      d.format = toString (d.nanoseconds / unit.nanoseconds) ++ String.ofList unit.suffix
  zero : format ⟨0⟩ = "0ms"

theorem textForm : TextForm where
  reads _ _ := parse?_eq_some_iff
  again _ _ := parse?_format
  millis _ _ h := (parse?_eq_some_iff.1 h).millis_dvd
  largest d hwhole hd := by
    obtain ⟨unit, hlargest⟩ := exists_largest hwhole
    exact ⟨unit, hlargest, format_of_largest hd hlargest⟩
  zero := by decide

/-- One hour more is too many seconds. -/
example : (parse? " 5124095576030431 h").map format = some "5124095576030431h" ∧
    parse? "5124095576030432h" = none := by
  decide +kernel

end Duration

end AlarmMesh
