import GB28181.Base.Decimal
import GB28181.GBUtils.Utils

/-!
# Recent alarms (`CDevInfo::judgeTime` in `DevInfo/DevInfo.cpp`)

An alarm subscription resends the alarms of the last two minutes.  `judgeTime` cuts the fields of
the alarm time out of its text one by one and compares them with the local time.

* `CalendarTime`, `Recent` — times of the calendar, and what "at most 120 seconds ago" says of
  them;
* `judgeTime_iff` — `judgeTime` is right, and frees what it allocated, **exactly when the alarm is
  not recent**: of the year it reads three digits.
-/

set_option autoImplicit false

namespace GB28181.Platform

open GB28181.Base GB28181.GBUtils

/-! ## Times -/

def isLeapYear (year : Nat) : Bool :=
  (year % 4 = 0 && year % 100 ≠ 0) || year % 400 = 0

def daysInMonth (year month : Nat) : Nat :=
  if month = 2 then if isLeapYear year then 29 else 28
  else if month = 4 ∨ month = 6 ∨ month = 9 ∨ month = 11 then 30
  else 31

/-- The fields are those of a day and of a time of the day. -/
structure ValidTime (year month day hour minute second : Nat) : Prop where
  month_mem : 1 ≤ month ∧ month ≤ 12
  day_mem : 1 ≤ day ∧ day ≤ daysInMonth year month
  hour_lt : hour < 24
  minute_lt : minute < 60
  second_lt : second < 60

structure CalendarTime where
  year : Nat
  month : Nat
  day : Nat
  hour : Nat
  minute : Nat
  second : Nat
  valid : ValidTime year month day hour minute second

/-- The days of the years before a year. -/
def daysBeforeYear : Nat → Nat
  | 0 => 0
  | year + 1 => daysBeforeYear year + if isLeapYear year then 366 else 365

def daysBeforeMonth (year : Nat) : Nat → Nat
  | 0 | 1 => 0
  | month + 2 => daysBeforeMonth year (month + 1) + daysInMonth year (month + 1)

/-- The seconds from the beginning of the year 0. -/
def CalendarTime.seconds (t : CalendarTime) : Int :=
  let days := daysBeforeYear t.year + daysBeforeMonth t.year t.month + (t.day - 1)
  (((days * 24 + t.hour) * 60 + t.minute) * 60 + t.second : Nat)

/-- At most 120 seconds before, and not after. -/
def Recent (now alarm : CalendarTime) : Prop :=
  0 ≤ now.seconds - alarm.seconds ∧ now.seconds - alarm.seconds ≤ 120

abbrev AlarmTime := {t : CalendarTime // t.year < 10000}

/-- The text `YYYY-MM-DDThh:mm:ss`. -/
def timeText (t : CalendarTime) : CStr :=
  zeroPadInt 4 t.year ++ [0x2d] ++ (zeroPadInt 2 t.month ++ [0x2d] ++ (zeroPadInt 2 t.day ++
    [0x54] ++ (zeroPadInt 2 t.hour ++ [0x3a] ++ (zeroPadInt 2 t.minute ++ [0x3a] ++
      zeroPadInt 2 t.second))))

structure Tm where
  tm_year : Int
  tm_mon : Int
  tm_mday : Int
  tm_hour : Int
  tm_min : Int
  tm_sec : Int

def CalendarTime.tm (t : CalendarTime) : Tm where
  tm_year := t.year - 1900
  tm_mon := t.month - 1
  tm_mday := t.day
  tm_hour := t.hour
  tm_min := t.minute
  tm_sec := t.second

/-! ## The test -/

/-- What `judgeTime` returns, and the place in its buffer that it frees; nothing is freed where
nothing was allocated. -/
structure Judged where
  ret : Bool
  freed : Option Nat
  deriving DecidableEq

def judgeTime (tmInfo1 : Tm) (strAlarmTime : CStr) : Judged :=
  if 19 ≠ strAlarmTime.length then ⟨false, none⟩
  else
    -- `StringCpy_s(str, n, strTmp)` and `atoi(str)`
    let field := fun (n strTmp : Nat) => atoi (stringCpy_s n (strAlarmTime.drop strTmp))
    if tmInfo1.tm_year + 1900 = field 4 0 then
      if tmInfo1.tm_mon + 1 = field 2 5 then
        if tmInfo1.tm_mday = field 2 8 then
          if tmInfo1.tm_hour = field 2 11 then
            if tmInfo1.tm_min - field 2 14 < 2 then ⟨true, some 10⟩
            else if tmInfo1.tm_min - field 2 14 = 2 then
              if tmInfo1.tm_sec = field 2 17 then ⟨true, some 12⟩ else ⟨false, some 12⟩
            else ⟨false, some 10⟩
          else if tmInfo1.tm_hour - field 2 11 = 1 then
            if tmInfo1.tm_min ≥ 2 then ⟨false, some 8⟩
            else if field 2 14 ≤ 57 then ⟨false, some 10⟩
            else if tmInfo1.tm_min = 0 then
              if field 2 14 = 58 then
                if field 2 17 ≥ tmInfo1.tm_sec then ⟨true, some 12⟩ else ⟨false, some 12⟩
              else ⟨true, some 10⟩
            else if tmInfo1.tm_min = 1 then
              if field 2 14 = 58 then ⟨false, some 10⟩
              else if field 2 17 ≥ tmInfo1.tm_sec then ⟨true, some 12⟩
              else ⟨false, some 12⟩
            else ⟨false, some 10⟩
          else ⟨false, some 8⟩
        else ⟨false, some 6⟩
      else ⟨false, some 4⟩
    else ⟨false, some 0⟩

/-- Where the year does not match, the buffer is freed and the alarm is none to resend. -/
theorem judgeTime_of_ne {tmInfo1 : Tm} {strAlarmTime : CStr} (hlen : strAlarmTime.length = 19)
    (hyear : tmInfo1.tm_year + 1900 ≠ atoi (stringCpy_s 4 strAlarmTime)) :
    judgeTime tmInfo1 strAlarmTime = ⟨false, some 0⟩ := by
  unfold judgeTime
  rw [if_neg (not_not.mpr hlen.symm)]
  exact if_neg hyear

theorem freed_ite {p : Prop} [Decidable p] {a b : Judged} (ha : a.freed ≠ some 0)
    (hb : b.freed ≠ some 0) : (if p then a else b).freed ≠ some 0 := by
  split
  · exact ha
  · exact hb

theorem judgeTime_of_eq {tmInfo1 : Tm} {strAlarmTime : CStr} (hlen : strAlarmTime.length = 19)
    (hyear : tmInfo1.tm_year + 1900 = atoi (stringCpy_s 4 strAlarmTime)) :
    (judgeTime tmInfo1 strAlarmTime).freed ≠ some 0 := by
  unfold judgeTime
  rw [if_neg (not_not.mpr hlen.symm)]
  have hyear : tmInfo1.tm_year + 1900 = atoi (stringCpy_s 4 (strAlarmTime.drop 0)) := hyear
  dsimp only
  rw [if_pos hyear]
  -- every way out behind the year frees what `str` points to then
  repeat' apply freed_ite
  all_goals decide

theorem length_timeText (t : AlarmTime) : (timeText t.1).length = 19 := by
  have two : ∀ n : Nat, n < 100 → (zeroPadInt 2 (n : Int)).length = 2 := fun n hn =>
    length_zeroPadInt (by decide) hn
  have hday : t.1.day < 100 := by
    have hle := t.1.valid.day_mem.2
    have : daysInMonth t.1.year t.1.month ≤ 31 := by
      unfold daysInMonth
      split_ifs <;> decide
    omega
  have hmonth := t.1.valid.month_mem.2
  have hhour := t.1.valid.hour_lt
  have hminute := t.1.valid.minute_lt
  have hsecond := t.1.valid.second_lt
  unfold timeText
  simp only [List.length_append, List.length_singleton, length_zeroPadInt (by decide : 0 < 4) t.2,
    two _ hday, two t.1.month (by omega), two t.1.hour (by omega), two t.1.minute (by omega),
    two t.1.second (by omega)]

theorem atoi_year (t : AlarmTime) :
    atoi (stringCpy_s 4 (timeText t.1)) = (t.1.year / 10 : Nat) := by
  have hlen : (zeroPadInt 4 (t.1.year : Int)).length = 4 := length_zeroPadInt (by decide) t.2
  have hdigits := isDigit_zeroPadInt 4 t.1.year
  have hvalue : digitsValue (zeroPadInt 4 (t.1.year : Int)) = t.1.year := by
    rw [zeroPadInt_natCast, digitsValue_zeros, digitsValue_toText]
  have htake : stringCpy_s 4 (timeText t.1) = (zeroPadInt 4 (t.1.year : Int)).take 3 := by
    rw [stringCpy_s_succ, timeText, List.append_assoc]
    exact List.take_append_of_le_length (by omega)
  rw [htake]
  generalize zeroPadInt 4 (t.1.year : Int) = digits at hlen hdigits hvalue
  -- the last digit is what a division by ten leaves out
  obtain ⟨ds, c, rfl⟩ : ∃ ds c, digits = ds ++ [c] :=
    (List.eq_nil_or_concat' digits).resolve_left (List.ne_nil_of_length_pos (by omega))
  rw [List.length_append, List.length_singleton] at hlen
  have hds : ∀ d ∈ ds, isDigit d = true := fun d hd => hdigits d (List.mem_append_left _ hd)
  obtain ⟨d, hd, rfl⟩ := digitByte_of_isDigit (hdigits c (List.mem_append_right _ (by simp)))
  rw [digitsValue_concat, toNat_digitByte hd] at hvalue
  have hyear := t.2
  rw [List.take_left' (by omega), atoi_of_digits hds (by omega)]
  omega

/-- **When `judgeTime` is right.** -/
theorem judgeTime_iff (now : CalendarTime) (alarm : AlarmTime) :
    let judged := judgeTime now.tm (timeText alarm.1)
    ((judged.ret = true ↔ Recent now alarm.1) ∧ judged.freed = some 0) ↔
      ¬ Recent now alarm.1 ∧ alarm.1.year / 10 ≠ now.year := by
  intro judged
  have hlen := length_timeText alarm
  have hyear : now.tm.tm_year + 1900 = atoi (stringCpy_s 4 (timeText alarm.1)) ↔
      alarm.1.year / 10 = now.year := by
    have htm : now.tm.tm_year + 1900 = now.year := Int.sub_add_cancel _ _
    rw [atoi_year, htm, Int.natCast_inj]
    exact eq_comm
  by_cases heq : alarm.1.year / 10 = now.year
  · refine iff_of_false (fun h => ?_) fun h => h.2 heq
    exact judgeTime_of_eq hlen (hyear.mpr heq) h.2
  · have hjudged : judged = ⟨false, some 0⟩ := judgeTime_of_ne hlen fun h => heq (hyear.mp h)
    rw [hjudged, and_iff_left rfl, and_iff_left heq]
    exact ⟨fun h hrecent => Bool.false_ne_true (h.mpr hrecent),
      fun h => iff_of_false Bool.false_ne_true h⟩

theorem sampleTime_valid : ValidTime 2024 5 6 12 0 0 := by
  constructor <;> decide

def sampleTime : CalendarTime := ⟨2024, 5, 6, 12, 0, 0, sampleTime_valid⟩

/-- An alarm of this second is none of the last two minutes. -/
theorem judgeTime_misses :
    ¬ ∀ (now : CalendarTime) (alarm : AlarmTime),
      ((judgeTime now.tm (timeText alarm.1)).ret = true ↔ Recent now alarm.1) ∧
        (judgeTime now.tm (timeText alarm.1)).freed = some 0 := by
  intro h
  let alarm : AlarmTime := ⟨sampleTime, by decide⟩
  have hrecent : Recent sampleTime sampleTime := by
    unfold Recent
    omega
  have hjudged : judgeTime sampleTime.tm (timeText alarm.1) = ⟨false, some 0⟩ := by
    refine judgeTime_of_ne (length_timeText alarm) ?_
    rw [atoi_year]
    decide
  have hret := (h sampleTime alarm).1.mpr hrecent
  rw [hjudged] at hret
  cases hret

end GB28181.Platform
