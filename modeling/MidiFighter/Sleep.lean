import MidiFighter.BallDemo
import MidiFighter.Task

/-!
# Sleep

After `G_EE_SLEEP_TIME` minutes without a key, `default_display_run` shows
the ball demo. It counts half milliseconds, seconds and minutes in three
counters; it sets the demo up when the minutes are equal to the sleep time,
counts one minute more, and runs it while they are greater.

`SleepClock` has these counters only, and `sleepStep_refines` shows that the
refreshes follow it. Two things go wrong in the long run. The minutes are a
byte and wrap, which ends a sleep without a key (`sleep_ends_alone`); up to
the refresh that wraps them it lasts (`sleep_lasts`). And the host can move
the sleep time past the minutes, so that the demo runs without its set-up
(`sleep_starts_with_setup`).
-/

namespace MidiFighter

/-! ## The sleep clock -/

inductive BallDemoCall where
  | setup
  | run
deriving DecidableEq

structure SleepReport where
  calls : List BallDemoCall
deriving DecidableEq

/-- The counters of the sleep animation, with the calls of the last refresh. -/
structure SleepClock where
  halfMsCounter : UInt16
  oneSecondCounter : UInt8
  sleepMinuteCounter : UInt8
  gEeSleepTime : UInt8
  calls : List BallDemoCall

inductive SleepClockEvent where
  | timer
  | refresh (keyDown : Bool)
  | keyDown
  | push (gEeSleepTime : UInt8)

namespace SleepClock

def count (c : SleepClock) : SleepClock :=
  if c.halfMsCounter ≥ 2000 then
    if c.oneSecondCounter + 1 ≥ 60 then
      { c with
        halfMsCounter := 0
        oneSecondCounter := 0
        sleepMinuteCounter := c.sleepMinuteCounter + 1 }
    else { c with halfMsCounter := 0, oneSecondCounter := c.oneSecondCounter + 1 }
  else c

def start (c : SleepClock) : SleepClock :=
  if c.sleepMinuteCounter = c.gEeSleepTime then
    { c with sleepMinuteCounter := c.sleepMinuteCounter + 1, calls := c.calls ++ [.setup] }
  else c

def runDemo (c : SleepClock) : SleepClock :=
  if c.sleepMinuteCounter > c.gEeSleepTime then { c with calls := c.calls ++ [.run] } else c

def wake (keyDown : Bool) (c : SleepClock) : SleepClock :=
  if keyDown then { c with oneSecondCounter := 0, sleepMinuteCounter := 0 } else c

def sleep (keyDown : Bool) (c : SleepClock) : SleepClock :=
  if c.gEeSleepTime ≠ 0 then c.start.runDemo.wake keyDown else c

def refresh (keyDown : Bool) (c : SleepClock) : SleepClock :=
  SleepClock.sleep keyDown (SleepClock.count { c with calls := [] })

def step (c : SleepClock) : SleepClockEvent → SleepClock × List SleepReport
  | .timer => ({ c with halfMsCounter := c.halfMsCounter + 1 }, [])
  | .refresh keyDown => (c.refresh keyDown, [⟨(c.refresh keyDown).calls⟩])
  | .keyDown => ({ c with sleepMinuteCounter := 0 }, [])
  | .push gEeSleepTime => ({ c with gEeSleepTime := gEeSleepTime }, [])

/-! ## A refresh -/

def minutes (c : SleepClock) : UInt8 :=
  if c.halfMsCounter ≥ 2000 ∧ c.oneSecondCounter + 1 ≥ 60 then c.sleepMinuteCounter + 1
  else c.sleepMinuteCounter

theorem count_minutes (c : SleepClock) : c.count.sleepMinuteCounter = c.minutes := by
  unfold count minutes
  split_ifs <;> first | rfl | tauto

theorem count_frame (c : SleepClock) :
    c.count.gEeSleepTime = c.gEeSleepTime ∧ c.count.calls = c.calls := by
  unfold count
  split_ifs <;> exact ⟨rfl, rfl⟩

/-- Everything a refresh does with the minutes and the demo. -/
inductive Refreshed (keyDown : Bool) (minutes gEeSleepTime : UInt8) (c' : SleepClock) : Prop where
  | off (hoff : gEeSleepTime = 0) (hcalls : c'.calls = [])
  | awake (hlt : minutes < gEeSleepTime) (hcalls : c'.calls = [])
      (hminutes : c'.sleepMinuteCounter = if keyDown then 0 else minutes)
  | started (hon : gEeSleepTime ≠ 0) (heq : minutes = gEeSleepTime)
      (hcalls : c'.calls = if minutes + 1 > gEeSleepTime then [.setup, .run] else [.setup])
      (hminutes : c'.sleepMinuteCounter = if keyDown then 0 else minutes + 1)
  | asleep (hon : gEeSleepTime ≠ 0) (hgt : minutes > gEeSleepTime) (hcalls : c'.calls = [.run])
      (hminutes : c'.sleepMinuteCounter = if keyDown then 0 else minutes)

theorem wake_frame (keyDown : Bool) (c : SleepClock) :
    (c.wake keyDown).calls = c.calls ∧
      (c.wake keyDown).sleepMinuteCounter = if keyDown then 0 else c.sleepMinuteCounter := by
  cases keyDown <;> exact ⟨rfl, rfl⟩

theorem sleep_refreshed (keyDown : Bool) {c : SleepClock} (hcalls : c.calls = []) :
    Refreshed keyDown c.sleepMinuteCounter c.gEeSleepTime (c.sleep keyDown) := by
  unfold sleep
  by_cases hoff : c.gEeSleepTime = 0
  · rw [if_neg (not_not.mpr hoff)]
    exact .off hoff hcalls
  · rw [if_pos hoff]
    obtain ⟨hcalls', hminutes'⟩ := wake_frame keyDown c.start.runDemo
    by_cases heq : c.sleepMinuteCounter = c.gEeSleepTime
    · have hstart : c.start =
          { c with sleepMinuteCounter := c.sleepMinuteCounter + 1, calls := [.setup] } := by
        rw [start, if_pos heq, hcalls]
        rfl
      rw [hstart] at hcalls' hminutes' ⊢
      refine .started hoff heq (hcalls'.trans ?_) (hminutes'.trans ?_)
      · unfold runDemo
        split_ifs <;> rfl
      · unfold runDemo
        split_ifs <;> rfl
    · have hstart : c.start = c := if_neg heq
      rw [hstart] at hcalls' hminutes' ⊢
      by_cases hgt : c.sleepMinuteCounter > c.gEeSleepTime
      · have hrun : c.runDemo = { c with calls := [.run] } := by
          rw [runDemo, if_pos hgt, hcalls]
          rfl
        rw [hrun] at hcalls' hminutes' ⊢
        exact .asleep hoff hgt hcalls' hminutes'
      · have hlt : c.sleepMinuteCounter < c.gEeSleepTime :=
          UInt8.lt_of_le_of_ne (UInt8.not_lt.mp hgt) heq
        have hrun : c.runDemo = c := if_neg hgt
        rw [hrun] at hcalls' hminutes' ⊢
        exact .awake hlt (hcalls'.trans hcalls) hminutes'

theorem refreshed (keyDown : Bool) (c : SleepClock) :
    Refreshed keyDown c.minutes c.gEeSleepTime (c.refresh keyDown) := by
  have hcount := count_minutes { c with calls := [] }
  obtain ⟨htime, hcalls⟩ := count_frame { c with calls := [] }
  have hsleep := sleep_refreshed keyDown hcalls
  rw [hcount, htime] at hsleep
  exact hsleep

theorem refresh_gEeSleepTime (keyDown : Bool) (c : SleepClock) :
    (c.refresh keyDown).gEeSleepTime = c.gEeSleepTime := by
  have hstart : ∀ c : SleepClock, c.start.gEeSleepTime = c.gEeSleepTime := by
    intro c
    unfold start
    split_ifs <;> rfl
  have hrun : ∀ c : SleepClock, c.runDemo.gEeSleepTime = c.gEeSleepTime := by
    intro c
    unfold runDemo
    split_ifs <;> rfl
  have hwake : ∀ c : SleepClock, (c.wake keyDown).gEeSleepTime = c.gEeSleepTime := by
    intro c
    cases keyDown <;> rfl
  have hcount := (count_frame { c with calls := [] }).1
  rw [refresh, sleep]
  split_ifs
  · rw [hwake, hrun, hstart, hcount]
  · exact hcount

theorem refresh_of_minutes_gt {c : SleepClock} (hon : c.gEeSleepTime ≠ 0)
    (hgt : c.minutes > c.gEeSleepTime) : c.refresh false = { c.count with calls := [.run] } := by
  have hcount : count { c with calls := [] } = { c.count with calls := [] } := by
    unfold count
    split_ifs <;> rfl
  obtain ⟨htime, -⟩ := count_frame c
  rw [← htime] at hon hgt
  rw [← count_minutes] at hgt
  have hstart : start { c.count with calls := [] } = { c.count with calls := [] } :=
    if_neg (UInt8.ne_of_lt hgt).symm
  have hrun : runDemo { c.count with calls := [] } = { c.count with calls := [.run] } := if_pos hgt
  rw [refresh, hcount, sleep, if_pos hon, hstart, hrun]
  rfl

/-! ## How long a sleep lasts -/

def Asleep (c : SleepClock) : Prop := c.gEeSleepTime ≠ 0 ∧ c.sleepMinuteCounter > c.gEeSleepTime

def Idle (ev : SleepClockEvent) : Prop := ev = .timer ∨ ev = .refresh false

theorem asleep_of_run {c : SleepClock} (h : .run ∈ (c.refresh false).calls) :
    (c.refresh false).Asleep := by
  rw [Asleep, refresh_gEeSleepTime]
  cases refreshed false c with
  | off _ hcalls => simp [hcalls] at h
  | awake _ hcalls => simp [hcalls] at h
  | started hon heq hcalls hminutes =>
      rw [hminutes]
      refine ⟨hon, ?_⟩
      rw [hcalls] at h
      split_ifs at h with hgt
      · exact hgt
      · simp at h
  | asleep hon hgt _ hminutes =>
      rw [hminutes]
      exact ⟨hon, hgt⟩

/-- A refresh would take the minutes from 255 to 0. -/
def Wraps (c : SleepClock) : Prop :=
  c.sleepMinuteCounter = 255 ∧ c.halfMsCounter ≥ 2000 ∧ c.oneSecondCounter ≥ 59

instance (c : SleepClock) : Decidable c.Wraps := inferInstanceAs (Decidable (_ ∧ _))

def KeepsMinutes (c : SleepClock) : SleepClockEvent → Prop
  | .refresh _ => ¬c.Wraps
  | .timer | .keyDown | .push _ => True

instance (c : SleepClock) : ∀ ev, Decidable (c.KeepsMinutes ev)
  | .refresh _ => inferInstanceAs (Decidable (¬c.Wraps))
  | .timer | .keyDown | .push _ => inferInstanceAs (Decidable True)

theorem le_minutes {c : SleepClock} (h : ¬c.Wraps) : c.sleepMinuteCounter ≤ c.minutes := by
  unfold minutes
  split_ifs with hnext
  · have hsecond : ∀ b : UInt8, b + 1 ≥ 60 → b ≥ 59 := forall_byte (by decide +kernel)
    have hbyte : ∀ b : UInt8, b = 255 ∨ b ≤ b + 1 := forall_byte (by decide +kernel)
    refine (hbyte c.sleepMinuteCounter).resolve_left fun hfull => ?_
    exact h ⟨hfull, hnext.1, hsecond _ hnext.2⟩
  · exact UInt8.le_refl _

theorem run_of_asleep {c : SleepClock} (h : c.Asleep) (hkeep : ¬c.Wraps) :
    .run ∈ (c.refresh false).calls := by
  have hgt : c.minutes > c.gEeSleepTime := UInt8.lt_of_lt_of_le h.2 (le_minutes hkeep)
  cases refreshed false c with
  | off hoff => exact absurd hoff h.1
  | awake hlt => exact absurd hlt (UInt8.lt_asymm hgt)
  | started _ heq => exact absurd heq.symm (UInt8.ne_of_lt hgt)
  | asleep _ _ hcalls => simp [hcalls]

theorem asleep_run : ∀ {evs : List SleepClockEvent} {c : SleepClock}, c.Asleep →
    (∀ ev ∈ evs, Idle ev) → Machine.Along step KeepsMinutes c evs →
    ∀ r ∈ Machine.outputs step c evs, .run ∈ r.calls
  | [], _, _, _, _ => by simp
  | ev :: evs, c, hasleep, hidle, ⟨hkeep, halong⟩ => by
      obtain ⟨hev, hevs⟩ := List.forall_mem_cons.mp hidle
      rcases hev with rfl | rfl
      · exact asleep_run (c := (c.step .timer).1) hasleep hevs halong
      · have hrun := run_of_asleep hasleep hkeep
        rw [Machine.outputs_cons, step, List.singleton_append, List.forall_mem_cons]
        exact ⟨hrun, asleep_run (asleep_of_run hrun) hevs halong⟩

theorem pairwise_run : ∀ {evs : List SleepClockEvent} {c : SleepClock},
    (∀ ev ∈ evs, Idle ev) → Machine.Along step KeepsMinutes c evs →
    (Machine.outputs step c evs).Pairwise fun r r' => .run ∈ r.calls → .run ∈ r'.calls
  | [], _, _, _ => by simp
  | ev :: evs, c, hidle, ⟨_, halong⟩ => by
      obtain ⟨hev, hevs⟩ := List.forall_mem_cons.mp hidle
      rcases hev with rfl | rfl
      · exact pairwise_run (c := (c.step .timer).1) hevs halong
      · rw [Machine.outputs_cons, step, List.singleton_append, List.pairwise_cons]
        refine ⟨fun r hr hrun => ?_, pairwise_run hevs halong⟩
        exact asleep_run (asleep_of_run hrun) hevs halong r hr

/-! ## A long sleep -/

def second {ι : Type*} (timer refresh : ι) : List ι := List.replicate 2000 timer ++ [refresh]

def minute {ι : Type*} (timer refresh : ι) : List ι :=
  (List.replicate 60 (second timer refresh)).flatten

def minutesOf {ι : Type*} (timer refresh : ι) (n : Nat) : List ι :=
  (List.replicate n (minute timer refresh)).flatten

theorem minutesOf_succ {ι : Type*} (timer refresh : ι) (n : Nat) :
    minutesOf timer refresh (n + 1) = minutesOf timer refresh n ++ minute timer refresh := by
  rw [minutesOf, List.replicate_succ', List.flatten_append, List.flatten_singleton, minutesOf]

theorem map_minutesOf {ι κ : Type*} (f : ι → κ) (timer refresh : ι) (n : Nat) :
    (minutesOf timer refresh n).map f = minutesOf (f timer) (f refresh) n := by
  simp only [minutesOf, minute, second, List.map_flatten, List.map_replicate, List.map_append,
    List.map_cons, List.map_nil]

theorem mem_minutesOf {ι : Type*} {timer refresh ev : ι} {n : Nat}
    (h : ev ∈ minutesOf timer refresh n) : ev = timer ∨ ev = refresh := by
  obtain ⟨_, hminute, hev⟩ := List.mem_flatten.mp h
  obtain ⟨_, hsecond, hev⟩ := List.mem_flatten.mp (List.eq_of_mem_replicate hminute ▸ hev)
  rw [List.eq_of_mem_replicate hsecond, second, List.mem_append] at hev
  exact hev.imp List.eq_of_mem_replicate List.eq_of_mem_singleton

theorem timers_run (c : SleepClock) : ∀ n : Nat,
    Machine.final step c (List.replicate n .timer) =
      { c with halfMsCounter := c.halfMsCounter + UInt16.ofNat n }
  | 0 => by simp
  | n + 1 => by
      rw [List.replicate_succ', Machine.final_append, timers_run c n, UInt16.ofNat_add,
        ← UInt16.add_assoc]
      rfl

theorem second_timers_run (oneSecond minutes gEeSleepTime : UInt8) (calls : List BallDemoCall) :
    Machine.final step ⟨0, oneSecond, minutes, gEeSleepTime, calls⟩
        (List.replicate 2000 .timer) =
      ⟨2000, oneSecond, minutes, gEeSleepTime, calls⟩ := by
  have hhalf : (0 : UInt16) + UInt16.ofNat 2000 = 2000 := by decide
  rw [timers_run, hhalf]

section

variable {minutes gEeSleepTime : UInt8} (hon : gEeSleepTime ≠ 0) (calls : List BallDemoCall)

include hon

theorem refresh_second (hasleep : minutes > gEeSleepTime) {oneSecond : UInt8}
    (hsecond : ¬oneSecond + 1 ≥ 60) :
    SleepClock.refresh false ⟨2000, oneSecond, minutes, gEeSleepTime, calls⟩ =
      ⟨0, oneSecond + 1, minutes, gEeSleepTime, [.run]⟩ := by
  let c : SleepClock := ⟨2000, oneSecond, minutes, gEeSleepTime, calls⟩
  have hminutes : c.minutes = minutes := if_neg fun hover => hsecond hover.2
  have hrefresh := refresh_of_minutes_gt (c := c) hon (by rw [hminutes]; exact hasleep)
  rw [hrefresh, count, if_pos (by decide : (2000 : UInt16) ≥ 2000), if_neg hsecond]

theorem refresh_minute (hnext : minutes + 1 > gEeSleepTime) :
    SleepClock.refresh false ⟨2000, 59, minutes, gEeSleepTime, calls⟩ =
      ⟨0, 0, minutes + 1, gEeSleepTime, [.run]⟩ :=
  refresh_of_minutes_gt (c := ⟨2000, 59, minutes, gEeSleepTime, calls⟩) hon hnext

end

section

variable {minutes gEeSleepTime : UInt8} (hon : gEeSleepTime ≠ 0)
  (hasleep : minutes > gEeSleepTime) (calls : List BallDemoCall)

include hon hasleep

theorem seconds_run : ∀ n < 60, ∃ calls',
    Machine.final step ⟨0, 0, minutes, gEeSleepTime, calls⟩
        (List.replicate n (second .timer (.refresh false))).flatten =
      ⟨0, UInt8.ofNat n, minutes, gEeSleepTime, calls'⟩
  | 0, _ => ⟨calls, rfl⟩
  | n + 1, hn => by
      obtain ⟨calls', ih⟩ := seconds_run n (by omega)
      have hsecond : ¬UInt8.ofNat n + 1 ≥ 60 := by
        have hone : (1 : UInt8).toNat = 1 := rfl
        have hlimit : (60 : UInt8).toNat = 60 := rfl
        rw [ge_iff_le, UInt8.le_iff_toNat_le, UInt8.toNat_add, UInt8.toNat_ofNat', hone, hlimit]
        omega
      refine ⟨[.run], ?_⟩
      rw [List.replicate_succ', List.flatten_append, Machine.final_append, ih,
        List.flatten_singleton, second, Machine.final_append, second_timers_run,
        Machine.final_cons, Machine.final_nil, step, refresh_second hon calls' hasleep hsecond,
        UInt8.ofNat_add]
      rfl

theorem minute_run : ∃ pre calls', minute .timer (.refresh false) = pre ++ [.refresh false] ∧
    Machine.final step ⟨0, 0, minutes, gEeSleepTime, calls⟩ pre =
      ⟨2000, 59, minutes, gEeSleepTime, calls'⟩ := by
  obtain ⟨calls', hseconds⟩ := seconds_run hon hasleep calls 59 (by decide)
  refine ⟨(List.replicate 59 (second .timer (.refresh false))).flatten ++
    List.replicate 2000 .timer, calls', ?_, ?_⟩
  · rw [minute, List.replicate_succ', List.flatten_append, List.flatten_singleton, second,
      List.append_assoc]
  · rw [Machine.final_append, hseconds, second_timers_run]
    rfl

theorem minutes_run : ∀ n, minutes.toNat + n ≤ 255 → ∃ calls',
    Machine.final step ⟨0, 0, minutes, gEeSleepTime, calls⟩ (minutesOf .timer (.refresh false) n) =
      ⟨0, 0, minutes + UInt8.ofNat n, gEeSleepTime, calls'⟩
  | 0, _ => ⟨calls, by simp [minutesOf]⟩
  | n + 1, hn => by
      obtain ⟨calls', ih⟩ := minutes_run n (by omega)
      have hnext : ∀ k ≤ n + 1, minutes + UInt8.ofNat k > gEeSleepTime := by
        intro k hk
        rw [gt_iff_lt, UInt8.lt_iff_toNat_lt] at hasleep ⊢
        rw [UInt8.toNat_add, UInt8.toNat_ofNat']
        omega
      obtain ⟨pre, calls'', hminute, hpre⟩ := minute_run hon (hnext n (Nat.le_succ n)) calls'
      have hsucc : minutes + UInt8.ofNat (n + 1) = minutes + UInt8.ofNat n + 1 := by
        rw [UInt8.ofNat_add, ← UInt8.add_assoc]
        rfl
      have hlast := hnext (n + 1) (Nat.le_refl _)
      rw [hsucc] at hlast
      refine ⟨[.run], ?_⟩
      rw [minutesOf_succ, Machine.final_append, ih, hminute, Machine.final_append, hpre,
        Machine.final_cons, Machine.final_nil, step, refresh_minute hon calls'' hlast, hsucc]

/-- Every sleep ends after the minutes that are left to 256. -/
theorem sleep_ends (n : Nat) (hn : minutes.toNat + n = 255) :
    ∃ r ∈ Machine.outputs step ⟨0, 0, minutes, gEeSleepTime, calls⟩
        (minutesOf .timer (.refresh false) (n + 1)),
      .run ∉ r.calls := by
  obtain ⟨calls', hrun⟩ := minutes_run hon hasleep calls n (Nat.le_of_eq hn)
  have hbyte : (255 : UInt8).toNat = 255 := rfl
  have hfull : minutes + UInt8.ofNat n = 255 := by
    rw [← UInt8.toNat_inj, UInt8.toNat_add, UInt8.toNat_ofNat', hbyte]
    omega
  have hgt : (255 : UInt8) > gEeSleepTime := by
    rw [gt_iff_lt, UInt8.lt_iff_toNat_lt] at hasleep ⊢
    omega
  rw [hfull] at hrun
  obtain ⟨pre, calls'', hminute, hpre⟩ := minute_run hon hgt calls'
  let last : SleepClock := ⟨2000, 59, 255, gEeSleepTime, calls''⟩
  refine ⟨⟨(last.refresh false).calls⟩, Machine.mem_outputs.mpr
    ⟨minutesOf .timer (.refresh false) n ++ pre, .refresh false, [], ?_, ?_⟩, ?_⟩
  · rw [minutesOf_succ, hminute, List.append_assoc]
  · rw [Machine.final_append, hrun, hpre]
    exact List.mem_singleton.mpr rfl
  · have hminutes : last.minutes = 0 := by
      have hover : (2000 : UInt16) ≥ 2000 ∧ (59 : UInt8) + 1 ≥ 60 := by decide
      rw [SleepClock.minutes, if_pos hover]
      exact (by decide : (255 : UInt8) + 1 = 0)
    have hlast := refreshed false last
    rw [hminutes] at hlast
    cases hlast with
    | off _ hcalls => simp [hcalls]
    | awake _ hcalls => simp [hcalls]
    | started _ heq => exact absurd heq.symm hon
    | asleep _ hgt => exact absurd hgt (UInt8.not_lt.mpr UInt8.zero_le)

end

/-! ## How a sleep starts -/

/-- The demo is running, or the next refresh that runs it sets it up. -/
def Prepared (c : SleepClock) : Prop :=
  .run ∈ c.calls ∨ c.gEeSleepTime = 0 ∨ c.sleepMinuteCounter < c.gEeSleepTime ∨
    c.sleepMinuteCounter = c.gEeSleepTime ∧ c.oneSecondCounter < 59

theorem toNat_minutes (c : SleepClock) :
    c.minutes.toNat = c.sleepMinuteCounter.toNat ∨
      c.minutes.toNat = (c.sleepMinuteCounter.toNat + 1) % 256 := by
  unfold minutes
  split_ifs
  · exact .inr (UInt8.toNat_add ..)
  · exact .inl rfl

theorem minutes_le_of_prepared {c : SleepClock} (hon : c.gEeSleepTime ≠ 0)
    (h : c.gEeSleepTime = 0 ∨ c.sleepMinuteCounter < c.gEeSleepTime ∨
      c.sleepMinuteCounter = c.gEeSleepTime ∧ c.oneSecondCounter < 59) :
    c.minutes ≤ c.gEeSleepTime := by
  rcases h with hoff | hlt | ⟨heq, hsecond⟩
  · exact absurd hoff hon
  · rw [UInt8.lt_iff_toNat_lt] at hlt
    rw [UInt8.le_iff_toNat_le]
    rcases toNat_minutes c with hminutes | hminutes <;> omega
  · have hbytes : ∀ second : UInt8, second < 59 → ¬second + 1 ≥ 60 :=
      forall_byte (by decide +kernel)
    rw [minutes, if_neg fun hover => hbytes _ hsecond hover.2, heq]
    exact UInt8.le_refl _

theorem setup_of_prepared {c : SleepClock} (h : c.Prepared) {keyDown : Bool}
    (hrun : .run ∈ (c.refresh keyDown).calls) :
    .run ∈ c.calls ∨ .setup ∈ (c.refresh keyDown).calls := by
  rcases h with h | h
  · exact .inl h
  · right
    cases refreshed keyDown c with
    | off _ hcalls => simp [hcalls] at hrun
    | awake _ hcalls => simp [hcalls] at hrun
    | started _ _ hcalls =>
        rw [hcalls]
        split_ifs <;> simp
    | asleep hon hgt =>
        exact absurd hgt (UInt8.not_lt.mpr (minutes_le_of_prepared hon h))

theorem prepared_refresh (c : SleepClock) (keyDown : Bool) : (c.refresh keyDown).Prepared := by
  unfold Prepared
  rw [refresh_gEeSleepTime]
  cases refreshed keyDown c with
  | off hoff => exact .inr (.inl hoff)
  | awake hlt _ hminutes =>
      have hpos : 0 < c.gEeSleepTime := UInt8.lt_of_le_of_lt UInt8.zero_le hlt
      rw [hminutes]
      refine .inr (.inr (.inl ?_))
      cases keyDown
      · exact hlt
      · exact hpos
  | started hon heq hcalls hminutes =>
      rw [hcalls, hminutes]
      by_cases hgt : c.minutes + 1 > c.gEeSleepTime
      · exact .inl (by simp [hgt])
      · -- the longest sleep time: the minutes have wrapped
        have hbytes : ∀ b : UInt8, ¬b + 1 > b → b + 1 = 0 := forall_byte (by decide +kernel)
        rw [heq] at hgt ⊢
        rw [hbytes _ hgt, ite_self]
        exact .inr (.inr (.inl (UInt8.pos_iff_ne_zero.mpr hon)))
  | asleep _ _ hcalls => exact .inl (by simp [hcalls])

def PushOk (c : SleepClock) (ev : SleepClockEvent) : Prop :=
  ∀ gEeSleepTime, ev = .push gEeSleepTime → (c.step ev).1.Prepared

theorem prepared_step {c : SleepClock} (h : c.Prepared) {ev : SleepClockEvent}
    (hpush : c.PushOk ev) : (c.step ev).1.Prepared := by
  cases ev with
  | timer => exact h
  | refresh keyDown => exact prepared_refresh c keyDown
  | keyDown =>
      by_cases hoff : c.gEeSleepTime = 0
      · exact .inr (.inl hoff)
      · exact .inr (.inr (.inl (UInt8.pos_iff_ne_zero.mpr hoff)))
  | push gEeSleepTime => exact hpush gEeSleepTime rfl

/-- A refresh that runs the demo sets it up, or the one before ran it. -/
theorem isChain_setup : ∀ {evs : List SleepClockEvent} {c : SleepClock}, c.Prepared →
    Machine.Along step PushOk c evs →
    List.IsChain (fun calls calls' => .run ∈ calls' → .run ∈ calls ∨ .setup ∈ calls')
      (c.calls :: (Machine.outputs step c evs).map SleepReport.calls)
  | [], _, _, _ => by simp
  | ev :: evs, c, hprepared, ⟨hpush, halong⟩ => by
      have ih := isChain_setup (prepared_step hprepared hpush) halong
      cases ev with
      | timer => exact ih
      | keyDown => exact ih
      | push => exact ih
      | refresh keyDown =>
          rw [Machine.outputs_cons, step, List.singleton_append, List.map_cons,
            List.isChain_cons_cons]
          exact ⟨setup_of_prepared hprepared, ih⟩

end SleepClock

/-! ## The device under the clock -/

def SameClocks (d d' : Device) : Prop := d'.store = d.store ∧ d'.display.clocks = d.display.clocks

theorem SameClocks.refl (d : Device) : SameClocks d d := ⟨rfl, rfl⟩

theorem SameClocks.trans {d d' d'' : Device} (h : SameClocks d d') (h' : SameClocks d' d'') :
    SameClocks d d'' := ⟨h'.1.trans h.1, h'.2.trans h.2⟩

theorem startGeometricAnimation_sameClocks (d : Device) (buttonId animationId : UInt8) :
    SameClocks d (startGeometricAnimation d buttonId animationId) :=
  ⟨by rw [startGeometricAnimation_eq], startGeometricAnimation_clocks ..⟩

theorem midiAnimationState_sameClocks (pulseLevel : UInt8 → UInt8) (d : Device)
    (buffer : Nat → UInt8) : SameClocks d (midiAnimationState pulseLevel d buffer).1 := by
  refine List.foldlRecOn (motive := fun s : Device × (Nat → UInt8) => SameClocks d s.1) _ _
    (.refl d) ?_
  intro s hs i _
  refine hs.trans ?_
  unfold midiAnimationKey
  dsimp only
  split_ifs
  any_goals exact .refl _
  exact startGeometricAnimation_sameClocks ..

theorem collide_sameClocks (s : Scan) (this new : Cell) (thisBall thatBall : UInt8) :
    SameClocks s.device (collide s this new thisBall thatBall).1.device := by
  unfold collide collideVertically
  dsimp only
  split_ifs
  any_goals exact .refl _
  exact startGeometricAnimation_sameClocks ..

theorem visitBall_sameClocks (s : Scan) (this new : Cell) (thisBall : UInt8) :
    SameClocks s.device (visitBall s this new thisBall).1.device := by
  let counted : Scan := { s with ballsOnGrid := s.ballsOnGrid + 1 }
  have hcollide := collide_sameClocks counted this new thisBall (s.demo.ballGrid new)
  unfold visitBall
  dsimp only
  split_ifs
  · exact .refl _
  · exact .refl _
  · exact hcollide

theorem scanCell_sameClocks (s : Scan) (this : Cell) :
    SameClocks s.device (scanCell s this).1.device := by
  by_cases hball : s.demo.ballGrid this < ballDemoMaxBalls
  · let moved := movedBall (s.demo.ball (s.demo.ballGrid this)) this
    have hvisit := visitBall_sameClocks
      { s with demo := s.demo.modifyBall (s.demo.ballGrid this) fun _ => moved.2 } this moved.1
      (s.demo.ballGrid this)
    rw [scanCell_eq hball]
    exact hvisit
  · rw [scanCell, if_neg hball]
    exact .refl _

theorem scanGrid_sameClocks (d : Device) (s : BallDemo) :
    SameClocks d (scanGrid d s).1.device := by
  have hstep : ∀ (s : Scan) (c : Cell), SameClocks d s.device → True →
      SameClocks d (scanCell s c).1.device := fun s c hs _ => hs.trans (scanCell_sameClocks s c)
  exact Machine.final_invariant (fun s : Scan => SameClocks d s.device) hstep (.refl d)
    Machine.along_true

theorem updateBalls_sameClocks (d : Device) (s : BallDemo) :
    SameClocks d (updateBalls d s).1.1 := by
  have hscan := scanGrid_sameClocks d s
  unfold updateBalls
  generalize scanGrid d s = scan at hscan
  dsimp only
  split_ifs
  · exact hscan
  · exact hscan

theorem runBalls_sameClocks (d : Device) (s : BallDemo) : SameClocks d (runBalls d s).1.1 := by
  have hupdate := updateBalls_sameClocks (restartBallCounter d) s
  unfold runBalls
  generalize updateBalls (restartBallCounter d) s = updated at hupdate
  dsimp only
  split_ifs
  · exact hupdate
  · exact .refl d

/-! ## The machine -/

structure DemoLog where
  demo : BallDemo
  calls : List BallDemoCall

def DemoLog.setup (log : DemoLog) : DemoLog :=
  ⟨ballDemoSetup log.demo, log.calls ++ [.setup]⟩

def DemoLog.run (s : Screen DemoLog) : Screen DemoLog :=
  let run := ballDemoRun ⟨s.engine, s.ballDemo.demo, s.gDisplayBuffer⟩
  ⟨run.engine, ⟨run.ballDemo, s.ballDemo.calls ++ [.run]⟩, run.gDisplayBuffer⟩

/-- `keyDown` is `Midifighter_Task` with a key in `g_key_down`. -/
inductive SleepEvent where
  | timer
  | refresh (gKeyState gKeyDown : BitVec 64)
  | keyDown
  | push (buffer : List UInt8)

section

variable (pulseLevel : UInt8 → UInt8) (nullColor : Rgb)

def sleepStep (s : Screen DemoLog) : SleepEvent → Screen DemoLog × List SleepReport
  | .timer => ({ s with engine := timerOverflow s.engine }, [])
  | .refresh gKeyState gKeyDown =>
      let s' := defaultDisplayRun DemoLog.setup DemoLog.run pulseLevel nullColor gKeyState gKeyDown
        { s with ballDemo := { s.ballDemo with calls := [] } }
      (s', [⟨s'.ballDemo.calls⟩])
  | .keyDown => ({ s with engine := s.engine.setSleepMinuteCounter 0 }, [])
  | .push buffer =>
      ({ s with
          engine := { s.engine with device := (sysExCmdPushConfig s.engine.device buffer).1 } },
        [])

def Screen.boot (store : Store) (gKeyDebounceBuffer : List (BitVec 64)) (random : Nat → UInt16) :
    Screen DemoLog :=
  { engine := ⟨(MidiFighter.boot store gKeyDebounceBuffer).device, 0, 0, 0⟩
    ballDemo := ⟨.boot random, []⟩
    gDisplayBuffer := fun _ => 0 }

/-! ## Refinement -/

def Screen.sleepClock (s : Screen DemoLog) : SleepClock :=
  ⟨s.engine.halfMsCounter, s.engine.oneSecondCounter, s.engine.sleepMinuteCounter,
    s.engine.device.setting .sleepTime, s.ballDemo.calls⟩

theorem Screen.boot_setting (store : Store) (gKeyDebounceBuffer : List (BitVec 64))
    (random : Nat → UInt16) (f : Setting) :
    (Screen.boot store gKeyDebounceBuffer random).engine.device.setting f =
      (eepromSetup store).settings f := rfl

theorem Screen.boot_sleepClock (store : Store) (gKeyDebounceBuffer : List (BitVec 64))
    (random : Nat → UInt16) :
    let s := Screen.boot store gKeyDebounceBuffer random
    s.sleepClock =
      ⟨0, 0, s.engine.device.setting .sleepTime, s.engine.device.setting .sleepTime, []⟩ := rfl

def SleepEvent.seen (s : Screen DemoLog) : SleepEvent → SleepClockEvent
  | .timer => .timer
  | .refresh _ gKeyDown => .refresh (gKeyDown ≠ 0)
  | .keyDown => .keyDown
  | .push buffer => .push ((sysExCmdPushConfig s.engine.device buffer).1.setting .sleepTime)

theorem sleepClock_congr {s s' : Screen DemoLog}
    (hhalf : s'.engine.halfMsCounter = s.engine.halfMsCounter)
    (hsecond : s'.engine.oneSecondCounter = s.engine.oneSecondCounter)
    (hdevice : SameClocks s.engine.device s'.engine.device)
    (hcalls : s'.ballDemo.calls = s.ballDemo.calls) : s'.sleepClock = s.sleepClock := by
  have hminutes : s'.engine.sleepMinuteCounter = s.engine.sleepMinuteCounter :=
    congrArg Prod.snd hdevice.2
  rw [Screen.sleepClock, hhalf, hsecond, hminutes, hcalls, Device.setting, hdevice.1]
  rfl

theorem sleepClock_count (s : Screen DemoLog) :
    Screen.sleepClock { s with engine := s.engine.countSleepTime } = s.sleepClock.count := by
  unfold Screen.sleepClock SleepClock.count Engine.countSleepTime
  dsimp only
  split_ifs <;> rfl

theorem sleepClock_startSleep (s : Screen DemoLog) :
    (startSleep DemoLog.setup s).sleepClock = s.sleepClock.start := by
  unfold startSleep SleepClock.start Screen.sleepClock
  dsimp only
  split_ifs <;> rfl

theorem sleepClock_wakeUp (gKeyDown : BitVec 64) (s : Screen DemoLog) :
    (wakeUp gKeyDown s).sleepClock = s.sleepClock.wake (gKeyDown ≠ 0) := by
  unfold wakeUp SleepClock.wake Screen.sleepClock
  simp only [decide_eq_true_iff]
  split_ifs <;> rfl

theorem sleepClock_run (s : Screen DemoLog) :
    (DemoLog.run s).sleepClock =
      { s.sleepClock with calls := s.sleepClock.calls ++ [.run] } := by
  have hdevice : SameClocks s.engine.device (DemoLog.run s).engine.device := runBalls_sameClocks ..
  let logged : Screen DemoLog :=
    { s with ballDemo := { s.ballDemo with calls := s.ballDemo.calls ++ [.run] } }
  exact sleepClock_congr (s := logged) rfl rfl hdevice rfl

theorem sleepClock_runDemo (s : Screen DemoLog) :
    Screen.sleepClock
        (if s.engine.sleepMinuteCounter > s.engine.device.setting .sleepTime then DemoLog.run s
        else s) =
      s.sleepClock.runDemo := by
  by_cases hrun : s.engine.sleepMinuteCounter > s.engine.device.setting .sleepTime
  · have hrun' : s.sleepClock.sleepMinuteCounter > s.sleepClock.gEeSleepTime := hrun
    rw [if_pos hrun, SleepClock.runDemo, if_pos hrun', sleepClock_run]
  · have hrun' : ¬s.sleepClock.sleepMinuteCounter > s.sleepClock.gEeSleepTime := hrun
    rw [if_neg hrun, SleepClock.runDemo, if_neg hrun']

theorem sleepClock_sleepAnimation (gKeyDown : BitVec 64) (s : Screen DemoLog) :
    (sleepAnimation DemoLog.setup DemoLog.run gKeyDown s).sleepClock =
      s.sleepClock.sleep (gKeyDown ≠ 0) := by
  by_cases hon : s.engine.device.setting .sleepTime ≠ 0
  · have hon' : s.sleepClock.gEeSleepTime ≠ 0 := hon
    rw [sleepAnimation, if_pos hon, SleepClock.sleep, if_pos hon', ← sleepClock_startSleep,
      ← sleepClock_runDemo]
    exact sleepClock_wakeUp ..
  · have hon' : ¬s.sleepClock.gEeSleepTime ≠ 0 := hon
    rw [sleepAnimation, if_neg hon, SleepClock.sleep, if_neg hon']

theorem sleepClock_defaultDisplayRun (gKeyState gKeyDown : BitVec 64) (s : Screen DemoLog) :
    (defaultDisplayRun DemoLog.setup DemoLog.run pulseLevel nullColor gKeyState gKeyDown
      s).sleepClock = s.sleepClock.count.sleep (gKeyDown ≠ 0) := by
  have hanimated := midiAnimationState_sameClocks pulseLevel s.engine.device
    (midiColorState s.engine.device
      (infoDisplayActive s.engine.device gKeyState s.gDisplayBuffer)).1
  unfold defaultDisplayRun
  dsimp only
  generalize midiAnimationState pulseLevel s.engine.device _ = animated at hanimated ⊢
  let s₁ : Screen DemoLog := ⟨{ s.engine with device := animated.1 }, s.ballDemo, animated.2⟩
  have hs₁ : s₁.sleepClock = s.sleepClock := sleepClock_congr rfl rfl hanimated rfl
  have hs₂ : (sleepAnimation DemoLog.setup DemoLog.run gKeyDown
      { s₁ with engine := s₁.engine.countSleepTime }).sleepClock =
        s.sleepClock.count.sleep (gKeyDown ≠ 0) := by
    rw [sleepClock_sleepAnimation, sleepClock_count, hs₁]
  dsimp only [s₁] at hs₂
  generalize sleepAnimation DemoLog.setup DemoLog.run gKeyDown _ = s₂ at hs₂ ⊢
  -- drawing the animations moves no counter of the clock
  exact hs₂

theorem sleepStep_refines (s : Screen DemoLog) (ev : SleepEvent) :
    s.sleepClock.step (ev.seen s) =
      ((sleepStep pulseLevel nullColor s ev).1.sleepClock,
        (sleepStep pulseLevel nullColor s ev).2) := by
  cases ev with
  | timer => rfl
  | keyDown => rfl
  | push buffer =>
      have hminutes : (sysExCmdPushConfig s.engine.device buffer).1.display.sleepMinuteCounter =
          s.engine.sleepMinuteCounter :=
        congrArg Prod.snd (pushConfig_clocks s.engine.device buffer)
      simp only [sleepStep, SleepEvent.seen, SleepClock.step, Screen.sleepClock,
        Engine.sleepMinuteCounter, hminutes]
  | refresh gKeyState gKeyDown =>
      have hrefresh := sleepClock_defaultDisplayRun pulseLevel nullColor gKeyState gKeyDown
        { s with ballDemo := { s.ballDemo with calls := [] } }
      rw [sleepStep]
      generalize defaultDisplayRun DemoLog.setup DemoLog.run pulseLevel nullColor gKeyState gKeyDown
        _ = s' at hrefresh ⊢
      have hcalls := congrArg SleepClock.calls hrefresh
      dsimp only
      rw [hrefresh, show s'.ballDemo.calls = _ from hcalls]
      rfl

theorem outputs_sleepStep (s : Screen DemoLog) (evs : List SleepEvent) :
    Machine.outputs (sleepStep pulseLevel nullColor) s evs =
      Machine.outputs SleepClock.step s.sleepClock
        (Machine.seen (sleepStep pulseLevel nullColor) SleepEvent.seen s evs) :=
  (Machine.outputs_seen _ _ (sleepStep_refines pulseLevel nullColor) s evs).symm

/-! ## Sleep lasts until a key -/

def SleepEvent.Idle : SleepEvent → Prop
  | .timer => True
  | .refresh gKeyState gKeyDown => gKeyState = 0 ∧ gKeyDown = 0
  | .keyDown | .push _ => False

def SleepEvent.idleSeen : SleepEvent → SleepClockEvent
  | .timer => .timer
  | .refresh _ _ | .keyDown | .push _ => .refresh false

theorem seen_of_idle {evs : List SleepEvent} (hidle : ∀ ev ∈ evs, ev.Idle) (s : Screen DemoLog) :
    Machine.seen (sleepStep pulseLevel nullColor) SleepEvent.seen s evs =
      evs.map SleepEvent.idleSeen := by
  refine Machine.seen_eq_map fun ev hev s => ?_
  have hev := hidle ev hev
  cases ev with
  | timer => rfl
  | refresh gKeyState gKeyDown => rw [SleepEvent.seen, hev.2]; rfl
  | keyDown => exact hev.elim
  | push => exact hev.elim

/-- Not a refresh that finds minute 255 over, and so takes the minutes to 0. -/
def KeepsMinutes (s : Screen DemoLog) : SleepEvent → Prop
  | .refresh _ _ => ¬(s.engine.sleepMinuteCounter = 255 ∧ s.engine.halfMsCounter ≥ 2000
      ∧ s.engine.oneSecondCounter ≥ 59)
  | .timer | .keyDown | .push _ => True

theorem keepsMinutes_seen :
    KeepsMinutes = fun s ev => s.sleepClock.KeepsMinutes (ev.seen s) := by
  funext s ev
  cases ev <;> rfl

/-- Without a key, and as long as no refresh wraps the minutes, a refresh
that shows the demo is followed only by others that show it. -/
theorem sleep_lasts (s : Screen DemoLog) (evs : List SleepEvent)
    (hidle : ∀ ev ∈ evs, ev.Idle)
    (hkeep : Machine.Along (sleepStep pulseLevel nullColor) KeepsMinutes s evs) :
    (Machine.outputs (sleepStep pulseLevel nullColor) s evs).Pairwise
      fun r r' => .run ∈ r.calls → .run ∈ r'.calls := by
  rw [keepsMinutes_seen, Machine.along_seen Screen.sleepClock SleepEvent.seen
    (sleepStep_refines pulseLevel nullColor)] at hkeep
  rw [outputs_sleepStep]
  refine SleepClock.pairwise_run (fun ev hev => ?_) hkeep
  rw [seen_of_idle pulseLevel nullColor hidle] at hev
  obtain ⟨ev, -, rfl⟩ := List.mem_map.mp hev
  cases ev with
  | timer => exact .inl rfl
  | refresh | keyDown | push => exact .inr rfl

/-! ## Sleep starts with a set-up -/

/-- A push leaves the demo running, or the minutes below the sleep time, or
equal to it for longer than a refresh. -/
def KeepsSetup (s : Screen DemoLog) : SleepEvent → Prop
  | .push buffer =>
      let gEeSleepTime := (sysExCmdPushConfig s.engine.device buffer).1.setting .sleepTime
      .run ∈ s.ballDemo.calls ∨ gEeSleepTime = 0 ∨ s.engine.sleepMinuteCounter < gEeSleepTime ∨
        s.engine.sleepMinuteCounter = gEeSleepTime ∧ s.engine.oneSecondCounter < 59
  | .timer | .refresh _ _ | .keyDown => True

/-- From the boot on, a refresh that runs the demo sets it up, unless the
one before it ran it, as long as no push moves the sleep time past the
minutes. -/
theorem sleep_starts_with_setup (store : Store) (gKeyDebounceBuffer : List (BitVec 64))
    (random : Nat → UInt16) (evs : List SleepEvent)
    (hpushes : Machine.Along (sleepStep pulseLevel nullColor) KeepsSetup
      (.boot store gKeyDebounceBuffer random) evs) :
    List.IsChain (fun calls calls' => .run ∈ calls' → .run ∈ calls ∨ .setup ∈ calls')
      ([] :: (Machine.outputs (sleepStep pulseLevel nullColor)
        (.boot store gKeyDebounceBuffer random) evs).map SleepReport.calls) := by
  let s := Screen.boot store gKeyDebounceBuffer random
  have hpushes' : Machine.Along (sleepStep pulseLevel nullColor)
      (fun s ev => s.sleepClock.PushOk (ev.seen s)) s evs := by
    refine Machine.Along.imp_of_invariant (fun _ => True) (fun _ _ _ _ => trivial) ?_ trivial
      hpushes
    intro s ev _ hkeeps gEeSleepTime hpush
    cases ev with
    | push buffer =>
        simp only [KeepsSetup] at hkeeps
        simp only [SleepEvent.seen]
        generalize (sysExCmdPushConfig s.engine.device buffer).1.setting .sleepTime = pushed
          at hkeeps ⊢
        exact hkeeps
    | timer | refresh | keyDown => exact SleepClockEvent.noConfusion hpush
  have hboot : s.sleepClock.Prepared := .inr (.inr (.inr ⟨rfl, (by decide : (0 : UInt8) < 59)⟩))
  have hchain := SleepClock.isChain_setup hboot
    ((Machine.along_seen Screen.sleepClock SleepEvent.seen
      (sleepStep_refines pulseLevel nullColor)).mp hpushes')
  rw [outputs_sleepStep]
  exact hchain

end

/-! ## From the factory settings -/

def darkScreen : Screen DemoLog := .boot darkStore [] fun _ => 0

theorem darkScreen_sleepTime : darkScreen.engine.device.setting .sleepTime = 60 := by
  have hfactory : (eepromSetup darkStore).settings .sleepTime = 60 := by decide +kernel
  rw [darkScreen, Screen.boot_setting, hfactory]

theorem darkScreen_sleepClock : darkScreen.sleepClock = ⟨0, 0, 60, 60, []⟩ := by
  rw [darkScreen, Screen.boot_sleepClock, ← darkScreen, darkScreen_sleepTime]

theorem darkScreen_idle {evs : List SleepEvent} (hidle : ∀ ev ∈ evs, ev.Idle) :
    Machine.outputs (sleepStep id ⟨0, 0, 0⟩) darkScreen evs =
      Machine.outputs SleepClock.step ⟨0, 0, 60, 60, []⟩ (evs.map SleepEvent.idleSeen) := by
  rw [outputs_sleepStep, seen_of_idle _ _ hidle, darkScreen_sleepClock]

/-- Half a millisecond asleep. -/
theorem sleep_lasts_tick :
    let evs : List SleepEvent := [.refresh 0 0, .timer, .refresh 0 0]
    let reports := Machine.outputs (sleepStep id ⟨0, 0, 0⟩) darkScreen evs
    reports.map SleepReport.calls = [[.setup, .run], [.run]] ∧
      reports.Pairwise fun r r' => .run ∈ r.calls → .run ∈ r'.calls := by
  intro evs reports
  have hidle : ∀ ev ∈ evs, ev.Idle := by simp [evs, SleepEvent.Idle]
  have hreports : reports = [⟨[.setup, .run]⟩, ⟨[.run]⟩] :=
    (darkScreen_idle hidle).trans (by decide)
  refine ⟨by rw [hreports]; rfl, sleep_lasts id ⟨0, 0, 0⟩ darkScreen evs hidle ?_⟩
  rw [keepsMinutes_seen, Machine.along_seen Screen.sleepClock SleepEvent.seen
    (sleepStep_refines id ⟨0, 0, 0⟩), seen_of_idle _ _ hidle, darkScreen_sleepClock]
  decide

/-- The demo starts at the first refresh, and stops by itself 195 minutes
later. -/
theorem sleep_ends_alone :
    let evs : List SleepEvent := .refresh 0 0 :: SleepClock.minutesOf .timer (.refresh 0 0) 195
    let reports := Machine.outputs (sleepStep id ⟨0, 0, 0⟩) darkScreen evs
    (∀ ev ∈ evs, ev.Idle) ∧ darkScreen.engine.device.setting .sleepTime = 60 ∧
      ¬reports.Pairwise fun r r' => .run ∈ r.calls → .run ∈ r'.calls := by
  intro evs reports
  have hidle : ∀ ev ∈ evs, ev.Idle := by
    refine List.forall_mem_cons.mpr ⟨⟨rfl, rfl⟩, fun ev hev => ?_⟩
    rcases SleepClock.mem_minutesOf hev with rfl | rfl
    · trivial
    · exact ⟨rfl, rfl⟩
  refine ⟨hidle, darkScreen_sleepTime, fun hpairwise => ?_⟩
  have hseen : evs.map SleepEvent.idleSeen =
      .refresh false :: SleepClock.minutesOf .timer (.refresh false) 195 := by
    rw [List.map_cons, SleepClock.map_minutesOf]
    rfl
  rw [show reports = _ from darkScreen_idle hidle, hseen, Machine.outputs_cons, SleepClock.step,
    List.singleton_append, List.pairwise_cons] at hpairwise
  have hasleep : (61 : UInt8) > 60 := by decide
  obtain ⟨r, hr, hnot⟩ := SleepClock.sleep_ends (by decide) hasleep [.setup, .run] 194 rfl
  exact hnot (hpairwise.1 r hr (by decide))

theorem push_sleepTime {d : Device} (hver : d.store.eeprom eeEepromVersion = eepromLayout)
    (gEeSleepTime : UInt8) :
    (sysExCmdPushConfig d [22, gEeSleepTime]).1.setting .sleepTime = gEeSleepTime := by
  rw [Device.setting, pushConfig_settings hver]
  rfl

/-- The sleep time is shortened while the demo runs. -/
theorem sleep_starts_with_setup_shortened :
    let evs : List SleepEvent := [.refresh 0 0, .push [22, 10], .refresh 0 0]
    let reports := Machine.outputs (sleepStep id ⟨0, 0, 0⟩) darkScreen evs
    Machine.Along (sleepStep id ⟨0, 0, 0⟩) KeepsSetup darkScreen evs ∧
      List.IsChain (fun calls calls' => .run ∈ calls' → .run ∈ calls ∨ .setup ∈ calls')
        ([] :: reports.map SleepReport.calls) := by
  intro evs reports
  have hkeeps : Machine.Along (sleepStep id ⟨0, 0, 0⟩) KeepsSetup darkScreen evs := by
    refine ⟨trivial, .inl ?_, trivial, trivial⟩
    have hrefines := sleepStep_refines id ⟨0, 0, 0⟩ darkScreen (.refresh 0 0)
    rw [darkScreen_sleepClock] at hrefines
    generalize sleepStep id ⟨0, 0, 0⟩ darkScreen (.refresh 0 0) = next at hrefines ⊢
    have hcalls : [.setup, .run] = next.1.ballDemo.calls :=
      congrArg (fun c => SleepClock.calls c.1) hrefines
    simp [← hcalls]
  exact ⟨hkeeps, sleep_starts_with_setup id ⟨0, 0, 0⟩ darkStore [] (fun _ => 0) evs hkeeps⟩

/-- A sleep time of a minute right after the boot: the demo runs on a grid
that was never set up, with ball 0 in every cell. -/
theorem sleep_starts_without_setup :
    let evs : List SleepEvent := [.push [22, 1], .refresh 0 0]
    let reports := Machine.outputs (sleepStep id ⟨0, 0, 0⟩) darkScreen evs
    reports.map SleepReport.calls = [[.run]] ∧
      ¬List.IsChain (fun calls calls' => .run ∈ calls' → .run ∈ calls ∨ .setup ∈ calls')
        ([] :: reports.map SleepReport.calls) := by
  intro evs reports
  have hver : darkScreen.engine.device.store.eeprom eeEepromVersion = eepromLayout :=
    eepromSetup_version darkStore
  have hseen : Machine.seen (sleepStep id ⟨0, 0, 0⟩) SleepEvent.seen darkScreen evs =
      [.push 1, .refresh false] := by
    rw [Machine.seen, SleepEvent.seen, push_sleepTime hver]
    rfl
  have hcalls : reports.map SleepReport.calls = [[.run]] := by
    rw [show reports = _ from outputs_sleepStep .., hseen, darkScreen_sleepClock]
    decide
  rw [hcalls]
  exact ⟨rfl, by decide⟩

end MidiFighter
