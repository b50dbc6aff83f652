import MidiFighter.Feedback

/-!
# The delay of a note off

A note off only stamps its button with seven bits of the time; the button
is switched off by the first `update_note_off_feedback_delay` that finds
the stamp old enough. Here a note off is followed through any run of
packets for other buttons, clock ticks and updates, packets of every kind
included: no handler but those of the note messages writes the two tables
(`packetSwitch_button`).

`NoteOffPending` is what holds of the button `n` milliseconds after the
note off at `t`: it is stamped, or the stamp has been found due. When it is
found due is `noteOffDue_iff`: after two milliseconds, or after one if that
crossed a multiple of 128.
-/

namespace MidiFighter

def IsNoteFor (bank k : Nat) (s : Clocked) : FeedbackEvent → Prop
  | .packet p =>
      (p.cin = 0x9 ∨ p.cin = 0x8) ∧ Addresses (s.link.device.setting .midiChannel) bank k p
  | _ => False

instance (bank k : Nat) (s : Clocked) : DecidablePred (IsNoteFor bank k s)
  | .packet _ => inferInstanceAs (Decidable (_ ∧ _))
  | .tick => inferInstanceAs (Decidable False)
  | .update => inferInstanceAs (Decidable False)

section

variable {bank k : Nat} (hbank : bank < 2) (hk : k < 64)

include hbank hk

theorem packetSwitch_button {l : Link} {p : EventPacket} {now : UInt16}
    (h : ¬((p.cin = 0x9 ∨ p.cin = 0x8) ∧ Addresses (l.device.setting .midiChannel) bank k p)) :
    (packetSwitch l p now).1.device.button (buttonCell bank k)
      = l.device.button (buttonCell bank k) := by
  refine packetSwitch_device
    (P := fun d => d.button (buttonCell bank k) = l.device.button (buttonCell bank k)) rfl
    ?_ ?_ ?_ ?_ ?_
  · intro _
    obtain ⟨_, _, _, hclock⟩ := handleRealTime_cases l.device p
    rw [hclock]
    rfl
  · intro hon
    rw [handleNoteOn_cells hbank hk, if_neg fun haddr => h ⟨Or.inl hon, haddr⟩]
  · intro hoff
    rw [handleNoteOff_cells hbank hk, if_neg fun haddr => h ⟨Or.inr hoff, haddr⟩]
  · intro _
    rcases handleControlChange_cases l.device p with hcc | ⟨-, _, -, hcc⟩
    · rw [hcc]
    · rw [hcc, changeBank_eq]
      rfl
  · intro fn _ _ buffer _
    obtain ⟨hstate, hcounter⟩ := call_noteTables fn l.device buffer
    rw [Device.button, hstate, hcounter]
    rfl

end

/-! ## From the note off to the update -/

/-- `n` milliseconds after a note off at `t` its stamp has been due. -/
def BeenDue (t : UInt16) (n : Nat) : Prop := 2 ≤ n ∨ (n = 1 ∧ t.toNat % 128 = 127)

instance (t : UInt16) (n : Nat) : Decidable (BeenDue t n) := inferInstanceAs (Decidable (_ ∨ _))

theorem BeenDue.succ {t : UInt16} {n : Nat} (h : BeenDue t n) : BeenDue t (n + 1) := by
  unfold BeenDue at h ⊢
  omega

structure NoteOffPending (bank k : Nat) (v : UInt8) (t : UInt16) (n : Nat) (s : Clocked) :
    Prop where
  time : s.systemTimeMs = t + UInt16.ofNat n
  button : s.link.device.button (buttonCell bank k) = (v, noteOffStamp t)
    ∨ s.link.device.button (buttonCell bank k) = (0, 0) ∧ BeenDue t n

section

variable {bank k : Nat} {v : UInt8} {t : UInt16} (hbank : bank < 2) (hk : k < 64)

include hbank hk

theorem noteOff_pending {s : Clocked} {p : EventPacket} (hoff : p.cin = 0x8)
    (haddr : Addresses (s.link.device.setting .midiChannel) bank k p) :
    NoteOffPending bank k (s.link.device.button (buttonCell bank k)).1 s.systemTimeMs 0
      (feedbackStep s (.packet p)).1 := by
  refine ⟨(UInt16.add_zero _).symm, Or.inl ?_⟩
  rw [feedbackStep, packetSwitch_noteOff _ hoff]
  exact (handleNoteOff_cells hbank hk s.link.device p s.systemTimeMs).trans (if_pos haddr)

theorem NoteOffPending.update {n : Nat} {s : Clocked} (hs : NoteOffPending bank k v t n s)
    (h127 : n ≤ 127) :
    (feedbackStep s .update).1.link.device.button (buttonCell bank k)
      = if BeenDue t n then (0, 0) else (v, noteOffStamp t) := by
  have hdue : NoteOffDue (noteOffStamp t) s.systemTimeMs ↔ BeenDue t n := by
    rw [hs.time]
    exact noteOffDue_iff t h127
  rw [feedbackStep_button hbank hk s (e := .update) trivial, buttonStep]
  rcases hs.button with hbutton | ⟨hbutton, hbeen⟩
  · rw [hbutton, releaseButton]
    exact if_congr hdue rfl rfl
  · rw [hbutton, releaseButton_zero, if_pos hbeen]

theorem NoteOffPending.step {n : Nat} {s : Clocked} {e : FeedbackEvent}
    (hs : NoteOffPending bank k v t n s) (h127 : n ≤ 127) (he : ¬IsNoteFor bank k s e) :
    NoteOffPending bank k v t (n + if e = .tick then 1 else 0) (feedbackStep s e).1 := by
  cases e with
  | packet p =>
      refine ⟨hs.time, ?_⟩
      rw [feedbackStep, packetSwitch_button hbank hk he]
      exact hs.button
  | tick =>
      refine ⟨?_, hs.button.imp_right fun hdone => ⟨hdone.1, hdone.2.succ⟩⟩
      rw [if_pos rfl, UInt16.ofNat_add, ← UInt16.add_assoc, ← hs.time]
      rfl
  | update =>
      refine ⟨hs.time, ?_⟩
      rw [hs.update hbank hk h127]
      split
      · rename_i hbeen
        exact Or.inr ⟨rfl, hbeen⟩
      · exact Or.inl rfl

/-- The induction is on the events, with the time passed growing from `n`. -/
theorem NoteOffPending.run : ∀ {events : List FeedbackEvent} {n : Nat} {s : Clocked},
    NoteOffPending bank k v t n s → n + events.count .tick ≤ 127 →
    Machine.Along feedbackStep (fun s e => ¬IsNoteFor bank k s e) s events →
      NoteOffPending bank k v t (n + events.count .tick) (Machine.final feedbackStep s events)
  | [], _, _, hs, _, _ => hs
  | e :: events, n, s, hs, h127, ⟨he, halong⟩ => by
      have hcount : (e :: events).count .tick
          = (if e = .tick then 1 else 0) + events.count .tick := by
        rw [List.count_cons, Nat.add_comm]
        simp
      rw [hcount, ← Nat.add_assoc] at h127 ⊢
      exact (hs.step hbank hk (by omega) he).run h127 halong

end

/-- **The note-off delay.** An update up to 127 milliseconds after a note off,
with no note message for the button in between, finds the button switched off
iff at least two milliseconds have passed, and as it was otherwise, for every
time of the note off except in one case: the note off came in the last
millisecond before a multiple of 128, and one millisecond has passed. -/
theorem noteOff_delay_iff (s : Clocked) {bank k : Nat} (hbank : bank < 2) (hk : k < 64)
    (p : EventPacket) (hoff : p.cin = 0x8)
    (haddr : Addresses (s.link.device.setting .midiChannel) bank k p) (mid : List FeedbackEvent)
    (hmid : Machine.Along feedbackStep (fun s e => ¬IsNoteFor bank k s e)
      (feedbackStep s (FeedbackEvent.packet p)).1 mid)
    (h127 : mid.count FeedbackEvent.tick ≤ 127) :
    let t := s.systemTimeMs
    let elapsed := mid.count FeedbackEvent.tick
    let before := Machine.final feedbackStep (feedbackStep s (FeedbackEvent.packet p)).1 mid
    let after := (feedbackStep before FeedbackEvent.update).1
    (after.link.device.button (buttonCell bank k) =
        if 2 ≤ elapsed then (0, 0)
        else ((s.link.device.button (buttonCell bank k)).1, noteOffStamp t)) ↔
      ¬(elapsed = 1 ∧ t.toNat % 128 = 127) := by
  intro t elapsed before after
  have hpending := (noteOff_pending hbank hk hoff haddr).run hbank hk
    (by rw [Nat.zero_add]; exact h127) hmid
  rw [Nat.zero_add] at hpending
  have hafter : after.link.device.button (buttonCell bank k) =
      if BeenDue t elapsed then (0, 0)
      else ((s.link.device.button (buttonCell bank k)).1, noteOffStamp t) :=
    hpending.update hbank hk h127
  rw [hafter]
  by_cases hearly : elapsed = 1 ∧ t.toNat % 128 = 127
  · -- the button is off already, but a stamp is never zero
    have hdue : BeenDue t elapsed := Or.inr hearly
    rw [if_pos hdue, if_neg (by omega)]
    refine iff_of_false (fun heq => (noteOffStamp_spec t).1 ?_) (not_not_intro hearly)
    rw [← (Prod.mk.inj heq).2]
    decide
  · exact iff_of_true (if_congr (or_iff_left hearly) rfl rfl) hearly

/-- Key 5 of bank 0, lit, gets its note off at time 126. An update one tick
later leaves it lit, one two ticks later switches it off. -/
theorem noteOff_delay_one_tick :
    let store : Store := ⟨fun _ => 0, 0, Setting.factory, ⟨fun _ => 0, fun _ => 0⟩⟩
    let lit := (feedbackStep ⟨⟨Device.start store, .boot⟩, 126⟩
      (FeedbackEvent.packet ⟨0x9, 0x92, 41, 100⟩)).1
    let after := fun ticks => (feedbackStep (Machine.final feedbackStep
      (feedbackStep lit (FeedbackEvent.packet ⟨0x8, 0x82, 41, 0⟩)).1 ticks)
      FeedbackEvent.update).1.link.device.button (buttonCell 0 5)
    after [FeedbackEvent.tick] = (100, noteOffStamp 126)
      ∧ after [FeedbackEvent.tick, FeedbackEvent.tick] = (0, 0) := by
  intro store lit after
  have hlit : (lit.link.device.button (buttonCell 0 5)).1 = 100 := by decide +kernel
  have hone := (noteOff_delay_iff lit (by decide : 0 < 2) (by decide : 5 < 64)
    ⟨0x8, 0x82, 41, 0⟩ (by decide) (by decide) [FeedbackEvent.tick] (by decide)
    (by decide)).mpr (by decide)
  have htwo := (noteOff_delay_iff lit (by decide : 0 < 2) (by decide : 5 < 64)
    ⟨0x8, 0x82, 41, 0⟩ (by decide) (by decide) [FeedbackEvent.tick, FeedbackEvent.tick]
    (by decide) (by decide)).mpr (by decide)
  rw [hlit] at hone
  exact ⟨hone, htwo⟩

/-- One tick later, at time 127, the same note off is carried out after one
millisecond. -/
theorem noteOff_delay_early :
    let store : Store := ⟨fun _ => 0, 0, Setting.factory, ⟨fun _ => 0, fun _ => 0⟩⟩
    let lit := (feedbackStep ⟨⟨Device.start store, .boot⟩, 127⟩
      (FeedbackEvent.packet ⟨0x9, 0x92, 41, 100⟩)).1
    let after := Machine.final feedbackStep lit
      [FeedbackEvent.packet ⟨0x8, 0x82, 41, 0⟩, FeedbackEvent.tick, FeedbackEvent.update]
    (lit.link.device.button (buttonCell 0 5)).1 = 100
      ∧ lit.systemTimeMs = 127 ∧ after.systemTimeMs = 128
      ∧ (after.link.device.button (buttonCell 0 5)).1 = 0 := by
  decide +kernel

end MidiFighter
