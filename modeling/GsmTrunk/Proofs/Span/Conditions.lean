import GsmTrunk.Span.Availability

/-!
# Condition bits

What becomes of single bits when bits are set and taken away, and the part of the invariant of a
span that speaks of its bits alone: a link that is up excludes alarm and faults.
-/

namespace GsmTrunk.Availability

section Bits
variable {a : Availability} {m b : UInt8}

theorem and_or_right (x y z : UInt8) : (x ||| y) &&& z = (x &&& z) ||| (y &&& z) := by
  rw [← UInt8.toBitVec_inj]
  exact BitVec.and_or_distrib_right

theorem contains_insert_of_and_eq_zero (h : m &&& b = 0) :
    (a.insert m).contains b = a.contains b := by
  simp [contains, insert, and_or_right, h]

theorem contains_insert_of_and_eq_self (h : m &&& b = b) : (a.insert m).contains b = true := by
  have hb : a.bits &&& b ||| b = b := by
    rw [← UInt8.toBitVec_inj]
    ext k hk
    simp
  simp [contains, insert, and_or_right, h, hb]

theorem contains_remove_of_and_eq_self (h : ~~~m &&& b = b) :
    (a.remove m).contains b = a.contains b := by
  simp [contains, remove, UInt8.and_assoc, h]

theorem contains_remove_of_and_eq_zero (h : ~~~m &&& b = 0) (hb : b ≠ 0) :
    (a.remove m).contains b = false := by
  simp [contains, remove, UInt8.and_assoc, h, hb.symm]

theorem contains_or {c : UInt8} (hb : a.contains b = true) (hc : a.contains c = true) :
    a.contains (b ||| c) = true := by
  have hboth : a.bits &&& (b ||| c) = b ||| c := by
    rw [UInt8.and_comm, and_or_right, UInt8.and_comm b, UInt8.and_comm c, eq_of_beq hb,
      eq_of_beq hc]
  exact beq_iff_eq.2 hboth

end Bits

/-- The SIM card, the signal or the PIN fails. -/
def isFaulty (a : Availability) : Bool :=
  a.contains noSim || a.contains noSignal || a.contains pinError

theorem isFaulty_insert {a : Availability} {m : UInt8} (hsim : m &&& noSim = 0)
    (hsignal : m &&& noSignal = 0) (hpin : m &&& pinError = 0) :
    (a.insert m).isFaulty = a.isFaulty := by
  rw [isFaulty, contains_insert_of_and_eq_zero hsim, contains_insert_of_and_eq_zero hsignal,
    contains_insert_of_and_eq_zero hpin]
  rfl

theorem isFaulty_leaveAlarm (a : Availability) : a.leaveAlarm.isFaulty = a.isFaulty :=
  isFaulty_insert (by decide) (by decide) (by decide)

theorem isFaulty_insert_powered (a : Availability) : (a.insert powered).isFaulty = a.isFaulty :=
  isFaulty_insert (by decide) (by decide) (by decide)

theorem isFaulty_enterAlarm (a : Availability) : a.enterAlarm.isFaulty = a.isFaulty := by
  rw [enterAlarm, isFaulty, contains_remove_of_and_eq_self (by decide),
    contains_remove_of_and_eq_self (by decide), contains_remove_of_and_eq_self (by decide)]
  rfl

theorem isFaulty_markUp {a : Availability} (h : a.contains provisioned = true) :
    a.markUp.isFaulty = false := by
  rw [markUp, if_pos h, isFaulty_insert (by decide) (by decide) (by decide), isFaulty,
    contains_remove_of_and_eq_zero (by decide) (by decide),
    contains_remove_of_and_eq_zero (by decide) (by decide),
    contains_remove_of_and_eq_zero (by decide) (by decide)]
  rfl

theorem not_isFaulty_remove {a : Availability} (h : a.isFaulty = false) :
    (a.remove noSignal).isFaulty = false := by
  simp only [isFaulty, Bool.or_eq_false_iff] at h ⊢
  refine ⟨⟨?_, contains_remove_of_and_eq_zero (by decide) (by decide)⟩, ?_⟩
  · exact (contains_remove_of_and_eq_self (by decide)).trans h.1.1
  · exact (contains_remove_of_and_eq_self (by decide)).trans h.2

/-- While the link is up the span is provisioned, without alarm and without fault. -/
def UpIsClear (a : Availability) : Prop :=
  a.isUp = true →
    a.contains provisioned = true ∧ a.contains notInAlarm = true ∧ a.isFaulty = false

theorem upIsClear_of_down {a : Availability} (h : a.isUp = false) : a.UpIsClear := by
  intro hup
  rw [h] at hup
  cases hup

theorem upIsClear_markUp {a : Availability} (h : a.contains provisioned = true) :
    a.markUp.UpIsClear := by
  refine fun _ => ⟨?_, ?_, isFaulty_markUp h⟩
  · rw [markUp, if_pos h, contains_insert_of_and_eq_zero (by decide),
      contains_remove_of_and_eq_self (by decide)]
    exact h
  · rw [markUp, if_pos h, contains_insert_of_and_eq_self (by decide)]

namespace UpIsClear
variable {a : Availability}

theorem isConsistent (h : a.UpIsClear) : a.isConsistent = true := by
  cases hup : a.isUp with
  | false => exact isConsistent_of_not_isUp hup
  | true => simp [Availability.isConsistent, contains_or (h hup).1 (h hup).2.1]

theorem leaveAlarm (h : a.UpIsClear) : a.leaveAlarm.UpIsClear := by
  intro hup
  have hsame : a.leaveAlarm.isUp = a.isUp := contains_insert_of_and_eq_zero (by decide)
  obtain ⟨hp, -, hf⟩ := h (hsame ▸ hup)
  refine ⟨?_, contains_insert_of_and_eq_self (by decide), ?_⟩
  · exact (contains_insert_of_and_eq_zero (by decide)).trans hp
  · exact a.isFaulty_leaveAlarm.trans hf

theorem power (h : a.UpIsClear) : (a.insert powered).UpIsClear := by
  intro hup
  have hsame : (a.insert powered).isUp = a.isUp := contains_insert_of_and_eq_zero (by decide)
  obtain ⟨hp, ha, hf⟩ := h (hsame ▸ hup)
  refine ⟨?_, ?_, a.isFaulty_insert_powered.trans hf⟩
  · exact (contains_insert_of_and_eq_zero (by decide)).trans hp
  · exact (contains_insert_of_and_eq_zero (by decide)).trans ha

theorem signal (h : a.UpIsClear) : (a.remove noSignal).UpIsClear := by
  intro hup
  have hsame : (a.remove noSignal).isUp = a.isUp := contains_remove_of_and_eq_self (by decide)
  obtain ⟨hp, ha, hf⟩ := h (hsame ▸ hup)
  refine ⟨?_, ?_, not_isFaulty_remove hf⟩
  · exact (contains_remove_of_and_eq_self (by decide)).trans hp
  · exact (contains_remove_of_and_eq_self (by decide)).trans ha

end UpIsClear

end GsmTrunk.Availability
