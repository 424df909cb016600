import GsmTrunk.Proofs.Span.Sweep

/-!
# A whole reset of the idle channels

A reset that nothing comes between makes one step for each channel without a call, in ascending
order, and one more that ends it. A channel with a call is passed over within the step to the next
one. So a step from such a channel is the step from the channel after it, and the induction is on
the channels that are still ahead. The times of the steps matter only for the last one.
-/

namespace GsmTrunk.SpanState

def polls (s : SpanState) : List Millis → List Reaction
  | [] => []
  | now :: later => s.poll now :: (s.poll now).1.polls later

def idleFrom (s : SpanState) (first : Nat) : List Channel :=
  ((List.range' first (s.config.channels.toNat - first)).map UInt32.ofNat).filter fun channel =>
    ∀ a ∈ s.call, a.channel ≠ channel

/-- All channels without a call, not even one that is being torn down, in ascending order. -/
def idleChannels (s : SpanState) : List Channel :=
  ((List.range s.config.channels.toNat).map UInt32.ofNat).filter fun channel =>
    ∀ a ∈ s.call, a.channel ≠ channel

structure IsSweeping (s : SpanState) : Prop where
  interval : s.resetInterval.isSome = true
  up : s.availability.isUp = true
  resetting : s.resetting = true
  channels : s.config.channels.toNat ≤ maxChannels

/-- The channel that is reset last becomes another one. -/
def moveCursor (s : SpanState) (cursor : Int) : SpanState :=
  { s with resetCursor := cursor }

section Channels
variable (s : SpanState)

omit s in
theorem ofInt_natCast (k : Nat) : UInt32.ofInt k = UInt32.ofNat k := by
  rw [← UInt32.toNat_inj]
  simp only [UInt32.ofInt, UInt32.toNat_ofNat']
  omega

theorem idleChannels_eq : s.idleChannels = s.idleFrom 0 := by
  unfold idleChannels idleFrom
  rw [List.range_eq_range', Nat.sub_zero]

theorem idleFrom_eq_nil {k : Nat} (hk : s.config.channels.toNat ≤ k) : s.idleFrom k = [] := by
  unfold idleFrom
  rw [Nat.sub_eq_zero_of_le hk]
  rfl

theorem idleFrom_succ {k : Nat} (hk : k < s.config.channels.toNat) :
    s.idleFrom k =
      if s.isIdle (UInt32.ofNat k) then UInt32.ofNat k :: s.idleFrom (k + 1)
      else s.idleFrom (k + 1) := by
  have hlength : s.config.channels.toNat - k = s.config.channels.toNat - (k + 1) + 1 := by omega
  have hidle : decide (∀ a ∈ s.call, a.channel ≠ UInt32.ofNat k) = s.isIdle (UInt32.ofNat k) := by
    rw [Bool.eq_iff_iff, decide_eq_true_eq]
    exact isIdle_eq_true_iff.symm
  unfold idleFrom
  rw [hlength, List.range'_succ, List.map_cons, List.filter_cons, hidle]

theorem polls_congr {s s' : SpanState} (h : ∀ now, s.poll now = s'.poll now) (times : List Millis) :
    s.polls times = s'.polls times := by
  cases times with
  | nil => rfl
  | cons now later => rw [polls, polls, h now]

end Channels

namespace IsSweeping
variable {s : SpanState} {k : Nat}

theorem moveCursor (h : s.IsSweeping) (cursor : Int) : (s.moveCursor cursor).IsSweeping :=
  ⟨h.interval, h.up, h.resetting, h.channels⟩

theorem poll_eq (h : s.IsSweeping) (now : Millis) :
    s.poll now =
      if s.nextIdle (s.resetCursor + 1) < s.config.channels.toNat then
        (s.moveCursor (s.nextIdle (s.resetCursor + 1)),
          [.resetChannel (UInt32.ofInt (s.nextIdle (s.resetCursor + 1)))])
      else ({ s with resetting := false, resetCursor := -1, lastReset := now }, []) := by
  unfold poll
  split
  next hnone =>
    have hsome := h.interval
    rw [hnone] at hsome
    cases hsome
  next =>
    rw [if_neg (by simp [h.up]), if_neg (by simp [h.resetting]), channelCount_eq h.channels]
    rfl

theorem poll_last (h : s.IsSweeping) (hcursor : s.resetCursor = s.config.channels.toNat - 1)
    (now : Millis) :
    s.poll now = ({ s with resetting := false, resetCursor := -1, lastReset := now }, []) := by
  have hle := s.le_nextIdle (s.resetCursor + 1)
  rw [h.poll_eq, if_neg]
  omega

theorem poll_idle (h : s.IsSweeping) (hk : k < s.config.channels.toNat)
    (hcursor : s.resetCursor = k - 1) (hidle : s.isIdle (UInt32.ofNat k) = true) (now : Millis) :
    s.poll now = (s.moveCursor k, [.resetChannel (UInt32.ofNat k)]) := by
  have hstart : s.resetCursor + 1 = k := by omega
  have hnext : s.nextIdle k = k := if_pos (ofInt_natCast k ▸ hidle)
  rw [h.poll_eq, hstart, hnext, if_pos (Int.ofNat_lt.2 hk), ofInt_natCast]

theorem poll_busy (h : s.IsSweeping) (hk : k < s.config.channels.toNat)
    (hcursor : s.resetCursor = k - 1) (hbusy : s.isIdle (UInt32.ofNat k) = false) (now : Millis) :
    s.poll now = (s.moveCursor k).poll now := by
  have hbound := h.channels
  have hmax : maxChannels = 31 := rfl
  have hstart : s.resetCursor + 1 = k := by omega
  have hnext : s.nextIdle k = k + 1 := by
    unfold nextIdle
    rw [ofInt_natCast, hbusy, if_neg Bool.false_ne_true]
  have hidle := s.isIdle_nextIdle (n := k) (by omega) (by omega)
  rw [hnext] at hidle
  have hlater : (s.moveCursor k).nextIdle ((s.moveCursor k).resetCursor + 1) = k + 1 :=
    if_pos hidle
  rw [h.poll_eq, (h.moveCursor k).poll_eq, hstart, hnext, hlater]
  rfl

theorem polls_from (h : s.IsSweeping) (hk : k ≤ s.config.channels.toNat)
    (hcursor : s.resetCursor = k - 1) {times : List Millis}
    (htimes : times.length = (s.idleFrom k).length) (last : Millis) :
    s.polls (times ++ [last]) =
      (s.idleFrom k).map (fun channel => (s.moveCursor channel.toNat, [.resetChannel channel])) ++
        [({ s with resetting := false, resetCursor := -1, lastReset := last }, [])] := by
  induction hahead : s.config.channels.toNat - k generalizing s k times with
  | zero =>
    obtain rfl : k = s.config.channels.toNat := by omega
    rw [idleFrom_eq_nil s (Nat.le_refl _)] at htimes ⊢
    obtain rfl := List.length_eq_zero_iff.1 htimes
    exact congrArg (· :: []) (h.poll_last hcursor last)
  | succ ahead ih =>
    have hlt : k < s.config.channels.toNat := by omega
    have hmoved := h.moveCursor k
    have hnext : (s.moveCursor k).resetCursor = (k + 1 : Nat) - 1 := by
      change (k : Int) = _
      omega
    by_cases hidle : s.isIdle (UInt32.ofNat k) = true
    · rw [idleFrom_succ s hlt, if_pos hidle] at htimes ⊢
      obtain ⟨now, later, rfl⟩ := List.exists_cons_of_length_eq_add_one htimes
      have hlater := ih hmoved (by exact hlt) hnext
        (Nat.succ.inj htimes : later.length = ((s.moveCursor k).idleFrom (k + 1)).length)
        (by change s.config.channels.toNat - (k + 1) = ahead; omega)
      have hchannel : (UInt32.ofNat k).toNat = k := by
        have hbound := h.channels
        have hmax : maxChannels = 31 := rfl
        have hword : k < 4294967296 := by omega
        exact UInt32.toNat_ofNat_of_lt' hword
      rw [List.cons_append, polls, h.poll_idle hlt hcursor hidle, hlater, List.map_cons, hchannel]
      rfl
    · have hbusy : s.isIdle (UInt32.ofNat k) = false := by simpa using hidle
      rw [idleFrom_succ s hlt, if_neg hidle] at htimes ⊢
      rw [polls_congr (h.poll_busy hlt hcursor hbusy)]
      exact ih hmoved (by exact hlt) hnext htimes
        (by change s.config.channels.toNat - (k + 1) = ahead; omega)

end IsSweeping

/-- A reset that begins and that nothing comes between resets every channel without a call once,
one with each step and in ascending order, and ends with the step after that. Its cursor apart, the
state stays as it was until the end, and from then on the interval counts anew. -/
theorem polls_eq_resets {s : SpanState} (h : s.IsSweeping) (hcursor : s.resetCursor = -1)
    {times : List Millis} (htimes : times.length = s.idleChannels.length) (last : Millis) :
    s.polls (times ++ [last]) =
      s.idleChannels.map (fun channel =>
          ({ s with resetCursor := channel.toNat }, [.resetChannel channel])) ++
        [({ s with resetting := false, resetCursor := -1, lastReset := last }, [])] := by
  rw [idleChannels_eq] at htimes ⊢
  exact h.polls_from (Nat.zero_le _) hcursor htimes last

/-- Of three channels the middle one has a call that waits for the acknowledgement of its end. -/
def besideRelease : SpanState where
  config := { keeping with channels := 3 }
  policy := {}
  availability := Availability.initial.markUp
  resetting := true
  lastReset := 0
  resetInterval := some 1000
  call := some { ActiveCall.inbound 7 1 {} "s" with phase := .hungUp }
  alreadyHungUp := true

theorem polls_eq_resets_besideRelease :
    let s := besideRelease
    s.IsSweeping ∧ s.resetCursor = -1 ∧ s.idleChannels = [0, 2] ∧
      s.polls [6000, 6010, 6030] =
        [({ s with resetCursor := 0 }, [.resetChannel 0]),
          ({ s with resetCursor := 2 }, [.resetChannel 2]),
          ({ s with resetting := false, lastReset := 6030 }, [])] := by
  intro s
  have hsweeping : s.IsSweeping := ⟨rfl, by decide, rfl, by decide⟩
  have hidle : s.idleChannels = [0, 2] := by decide
  have htimes : ([6000, 6010] : List Millis).length = s.idleChannels.length := by
    rw [hidle]
    rfl
  have hpolls := polls_eq_resets hsweeping rfl htimes 6030
  rw [hidle] at hpolls
  exact ⟨hsweeping, rfl, hidle, hpolls⟩

end GsmTrunk.SpanState
