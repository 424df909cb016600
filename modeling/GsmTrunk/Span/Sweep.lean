import GsmTrunk.Span.State

/-!
# Reset of the idle channels

Once an interval has passed since the last time, while the link is up, the channels without a call
are reset. `poll` is one step of it: the first step only begins, each further one resets the next
channel, and the one after the last channel ends it. If the link goes down meanwhile, it is broken
off.
-/

namespace GsmTrunk.SpanState

/-- The first channel from `n` on without a call. A span has at most one call, so at most one
channel is passed over. -/
def nextIdle (s : SpanState) (n : Int) : Int :=
  if s.isIdle (UInt32.ofInt n) then n else n + 1

def poll (s : SpanState) (now : Millis) : Reaction :=
  match s.resetInterval with
  | none => (s, [])
  | some interval =>
    if !s.availability.isUp then (if s.resetting then s.clearResetting else s, [])
    else if !s.resetting then
      (if interval ≤ now - s.lastReset then { s with resetting := true, resetCursor := -1 } else s,
        [])
    else
      let next := s.nextIdle (s.resetCursor + 1)
      if next < s.channelCount then
        ({ s with resetCursor := next }, [.resetChannel (UInt32.ofInt next)])
      else ({ s.clearResetting with lastReset := now }, [])

/-- A step changes nothing but how far the reset is and when it ended last. -/
theorem state_poll (s : SpanState) (now : Millis) :
    ∃ resetting cursor last, (s.poll now).1 =
      { s with resetting := resetting, resetCursor := cursor, lastReset := last } := by
  unfold poll
  split
  · exact ⟨_, _, _, rfl⟩
  · dsimp only
    repeat' split
    all_goals exact ⟨_, _, _, rfl⟩

/-- A step resets one channel at most, and does nothing else. -/
theorem effects_poll (s : SpanState) (now : Millis) :
    (s.poll now).2 = [] ∨ ∃ channel, (s.poll now).2 = [.resetChannel channel] := by
  unfold poll
  split
  · exact .inl rfl
  · dsimp only
    split
    · exact .inl rfl
    · split
      · exact .inl rfl
      · split
        · exact .inr ⟨_, rfl⟩
        · exact .inl rfl

end GsmTrunk.SpanState
