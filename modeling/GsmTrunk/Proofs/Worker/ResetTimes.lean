import GsmTrunk.Engine.Simulated
import GsmTrunk.Proofs.Worker.Handling

/-!
# When idle channels are reset

A worker handles one wakeup in a round and then makes one step of the reset of idle channels, each
at its own time of a clock that does not go back. `SafeReset` says what holds when such a step
resets a channel: the link is up, the channel is idle, it comes after all channels of the same pass,
and the interval has passed both since the grace period of the link and since the pass before. The
books of a run carry this: no pass is under way while the link is down, so a link that comes up puts
off every reset that follows.
-/

namespace GsmTrunk

structure Round where
  moment : Moment
  reply : LegReply
  wakeup : Wakeup
  polled : Moment

def Round.times (r : Round) : List Millis :=
  [r.moment.now, r.polled.now]

/-- What is kept of a round: the event that was dispatched, the state before it, the state that the
step of the reset finds, and what the step does and leaves. -/
structure RoundRecord where
  round : Round
  event : Option Event
  found : SpanState
  polled : SpanState
  swept : List Action
  left : SpanState

namespace RoundRecord
variable (r : RoundRecord)

def handledAt : Millis :=
  r.round.moment.now

def sweptAt : Millis :=
  r.round.polled.now

def Resets (channel : Channel) : Prop :=
  .channelReset channel ∈ r.swept

def Begins : Prop :=
  r.polled.resetting = false ∧ r.left.resetting = true

/-- The step finds no channel left while the link is up, which completes the pass. -/
def Completes : Prop :=
  r.polled.resetting = true ∧ r.polled.availability.isUp = true ∧ r.left.resetting = false

def RestoresLink : Prop :=
  r.event = some .linkUp ∧ r.found.availability.isUp = false

end RoundRecord

namespace Worker
variable {ε : Type} [ModemEngine ε] (w : Worker ε)

def handled (r : Round) : Worker ε :=
  (w.handleWakeup r.moment r.reply r.wakeup).1

def afterRound (r : Round) : Worker ε :=
  ((w.handled r).sweep r.polled r.reply).1

theorem afterRound_eq_next (t : Turn) :
    w.afterRound ⟨t.moment, t.reply, t.wakeup, t.moment⟩ = w.next t := rfl

def roundRecord (r : Round) : RoundRecord where
  round := r
  event := w.event? r.moment r.wakeup
  found := w.state
  polled := (w.handled r).state
  swept := ((w.handled r).sweep r.polled r.reply).2
  left := (w.afterRound r).state

def history (w : Worker ε) : List Round → List RoundRecord
  | [] => []
  | r :: rest => w.roundRecord r :: (w.afterRound r).history rest

end Worker

structure SafeReset (c : SpanConfig) (policy : Policy) (interval : Millis)
    (earlier : List RoundRecord) (r : RoundRecord) (channel : Channel) : Prop where
  up : r.polled.availability.isUp = true
  exists_channel : channel < c.channels
  idle : ∀ a, r.polled.call = some a → a.channel ≠ channel
  /-- Since a round that reset another channel, no new pass was begun. -/
  ascending : ∀ first q between, earlier = first ++ q :: between → (∀ x ∈ between, ¬x.Begins) →
    ∀ other, q.Resets other → other < channel
  restored : ∀ q ∈ earlier ++ [r], q.RestoresLink →
    q.handledAt + policy.linkUpGrace + interval ≤ r.sweptAt
  completed : ∀ q ∈ earlier, q.Completes → q.sweptAt + interval ≤ r.sweptAt

namespace SpanState
variable {s : SpanState} {now : Millis} {event : Option Event}

theorem lastReset_putOff_linkUp :
    (s.putOff (some .linkUp) now).lastReset = now + s.policy.linkUpGrace := rfl

theorem lastReset_putOff_of_ne (h : event ≠ some .linkUp) :
    (s.putOff event now).lastReset = s.lastReset := by
  rw [putOff, if_neg h]

end SpanState

/-- The channels that were reset in the pass under way are not beyond a channel. -/
def ReachedUpTo (h : List RoundRecord) (cursor : Int) : Prop :=
  ∀ first q between, h = first ++ q :: between → (∀ x ∈ between, ¬x.Begins) →
    ∀ channel, q.Resets channel → (channel.toNat : Int) ≤ cursor

theorem append_singleton_eq_append_cons {α : Type} {h first between : List α} {q r : α}
    (heq : h ++ [r] = first ++ q :: between) :
    between = [] ∧ q = r ∨ ∃ rest, between = rest ++ [r] ∧ h = first ++ q :: rest := by
  rcases List.eq_nil_or_concat between with rfl | ⟨rest, x, rfl⟩
  · have hlast := List.append_inj_right' heq rfl
    exact .inl ⟨rfl, (List.singleton_inj.1 hlast).symm⟩
  · rw [List.concat_eq_append, ← List.cons_append, ← List.append_assoc] at heq
    have hlast := List.append_inj_right' heq rfl
    obtain rfl := List.singleton_inj.1 hlast
    exact .inr ⟨rest, List.concat_eq_append, List.append_cancel_right heq⟩

theorem ReachedUpTo.mono {h : List RoundRecord} {old new : Int} (hreached : ReachedUpTo h old)
    (hle : old ≤ new) : ReachedUpTo h new := fun first q between heq hquiet channel hq =>
  Int.le_trans (hreached first q between heq hquiet channel hq) hle

theorem ReachedUpTo.append {h : List RoundRecord} {r : RoundRecord} {cursor : Int}
    (hreached : r.Begins ∨ ReachedUpTo h cursor)
    (hnew : ∀ channel, r.Resets channel → (channel.toNat : Int) ≤ cursor) :
    ReachedUpTo (h ++ [r]) cursor := by
  intro first q between heq hquiet channel hq
  rcases append_singleton_eq_append_cons heq with ⟨-, rfl⟩ | ⟨rest, rfl, rfl⟩
  · exact hnew channel hq
  · rcases hreached with hbegins | hbefore
    · exact absurd hbegins (hquiet r (List.mem_append_right rest List.mem_cons_self))
    · exact hbefore first q rest rfl (fun x hx => hquiet x (List.mem_append_left [r] hx)) channel hq

section Books
variable {c : SpanConfig} {policy : Policy} {interval : Millis} {h : List RoundRecord}
  {r : RoundRecord} {now : Millis} {s : SpanState}

/-- The books of the rounds so far, for the state that the last one left at its end. -/
structure SweepBooks (c : SpanConfig) (policy : Policy) (interval : Millis)
    (h : List RoundRecord) (now : Millis) (s : SpanState) : Prop where
  config_eq : s.config = c
  policy_eq : s.policy = policy
  interval_eq : s.resetInterval = some interval
  provisioned : s.availability.contains Availability.provisioned = true
  past : ∀ q ∈ h, q.handledAt ≤ now ∧ q.sweptAt ≤ now
  restored : ∀ q ∈ h, q.RestoresLink → q.handledAt + policy.linkUpGrace ≤ s.lastReset
  completed : ∀ q ∈ h, q.Completes → q.sweptAt ≤ s.lastReset
  cursor : s.resetting = true → -1 ≤ s.resetCursor
  linked : s.resetting = true → s.availability.isUp = true
  restored_due : s.resetting = true → ∀ q ∈ h, q.RestoresLink →
    q.handledAt + policy.linkUpGrace + interval ≤ now
  completed_due : s.resetting = true → ∀ q ∈ h, q.Completes → q.sweptAt + interval ≤ now
  reached : s.resetting = true → ReachedUpTo h s.resetCursor

/-- The books between the two parts of a round, of which it is not known yet what its step does. -/
structure PolledBooks (c : SpanConfig) (policy : Policy) (interval : Millis)
    (h : List RoundRecord) (r : RoundRecord) : Prop where
  config_eq : r.polled.config = c
  policy_eq : r.polled.policy = policy
  interval_eq : r.polled.resetInterval = some interval
  provisioned : r.polled.availability.contains Availability.provisioned = true
  past : ∀ q ∈ h ++ [r], q.handledAt ≤ r.sweptAt ∧ q.sweptAt ≤ r.sweptAt
  restored : ∀ q ∈ h ++ [r], q.RestoresLink →
    q.handledAt + policy.linkUpGrace ≤ r.polled.lastReset
  completed : ∀ q ∈ h, q.Completes → q.sweptAt ≤ r.polled.lastReset
  cursor : r.polled.resetting = true → -1 ≤ r.polled.resetCursor
  restored_due : r.polled.resetting = true → ∀ q ∈ h ++ [r], q.RestoresLink →
    q.handledAt + policy.linkUpGrace + interval ≤ r.sweptAt
  completed_due : r.polled.resetting = true → ∀ q ∈ h, q.Completes →
    q.sweptAt + interval ≤ r.sweptAt
  reached : r.polled.resetting = true → ReachedUpTo h r.polled.resetCursor

/-- A link that comes up in this round finds no pass under way, so it only puts off the next. -/
theorem SweepBooks.polled (hb : SweepBooks c policy interval h now r.found)
    (hspared : SpanState.SparesSweep (r.found.putOff r.event r.handledAt) r.polled)
    (hbefore : now ≤ r.handledAt) (hwithin : r.handledAt ≤ r.sweptAt) :
    PolledBooks c policy interval h r := by
  have hlate : now ≤ r.sweptAt := Nat.le_trans hbefore hwithin
  have hlast : r.event = some .linkUp ∧
      r.polled.lastReset = r.handledAt + policy.linkUpGrace ∨
      r.event ≠ some .linkUp ∧ r.polled.lastReset = r.found.lastReset := by
    by_cases he : r.event = some .linkUp
    · refine .inl ⟨he, ?_⟩
      rw [hspared.lastReset, he, SpanState.lastReset_putOff_linkUp, hb.policy_eq]
    · exact .inr ⟨he, by rw [hspared.lastReset, SpanState.lastReset_putOff_of_ne he]⟩
  refine
    { config_eq := hspared.config.trans hb.config_eq
      policy_eq := hspared.policy.trans hb.policy_eq
      interval_eq := hspared.interval.trans hb.interval_eq
      provisioned := hspared.provisioned hb.provisioned
      past := fun q hq => ?_
      restored := fun q hq hrestores => ?_
      completed := fun q hq hcompletes => ?_
      cursor := fun hr => ?_
      restored_due := fun hr q hq hrestores => ?_
      completed_due := fun hr q hq hcompletes => ?_
      reached := fun hr => ?_ }
  · rcases List.mem_append.1 hq with hq | hq
    · obtain ⟨hhandled, hswept⟩ := hb.past q hq
      exact ⟨Nat.le_trans hhandled hlate, Nat.le_trans hswept hlate⟩
    · obtain rfl := List.mem_singleton.1 hq
      exact ⟨hwithin, Nat.le_refl _⟩
  · rcases List.mem_append.1 hq with hq | hq
    · rcases hlast with ⟨-, hlast⟩ | ⟨-, hlast⟩
      · rw [hlast]
        exact Nat.add_le_add_right (Nat.le_trans (hb.past q hq).1 hbefore) _
      · rw [hlast]
        exact hb.restored q hq hrestores
    · obtain rfl := List.mem_singleton.1 hq
      rcases hlast with ⟨-, hlast⟩ | ⟨hne, -⟩
      · exact Nat.le_of_eq hlast.symm
      · exact absurd hrestores.1 hne
  · rcases hlast with ⟨-, hlast⟩ | ⟨-, hlast⟩
    · rw [hlast]
      exact Nat.le_add_right_of_le (Nat.le_trans (hb.past q hq).2 hbefore)
    · rw [hlast]
      exact hb.completed q hq hcompletes
  · obtain ⟨hr', hc⟩ := hspared.resetting hr
    rw [hc]
    exact hb.cursor hr'
  · obtain ⟨hr', -⟩ := hspared.resetting hr
    rcases List.mem_append.1 hq with hq | hq
    · exact Nat.le_trans (hb.restored_due hr' q hq hrestores) hlate
    · obtain rfl := List.mem_singleton.1 hq
      have hup := hb.linked hr'
      rw [hrestores.2] at hup
      cases hup
  · exact Nat.le_trans (hb.completed_due (hspared.resetting hr).1 q hq hcompletes) hlate
  · obtain ⟨hr', hc⟩ := hspared.resetting hr
    rw [hc]
    exact hb.reached hr'

theorem PolledBooks.rest (hb : PolledBooks c policy interval h r) {cursor : Int} {last : Millis}
    (hleft : r.left =
      { r.polled with resetting := false, resetCursor := cursor, lastReset := last })
    (hrestored : ∀ q ∈ h ++ [r], q.RestoresLink → q.handledAt + policy.linkUpGrace ≤ last)
    (hcompleted : ∀ q ∈ h ++ [r], q.Completes → q.sweptAt ≤ last) :
    SweepBooks c policy interval (h ++ [r]) r.sweptAt r.left := by
  rw [hleft]
  exact
    { config_eq := hb.config_eq
      policy_eq := hb.policy_eq
      interval_eq := hb.interval_eq
      provisioned := hb.provisioned
      past := hb.past
      restored := hrestored
      completed := hcompleted
      cursor := fun hr => by cases hr
      linked := fun hr => by cases hr
      restored_due := fun hr => by cases hr
      completed_due := fun hr => by cases hr
      reached := fun hr => by cases hr }

theorem PolledBooks.advance (hb : PolledBooks c policy interval h r) {cursor : Int}
    (hleft : r.left = { r.polled with resetting := true, resetCursor := cursor })
    (hup : r.polled.availability.isUp = true) (hcursor : -1 ≤ cursor)
    (hrestored : ∀ q ∈ h ++ [r], q.RestoresLink →
      q.handledAt + policy.linkUpGrace + interval ≤ r.sweptAt)
    (hcompleted : ∀ q ∈ h, q.Completes → q.sweptAt + interval ≤ r.sweptAt)
    (hreached : ReachedUpTo (h ++ [r]) cursor) :
    SweepBooks c policy interval (h ++ [r]) r.sweptAt r.left := by
  have hgoes : ¬r.Completes := by
    rintro ⟨-, -, hr⟩
    rw [hleft] at hr
    cases hr
  have hearlier {q : RoundRecord} (hq : q ∈ h ++ [r]) (hcompletes : q.Completes) : q ∈ h := by
    rcases List.mem_append.1 hq with hq | hq
    · exact hq
    · obtain rfl := List.mem_singleton.1 hq
      exact absurd hcompletes hgoes
  rw [hleft]
  exact
    { config_eq := hb.config_eq
      policy_eq := hb.policy_eq
      interval_eq := hb.interval_eq
      provisioned := hb.provisioned
      past := hb.past
      restored := hb.restored
      completed := fun q hq hcompletes => hb.completed q (hearlier hq hcompletes) hcompletes
      cursor := fun _ => hcursor
      linked := fun _ => hup
      restored_due := fun _ => hrestored
      completed_due := fun _ q hq hcompletes => hcompleted q (hearlier hq hcompletes) hcompletes
      reached := fun _ => hreached }

theorem PolledBooks.swept (hb : PolledBooks c policy interval h r) {effects : List Effect}
    (hstep : r.polled.PollStep interval r.sweptAt (r.left, effects))
    (hresets : ∀ channel, r.Resets channel ↔ .resetChannel channel ∈ effects) :
    SweepBooks c policy interval (h ++ [r]) r.sweptAt r.left ∧
      ∀ channel, r.Resets channel → SafeReset c policy interval h r channel := by
  have hquiet (heffects : effects = []) (channel : Channel) : ¬r.Resets channel := by
    rw [hresets, heffects]
    exact List.not_mem_nil
  have hearlier (hbusy : ¬r.Completes) (q : RoundRecord) (hq : q ∈ h ++ [r])
      (hcompletes : q.Completes) : q.sweptAt ≤ r.polled.lastReset := by
    rcases List.mem_append.1 hq with hq | hq
    · exact hb.completed q hq hcompletes
    · obtain rfl := List.mem_singleton.1 hq
      exact absurd hcompletes hbusy
  generalize hreaction : (r.left, effects) = reaction at hstep
  cases hstep with
  | idle hr =>
    obtain ⟨hleft, heffects⟩ := Prod.mk.inj hreaction
    refine ⟨?_, fun channel hq => absurd hq (hquiet heffects channel)⟩
    have hbusy : ¬r.Completes := fun hc => by
      rw [hc.1] at hr
      cases hr
    exact hb.rest (by rw [hleft, ← hr]) hb.restored (hearlier hbusy)
  | broken hdown =>
    obtain ⟨hleft, heffects⟩ := Prod.mk.inj hreaction
    refine ⟨?_, fun channel hq => absurd hq (hquiet heffects channel)⟩
    have hbusy : ¬r.Completes := fun hc => by
      rw [hc.2.1] at hdown
      cases hdown
    exact hb.rest hleft hb.restored (hearlier hbusy)
  | begins hup hr hdue =>
    obtain ⟨hleft, heffects⟩ := Prod.mk.inj hreaction
    refine ⟨?_, fun channel hq => absurd hq (hquiet heffects channel)⟩
    refine hb.advance hleft hup (Int.le_refl _) ?_ ?_ ?_
    · intro q hq hrestores
      exact Nat.le_trans (Nat.add_le_add_right (hb.restored q hq hrestores) _) hdue
    · intro q hq hcompletes
      exact Nat.le_trans (Nat.add_le_add_right (hb.completed q hq hcompletes) _) hdue
    · exact .append (.inl ⟨hr, by rw [hleft]⟩) fun channel hq => absurd hq (hquiet heffects channel)
  | @resets channel hup hr hnext hchannel hidle =>
    obtain ⟨hleft, heffects⟩ := Prod.mk.inj hreaction
    have honly {other : Channel} (hq : r.Resets other) : other = channel := by
      rw [hresets, heffects, List.mem_singleton] at hq
      exact Effect.resetChannel.inj hq
    have hbefore := hb.reached hr
    refine ⟨?_, fun other hq => ?_⟩
    · refine hb.advance (by rw [hleft, ← hr]) hup (by have := hb.cursor hr; omega)
        (hb.restored_due hr) (hb.completed_due hr) ?_
      refine .append (.inr (hbefore.mono (Int.le_of_lt hnext))) fun other hq => ?_
      obtain rfl := honly hq
      exact Int.le_refl _
    · obtain rfl := honly hq
      exact
        { up := hup
          exists_channel := hb.config_eq ▸ hchannel
          idle := hidle
          ascending := fun first q between heq hpass last hlast => by
            have hle := hbefore first q between heq hpass last hlast
            exact UInt32.lt_iff_toNat_lt.2 (by omega)
          restored := hb.restored_due hr
          completed := hb.completed_due hr }
  | ends hup hr =>
    obtain ⟨hleft, heffects⟩ := Prod.mk.inj hreaction
    refine ⟨?_, fun channel hq => absurd hq (hquiet heffects channel)⟩
    refine hb.rest hleft ?_ fun q hq _ => (hb.past q hq).2
    intro q hq hrestores
    exact Nat.le_trans (Nat.le_add_right _ interval) (hb.restored_due hr q hq hrestores)

end Books

namespace Worker
variable {ε : Type} [ModemEngine ε]

theorem sweepBooks_afterRound {c : SpanConfig} {policy : Policy} {interval now : Millis}
    {h : List RoundRecord} {w : Worker ε} {r : Round} (hpos : interval ≠ 0)
    (hmax : c.channels.toNat ≤ maxChannels) (hb : SweepBooks c policy interval h now w.state)
    (hbefore : now ≤ r.moment.now) (hwithin : r.moment.now ≤ r.polled.now) :
    SweepBooks c policy interval (h ++ [w.roundRecord r]) r.polled.now (w.afterRound r).state ∧
      ∀ channel, (w.roundRecord r).Resets channel →
        SafeReset c policy interval h (w.roundRecord r) channel := by
  have hspared := SpanState.sparesSweep_handling hb.provisioned
    (w.handling r.moment r.reply r.wakeup)
  have hpolled : PolledBooks c policy interval h (w.roundRecord r) :=
    SweepBooks.polled (r := w.roundRecord r) hb hspared hbefore hwithin
  have hstep : (w.handled r).state.PollStep interval r.polled.now
      ((w.handled r).state.poll r.polled.now) :=
    SpanState.pollStep hpolled.interval_eq hpos (hpolled.config_eq ▸ hmax) hpolled.cursor
  have hleft : (w.afterRound r).state = ((w.handled r).state.poll r.polled.now).1 :=
    (w.handled r).state_sweep r.polled r.reply
  refine hpolled.swept ?_ fun channel =>
    (w.handled r).channelReset_mem_sweep r.polled r.reply
  change (w.handled r).state.PollStep interval r.polled.now ((w.afterRound r).state, _)
  rw [hleft]
  exact hstep

theorem safeReset_of_books {c : SpanConfig} {policy : Policy} {interval : Millis}
    (hpos : interval ≠ 0) (hmax : c.channels.toNat ≤ maxChannels) {rounds : List Round}
    {w : Worker ε} {h : List RoundRecord} {now : Millis}
    (hb : SweepBooks c policy interval h now w.state)
    (hclock : (now :: rounds.flatMap Round.times).Pairwise (· ≤ ·))
    {earlier later : List RoundRecord} {r : RoundRecord}
    (hr : w.history rounds = earlier ++ r :: later) {channel : Channel}
    (hreset : r.Resets channel) : SafeReset c policy interval (h ++ earlier) r channel := by
  induction rounds generalizing w h now earlier with
  | nil => cases earlier <;> cases hr
  | cons x rest ih =>
    obtain ⟨hbefore, hclock⟩ := List.pairwise_cons.1 hclock
    obtain ⟨hwithin, hclock⟩ := List.pairwise_cons.1 hclock
    obtain ⟨hbooks, hsafe⟩ := sweepBooks_afterRound hpos hmax hb (r := x)
      (hbefore _ (by simp [Round.times])) (hwithin _ (by simp [Round.times]))
    cases earlier with
    | nil =>
      obtain ⟨rfl, -⟩ := List.cons.inj hr
      rw [List.append_nil]
      exact hsafe channel hreset
    | cons y earlier =>
      obtain ⟨rfl, hrest⟩ := List.cons.inj hr
      rw [List.append_cons]
      exact ih hbooks hclock hrest

/-- In every run of a worker whose clock does not go back, a channel is reset only safely. -/
theorem safeReset_history (v : Validated) {c : SpanConfig} (hc : c ∈ v.config.spans)
    {interval : Millis} (hinterval : c.resetInterval = some interval) (start : Millis)
    (engine : ε) (spool : Spool) {rounds : List Round}
    (hclock : (rounds.flatMap Round.times).Pairwise (· ≤ ·))
    {earlier later : List RoundRecord} {r : RoundRecord}
    (hr : (initial (.initial c v.config.policy start) engine spool).history rounds =
      earlier ++ r :: later) {channel : Channel} (hreset : r.Resets channel) :
    SafeReset c v.config.policy interval earlier r channel := by
  have hpos : interval ≠ 0 := by
    rintro rfl
    exact v.resetInterval hc hinterval
  have hbooks : SweepBooks c v.config.policy interval [] 0
      (initial (.initial c v.config.policy start) engine spool).state :=
    { config_eq := rfl
      policy_eq := rfl
      interval_eq := hinterval
      provisioned := by
        change Availability.initial.contains Availability.provisioned = true
        decide
      past := fun q hq => by cases hq
      restored := fun q hq => by cases hq
      completed := fun q hq => by cases hq
      cursor := fun hresetting => by cases hresetting
      linked := fun hresetting => by cases hresetting
      restored_due := fun hresetting => by cases hresetting
      completed_due := fun hresetting => by cases hresetting
      reached := fun hresetting => by cases hresetting }
  exact safeReset_of_books hpos (v.channels hc).2 hbooks
    (List.pairwise_cons.2 ⟨fun t _ => Nat.zero_le t, hclock⟩) hr hreset

/-- A call comes on the first channel; the interval of the span passes. -/
def besideCall : SimulatedEngine × List Round :=
  let round (leg : Option LegId) (now : Millis) (wakeup : Wakeup) : Round :=
    ⟨⟨now, {}⟩, ⟨leg, false⟩, wakeup, ⟨now + 1, {}⟩⟩
  ({ inbox := [.linkUp, .ring 7 0 {} none] },
    [round none 10 .transport, round (some 0) 20 .transport, round none 6008 .timeout,
      round none 6009 .timeout, round none 6011 .timeout])

/-- At the time 6009 the interval has not passed, and after that only the other channel is reset. -/
theorem safeReset_history_besideCall :
    let v : Validated := ⟨{ backend := .sim, spans := [SpanState.keeping] }, rfl⟩
    let h := (initial (.initial SpanState.keeping v.config.policy 0) besideCall.1 ⟨"", {}⟩).history
      besideCall.2
    ∃ earlier r, h = earlier ++ [r] ∧ r.Resets 1 ∧ (∀ q ∈ earlier, q.swept = []) ∧
      SafeReset SpanState.keeping v.config.policy 1000 earlier r 1 := by
  intro v h
  have hclock : (besideCall.2.flatMap Round.times).Pairwise (· ≤ ·) := by decide
  obtain ⟨q₁, q₂, q₃, q₄, r, hr⟩ : ∃ q₁ q₂ q₃ q₄ r, h = [q₁, q₂, q₃, q₄] ++ [r] :=
    ⟨_, _, _, _, _, rfl⟩
  have hswept : h.map RoundRecord.swept = [[], [], [], [], [.channelReset 1]] := by decide +kernel
  obtain ⟨h₁, h₂, h₃, h₄, hlast⟩ : q₁.swept = [] ∧ q₂.swept = [] ∧ q₃.swept = [] ∧ q₄.swept = [] ∧
      r.swept = [.channelReset 1] := by simpa [hr] using hswept
  have hreset : r.Resets 1 := by
    unfold RoundRecord.Resets
    rw [hlast]
    exact List.mem_singleton.2 rfl
  exact ⟨_, r, hr, hreset, by simp [h₁, h₂, h₃, h₄],
    safeReset_history v (List.mem_singleton.2 rfl) rfl 0 besideCall.1 ⟨"", {}⟩ hclock hr hreset⟩

end Worker

end GsmTrunk
