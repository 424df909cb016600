import GsmTrunk.Proofs.Query.Exchange
import GsmTrunk.Proofs.Worker.Power

/-!
# Refused requests

A worker turns a request down before it does anything for it: whether a call can be dialed, answered
or released is looked at first, and a mark that cannot be written leaves the switch as it is. So a
request that is answered with an error leaves the control block, the engine and the switch of the
operator alone, and of a query that is refused only its own waiting ends. A turn with a refused
request is then one in which nothing was asked, and so is a run with any number of them.
-/

namespace GsmTrunk

namespace Reply

def failure? {α : Type} : Except GatewayError α → Option GatewayError
  | .error e => some e
  | .ok _ => none

def error? : Reply → Option GatewayError
  | .call r => failure? r
  | .done r => failure? r
  | .parts r => failure? r

theorem failure?_eq_some_iff {α : Type} {r : Except GatewayError α} {e : GatewayError} :
    failure? r = some e ↔ r = .error e := by
  cases r with
  | error reason =>
    constructor
    · exact fun h => congrArg Except.error (Option.some.inj h)
    · rintro ⟨⟩
      rfl
  | ok => exact ⟨nofun, nofun⟩

end Reply

/-- The same turn, in which nothing is asked. -/
def Turn.idle (t : Turn) : Turn :=
  { t with wakeup := .request .wake }

namespace Worker
variable {ε : Type} [ModemEngine ε] (w : Worker ε) (m : Moment) (reply : LegReply)
  {e : GatewayError}

inductive Refusal : Request → GatewayError → Prop where
  | down {number : String} {hideCaller : Bool} {leg : LegId}
      (hdown : w.state.availability.isUp = false) :
      Refusal (.dial number hideCaller leg) (.spanDown w.state.span)
  | resetting {number : String} {hideCaller : Bool} {leg : LegId}
      (hup : w.state.availability.isUp = true) (hreset : w.state.resetting = true) :
      Refusal (.dial number hideCaller leg) (.spanResetting w.state.span)
  | occupied {number : String} {hideCaller : Bool} {leg : LegId}
      (hup : w.state.availability.isUp = true) (hidle : w.state.resetting = false)
      (hcall : w.state.call.isSome = true) :
      Refusal (.dial number hideCaller leg) (.callInProgress w.state.span)
  | noneToAnswer (hcall : w.state.call = none) : Refusal .answer (.noCall w.state.span)
  | unanswerable {a : ActiveCall} (hcall : w.state.call = some a)
      (hunfit : a.direction ≠ .inbound ∨ a.isTornDown = true) :
      Refusal .answer (.failed ("call " ++ Text.decimal a.call.toNat ++ " cannot be answered"))
  | answered {a : ActiveCall} (hcall : w.state.call = some a) (hdir : a.direction = .inbound)
      (hup : a.isTornDown = false) (hanswered : a.answered = true) :
      Refusal .answer (.failed ("call " ++ Text.decimal a.call.toNat ++ " already answered"))
  | noneToRelease {cause : Cause} (hcall : w.state.call = none)
      (hfresh : w.state.alreadyHungUp = false) : Refusal (.hangup cause) (.noCall w.state.span)
  | unsendable {job : SmsJob} (hdown : w.state.availability.isUp = false) :
      Refusal (.sendSms job) (.spanDown w.state.span)
  | unmarked {action : PowerAction} {spool : Spool} {error : Spool.Error} (hmark : action ≠ .reset)
      (hset : w.spool.setPoweredOff w.control.span (decide (action = .off)) m.stamp.text =
        (spool, .error error)) :
      Refusal (.power action) (.io error.message)

/-- A request came to nothing: what is left of the worker, and what was done. -/
structure Untouched (r : Worker ε × List Action × Option Reply) : Prop where
  control : r.1.control = w.control
  engine : r.1.engine = w.engine
  operatorOff : r.1.operatorOff = w.operatorOff
  actions : r.2.1 = []

/-- The raw command of a generation was refused: what is left of the worker, and what was done. -/
structure TurnedAway (generation : Nat) (r : Worker ε × List Action × Option Reply) : Prop where
  state : r.1.state = w.state
  enabled : r.1.control.enabled = w.control.enabled
  engine : r.1.engine = w.engine
  operatorOff : r.1.operatorOff = w.operatorOff
  spool : r.1.spool = w.spool
  actions : r.2.1 = []
  others : ∀ k, k ≠ .rawCommand → r.1.control.slots.get k = w.control.slots.get k
  /-- A query that is not the one that waits is not told anything. -/
  foreign : w.control.slots.rawCommand.isWaiting generation = false →
    r.1.control.slots = w.control.slots
  own : w.control.slots.rawCommand.isWaiting generation = true →
    r.1.control.slots.rawCommand =
        { w.control.slots.rawCommand with waiting := none, answer := some ⟨false, refusal⟩ } ∧
      r.1.control.slots.rawCommand.result (.ok ()) = .error (.failed refusal)

section Requests
variable {w}

theorem dial_refused {number : String} {hideCaller : Bool} {leg : LegId}
    (h : (w.dial number hideCaller leg).2.2 = .error e) :
    w.Refusal m (.dial number hideCaller leg) e ∧
      w.dial number hideCaller leg = (w, [], .error e) := by
  unfold dial at h ⊢
  cases hcheck : w.state.checkDial with
  | ok => simp only [hcheck, reduceCtorEq] at h
  | error reason =>
    simp only [hcheck] at h
    cases h
    refine ⟨?_, rfl⟩
    unfold SpanState.checkDial at hcheck
    split_ifs at hcheck with hdown hreset hcall
    · cases hcheck
      exact .down (by simpa using hdown)
    · cases hcheck
      exact .resetting (by simpa using hdown) hreset
    · cases hcheck
      exact .occupied (by simpa using hdown) (by simpa using hreset) hcall

theorem answer_refused (h : w.answer.2.2 = .error e) :
    w.Refusal m .answer e ∧ w.answer = (w, [], .error e) := by
  unfold answer at h ⊢
  cases hanswer : w.state.answerCall with
  | ok => simp only [hanswer, reduceCtorEq] at h
  | error reason =>
    simp only [hanswer] at h
    cases h
    refine ⟨?_, rfl⟩
    unfold SpanState.answerCall at hanswer
    cases hcall : w.state.call with
    | none =>
      simp only [hcall] at hanswer
      cases hanswer
      exact .noneToAnswer hcall
    | some a =>
      simp only [hcall] at hanswer
      split_ifs at hanswer with hunfit hdone
      · cases hanswer
        exact .unanswerable hcall hunfit
      · cases hanswer
        simp only [not_or, ne_eq, not_not, Bool.not_eq_true] at hunfit
        exact .answered hcall hunfit.1 hunfit.2 hdone

theorem hangup_refused {cause : Cause} (h : (w.hangup cause).2.2 = .error e) :
    w.Refusal m (.hangup cause) e ∧ w.hangup cause = (w, [], .error e) := by
  unfold hangup at h ⊢
  rcases hhangup : w.state.hangUp cause with reason | ⟨s, _ | command⟩
  · simp only [hhangup] at h
    cases h
    refine ⟨?_, rfl⟩
    unfold SpanState.hangUp at hhangup
    cases hcall : w.state.call with
    | none =>
      simp only [hcall] at hhangup
      split_ifs at hhangup with hflag
      cases hhangup
      exact .noneToRelease hcall (by simpa using hflag)
    | some a =>
      simp only [hcall] at hhangup
      split_ifs at hhangup
  · simp only [hhangup, reduceCtorEq] at h
  · simp only [hhangup, reduceCtorEq] at h

theorem sendSms_refused {job : SmsJob} (h : (w.sendSms m reply job).2.2 = .error e) :
    w.Refusal m (.sendSms job) e ∧ w.sendSms m reply job = (w, [], .error e) := by
  unfold sendSms at h ⊢
  split_ifs at h ⊢ with hup
  cases h
  exact ⟨.unsendable (by simpa using hup), rfl⟩

omit [ModemEngine ε] in
theorem markPower_refused {off : Bool} (h : (w.markPower m off).2 = .error e) :
    ∃ spool error, w.spool.setPoweredOff w.control.span off m.stamp.text = (spool, .error error) ∧
      e = .io error.message ∧ w.markPower m off = ({ w with spool }, .error e) := by
  unfold markPower at h ⊢
  rcases hset : w.spool.setPoweredOff w.control.span off m.stamp.text with ⟨spool, error | ⟨⟩⟩
  · simp only [hset] at h
    cases h
    exact ⟨spool, error, rfl, rfl, rfl⟩
  · simp only [hset, reduceCtorEq] at h

theorem power_refused {action : PowerAction} (h : (w.power m action).2.2 = .error e) :
    w.Refusal m (.power action) e ∧
      ∃ spool, w.power m action = ({ w with spool }, [], .error e) := by
  unfold power at h
  cases action with
  | on =>
    have hfail : (w.markPower m false).2 = .error e := by
      rcases hmark : w.markPower m false with ⟨v, reason | ⟨⟩⟩
      · simpa only [hmark] using h
      · simp only [hmark, reduceCtorEq] at h
    obtain ⟨spool, error, hset, rfl, hmark⟩ := markPower_refused m hfail
    exact ⟨.unmarked (by decide) hset, spool, by rw [power, hmark]⟩
  | off =>
    have hfail : (w.markPower m true).2 = .error e := by
      rcases hmark : w.markPower m true with ⟨v, reason | ⟨⟩⟩
      · simpa only [hmark] using h
      · simp only [hmark, reduceCtorEq] at h
    obtain ⟨spool, error, hset, rfl, hmark⟩ := markPower_refused m hfail
    exact ⟨.unmarked (by decide) hset, spool, by rw [power, hmark]⟩
  | reset => cases h

end Requests

variable {w m reply}

theorem refused {q : Request}
    (h : (w.handleRequest m reply q).2.2.bind Reply.error? = some e) :
    w.Refusal m q e ∧ w.Untouched (w.handleRequest m reply q) ∧
      ((∀ action, q ≠ .power action) → (w.handleRequest m reply q).1 = w) := by
  have hsame (answer : Reply) (heq : w.handleRequest m reply q = (w, [], some answer)) :
      w.Untouched (w.handleRequest m reply q) ∧
        ((∀ action, q ≠ .power action) → (w.handleRequest m reply q).1 = w) := by
    rw [heq]
    exact ⟨⟨rfl, rfl, rfl, rfl⟩, fun _ => rfl⟩
  cases q with
  | dial number hideCaller leg =>
    obtain ⟨hrefusal, heq⟩ := dial_refused m (Reply.failure?_eq_some_iff.1 h)
    exact ⟨hrefusal, hsame (.call (.error e)) (by simp only [handleRequest, heq])⟩
  | answer =>
    obtain ⟨hrefusal, heq⟩ := answer_refused m (Reply.failure?_eq_some_iff.1 h)
    exact ⟨hrefusal, hsame (.done (.error e)) (by simp only [handleRequest, heq])⟩
  | hangup cause =>
    obtain ⟨hrefusal, heq⟩ := hangup_refused m (Reply.failure?_eq_some_iff.1 h)
    exact ⟨hrefusal, hsame (.done (.error e)) (by simp only [handleRequest, heq])⟩
  | sendSms job =>
    obtain ⟨hrefusal, heq⟩ := sendSms_refused m reply (Reply.failure?_eq_some_iff.1 h)
    exact ⟨hrefusal, hsame (.parts (.error e)) (by simp only [handleRequest, heq])⟩
  | power action =>
    obtain ⟨hrefusal, spool, heq⟩ := power_refused m (Reply.failure?_eq_some_iff.1 h)
    have hrequest : w.handleRequest m reply (.power action) =
        ({ w with spool }, [], some (.done (.error e))) := by
      simp only [handleRequest, heq]
    rw [hrequest]
    exact ⟨hrefusal, ⟨rfl, rfl, rfl, rfl⟩, fun hother => absurd rfl (hother action)⟩
  | query | wake => cases h

theorem Refusal.error {q : Request} (h : w.Refusal m q e) :
    (w.handleRequest m reply q).2.2.bind Reply.error? = some e := by
  cases h with
  | down hdown =>
    simp [handleRequest, dial, SpanState.checkDial, hdown, Reply.error?, Reply.failure?]
  | resetting hup hreset =>
    simp [handleRequest, dial, SpanState.checkDial, hup, hreset, Reply.error?, Reply.failure?]
  | occupied hup hidle hcall =>
    simp [handleRequest, dial, SpanState.checkDial, hup, hidle, hcall, Reply.error?,
      Reply.failure?]
  | noneToAnswer hcall =>
    simp [handleRequest, answer, SpanState.answerCall, hcall, Reply.error?, Reply.failure?]
  | unanswerable hcall hunfit =>
    simp [handleRequest, answer, SpanState.answerCall, hcall, hunfit, Reply.error?,
      Reply.failure?]
  | answered hcall hdir hup hanswered =>
    simp [handleRequest, answer, SpanState.answerCall, hcall, hdir, hup, hanswered, Reply.error?,
      Reply.failure?]
  | noneToRelease hcall hfresh =>
    simp [handleRequest, hangup, SpanState.hangUp, hcall, hfresh, Reply.error?, Reply.failure?]
  | unsendable hdown =>
    simp [handleRequest, sendSms, hdown, Reply.error?, Reply.failure?]
  | @unmarked action spool error hmark hset =>
    cases action with
    | on =>
      replace hset : w.spool.setPoweredOff w.control.span false m.stamp.text =
        (spool, .error error) := hset
      simp [handleRequest, power, markPower, hset, Reply.error?, Reply.failure?]
    | off =>
      replace hset : w.spool.setPoweredOff w.control.span true m.stamp.text =
        (spool, .error error) := hset
      simp [handleRequest, power, markPower, hset, Reply.error?, Reply.failure?]
    | reset => exact absurd rfl hmark

theorem query_turnedAway {g : Nat} {command : Command} (hcall : w.state.call.isSome = true) :
    w.TurnedAway g (w.handleRequest m reply (.query .rawCommand g command)) := by
  have hrefuses : w.refuses ⟨.rawCommand, g, command⟩ = true := hcall
  have heq : w.handleRequest m reply (.query .rawCommand g command) =
      (w.refuse ⟨.rawCommand, g, command⟩, [], none) := by
    unfold handleRequest
    dsimp only
    rw [w.query_eq ⟨.rawCommand, g, command⟩, if_pos hrefuses]
  rw [heq]
  constructor
  case others => exact fun k hk => Slots.get_set_of_ne _ hk _
  case foreign =>
    intro hforeign
    change w.control.slots.set .rawCommand (w.control.slots.rawCommand.refuse g refusal).1 = _
    unfold Slot.refuse
    rw [hforeign]
    rfl
  case own =>
    intro hown
    have hslot : w.control.slots.rawCommand.refuse g refusal =
        ({ w.control.slots.rawCommand with waiting := none, answer := some ⟨false, refusal⟩ },
          true) := if_pos hown
    change (w.control.slots.rawCommand.refuse g refusal).1 = _ ∧
      (w.control.slots.rawCommand.refuse g refusal).1.result (.ok ()) = _
    rw [hslot]
    exact ⟨rfl, rfl⟩
  all_goals rfl

theorem query_eq_nil_iff {k : SlotKind} {g : Nat} {command : Command} :
    (w.handleRequest m reply (.query k g command)).2.1 = [] ↔
      k = .rawCommand ∧ w.state.call.isSome = true := by
  change (w.query k g command).2 = [] ↔ _
  unfold query
  split_ifs with h
  · simpa using h
  · simpa using h

def IsRefused (w : Worker ε) (t : Turn) : Prop :=
  ∃ q e, t.wakeup = .request q ∧ (∀ action, q ≠ .power action) ∧
    (w.handleRequest t.moment t.reply q).2.2.bind Reply.error? = some e

theorem iterate_idle {t : Turn} (h : w.IsRefused t) :
    w.next t.idle = w.next t ∧ (w.record t.idle).actions = (w.record t).actions := by
  obtain ⟨q, e, ht, hother, herror⟩ := h
  obtain ⟨-, huntouched, hsame⟩ := refused herror
  have hhandled : w.handleWakeup t.moment t.reply t.wakeup =
      (w, [], (w.handleRequest t.moment t.reply q).2.2) := by
    rw [ht]
    exact Prod.ext (hsame hother) (Prod.ext huntouched.actions rfl)
  have hidle : w.handleWakeup t.moment t.reply (.request .wake) = (w, [], none) := rfl
  unfold next record iterate Turn.idle
  rw [hhandled, hidle]
  exact ⟨rfl, rfl⟩

/-- The second run is the first one without some of the requests that are refused in it. -/
inductive Spares : Worker ε → List Turn → List Turn → Prop where
  | nil {w : Worker ε} : Spares w [] []
  | keep {w : Worker ε} {turns others : List Turn} (t : Turn) (h : Spares (w.next t) turns others) :
      Spares w (t :: turns) (t :: others)
  | drop {w : Worker ε} {turns others : List Turn} {t : Turn} (ht : w.IsRefused t)
      (h : Spares (w.next t) turns others) : Spares w (t :: turns) (t.idle :: others)

theorem after_of_spares {turns others : List Turn} (h : Spares w turns others) :
    w.after others = w.after turns ∧
      (w.trace others).map Record.actions = (w.trace turns).map Record.actions := by
  induction h with
  | nil => exact ⟨rfl, rfl⟩
  | keep t h ih =>
    obtain ⟨hlast, hrest⟩ := ih
    exact ⟨hlast, congrArg (_ :: ·) hrest⟩
  | @drop w turns others t ht h ih =>
    obtain ⟨hlast, hrest⟩ := ih
    obtain ⟨hnext, hactions⟩ := iterate_idle ht
    constructor
    · change (w.next t.idle).after others = (w.next t).after turns
      rw [hnext, hlast]
    · change _ :: ((w.next t.idle).trace others).map Record.actions = _ :: _
      rw [hnext, hactions, hrest]

variable (w m reply)

/-- A request that is answered with an error, for whichever of the reasons, changes nothing about
the span, the engine and the switch of the operator, and only for a power request can it change the
spool; a raw command that is refused during a call ends its own waiting and does nothing else. -/
theorem refused_changes_nothing (q : Request) :
    let r := w.handleRequest m reply q
    (∀ e, r.2.2.bind Reply.error? = some e ↔ w.Refusal m q e) ∧
      (∀ e, r.2.2.bind Reply.error? = some e →
        w.Untouched r ∧ ((∀ action, q ≠ .power action) → r.1 = w)) ∧
      ∀ k g command, q = .query k g command →
        (r.2.1 = [] ↔ k = .rawCommand ∧ w.state.call.isSome = true) ∧
          (r.2.1 = [] → w.TurnedAway g r) := by
  refine ⟨fun e => ⟨fun h => (refused h).1, fun h => h.error⟩, fun e h => (refused h).2, ?_⟩
  rintro k g command rfl
  refine ⟨query_eq_nil_iff, fun hnone => ?_⟩
  obtain ⟨rfl, hcall⟩ := query_eq_nil_iff.1 hnone
  exact query_turnedAway hcall

/-- A second call is dialed, and a raw command sent, while the first call is up. -/
theorem refused_changes_nothing_busy :
    let turn (wakeup : Wakeup) : Turn := ⟨⟨0, {}⟩, ⟨none, false⟩, wakeup⟩
    let idle := initial (.initial { span := ⟨1, by decide, by decide⟩ } {} 0)
      ({ inbox := [.powerOn, .linkUp] } : SimulatedEngine) ⟨"", {}⟩
    let w := (idle.after [turn .transport, turn .transport,
      turn (.request (.dial "100" false 1))]).withSlot .rawCommand ⟨true, some ⟨1, none⟩, none, 1⟩
    let dialed := w.handleRequest ⟨0, {}⟩ ⟨none, false⟩ (.dial "200" false 2)
    let asked := w.handleRequest ⟨0, {}⟩ ⟨none, false⟩ (.query .rawCommand 1 (.raw "AT"))
    dialed.2.2.bind Reply.error? = some (.callInProgress w.state.span) ∧ w.Untouched dialed ∧
      asked.2.1 = [] ∧ w.TurnedAway 1 asked := by
  intro turn idle w dialed asked
  have hbusy : dialed.2.2.bind Reply.error? = some (.callInProgress w.state.span) := by
    decide +kernel
  have hnone : asked.2.1 = [] := by decide +kernel
  obtain ⟨-, huntouched, -⟩ :=
    w.refused_changes_nothing ⟨0, {}⟩ ⟨none, false⟩ (.dial "200" false 2)
  obtain ⟨-, -, hquery⟩ :=
    w.refused_changes_nothing ⟨0, {}⟩ ⟨none, false⟩ (.query .rawCommand 1 (.raw "AT"))
  exact ⟨hbusy, (huntouched _ hbusy).1, hnone, (hquery _ _ _ rfl).2 hnone⟩

end Worker

end GsmTrunk
