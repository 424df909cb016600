import GsmTrunk.Engine.Simulated
import GsmTrunk.Proofs.Call.Legs

/-!
# A call is torn down once

What the framework is told of one occupancy of the call slot is at most one hangup, of the call
that occupies it, and none if the framework ended the call itself. This rests on the flag that a
call was released.
-/

namespace GsmTrunk

def Action.hangup? : Action → Option CallRef
  | .notified (.callHangup call _) => some call
  | _ => none

def CallNote.hangup? : CallNote → Option CallRef
  | .hungUp call => some call
  | _ => none

def hangupNotes (notes : List CallNote) : List CallRef :=
  notes.filterMap CallNote.hangup?

theorem Action.hangup?_eq (a : Action) : a.hangup? = a.callNote?.bind CallNote.hangup? := by
  cases a with
  | notified notice => cases notice <;> rfl
  | submitted | channelReset | moduleStarted | offered | legUpdated => rfl

namespace Record
variable (r : Record)

def hangups : List CallRef :=
  r.actions.filterMap Action.hangup?

def Begins (call : CallRef) : Prop :=
  (∃ caller name exten, .notified (.callIncoming call caller name exten) ∈ r.actions) ∨
    r.answer = some (.call (.ok call))

def IsHangup : Prop :=
  r.turn.IsHangup r.answer

/-- The framework has no leg for a call that it is offered. -/
def IsDeclined : Prop :=
  r.actions.any Action.isOffer = true ∧ r.turn.reply.leg = none

theorem hangups_eq : r.hangups = hangupNotes (callNotes r.actions) := by
  unfold hangups hangupNotes callNotes
  rw [List.filterMap_filterMap]
  exact List.filterMap_congr fun a _ => a.hangup?_eq

theorem begins_iff {call : CallRef} :
    r.Begins call ↔ .incoming call ∈ callNotes r.actions ∨ r.answer = some (.call (.ok call)) := by
  unfold Begins
  refine or_congr ?_ Iff.rfl
  constructor
  · rintro ⟨caller, name, exten, h⟩
    exact List.mem_filterMap.2 ⟨_, h, rfl⟩
  · intro h
    obtain ⟨a, ha, hn⟩ := List.mem_filterMap.1 h
    cases a with
    | notified notice =>
      cases notice with
      | callIncoming own caller name exten =>
        cases hn
        exact ⟨caller, name, exten, ha⟩
      | _ => cases hn
    | offered | submitted | channelReset | moduleStarted | legUpdated => cases hn

end Record

def StaysTaken (seg : List Record) : Prop :=
  ∀ r ∈ seg.dropLast, r.after.isSome = true

/-- The turns from the one in which a call takes the slot on, up to the one that leaves the slot
free at the latest. -/
def IsOccupancy (call : CallRef) : List Record → Prop
  | [] => False
  | r :: rest => r.Begins call ∧ StaysTaken (r :: rest)

namespace StaysTaken
variable {r : Record} {seg : List Record}

theorem tail (h : StaysTaken (r :: seg)) : StaysTaken seg := by
  cases seg with
  | nil => exact fun x hx => absurd hx List.not_mem_nil
  | cons x xs => exact fun y hy => h y (List.mem_cons_of_mem _ hy)

theorem nil_of_free (h : StaysTaken (r :: seg)) (hfree : r.after = none) : seg = [] := by
  cases seg with
  | nil => rfl
  | cons x xs =>
    have hsome := h r List.mem_cons_self
    rw [hfree] at hsome
    cases hsome

end StaysTaken

theorem IsOccupancy.concat {call : CallRef} {seg : List Record} (h : IsOccupancy call seg)
    (hsome : ∀ x ∈ seg, x.after.isSome = true) (r : Record) : IsOccupancy call (seg ++ [r]) := by
  cases seg with
  | nil => cases h
  | cons x xs =>
    refine ⟨h.1, ?_⟩
    change ∀ y ∈ ((x :: xs) ++ [r]).dropLast, y.after.isSome = true
    rw [List.dropLast_concat]
    exact hsome

section Hangups
variable {t : Turn} {a : ActiveCall} {c c' : Option ActiveCall} {f f' : Bool}
  {answer : Option Reply} {notes : List CallNote}

theorem hangupNotes_legNotes (leg : Option LegId) (action : LegAction) :
    hangupNotes (legNotes leg action) = [] := by
  cases leg <;> rfl

/-- A hangup is that of the call in the slot, which leaves it, if it was not released before. -/
theorem CallTurn.hangups_cases (ht : CallTurn t c f c' f' answer notes) :
    hangupNotes notes = [] ∨
      ∃ a, c = some a ∧ hangupNotes notes = [a.call] ∧ c' = none ∧ f = false ∧ answer = none := by
  cases ht with
  | event hc =>
    cases hc with
    | keep | vacate => exact .inl rfl
    | reach => exact .inl (hangupNotes_legNotes _ _)
    | @release a action hc hf =>
      refine .inr ⟨a, hc, ?_, rfl, hf, rfl⟩
      have hleg := hangupNotes_legNotes a.leg action
      unfold hangupNotes at hleg ⊢
      rw [List.filterMap_append, hleg]
      rfl
    | @teardown a action hc hf =>
      refine .inr ⟨a, hc, ?_, rfl, hf, rfl⟩
      exact congrArg (a.call :: ·) (hangupNotes_legNotes a.leg action)
  | attached | late | declined | dialed | answered | hungUp | other => exact .inl rfl

/-- A turn that leaves a call in the slot keeps its reference, and whether it was released. Once
the framework hung up, it was. -/
theorem CallTurn.stays (ht : CallTurn t (some a) f c' f' answer notes)
    (hreleased : a.isTornDown = true → f = true) :
    c' = none ∨ ∃ b, c' = some b ∧ b.call = a.call ∧
      (f' = false → f = false ∧ ¬t.IsHangup answer) := by
  have hanswer : ¬t.IsHangup none := fun h => by cases h.2
  cases ht with
  | event hc =>
    cases hc with
    | keep => exact .inr ⟨a, rfl, rfl, fun hf => ⟨hf, hanswer⟩⟩
    | @reach b stage hc hup hmark =>
      cases hc
      exact .inr ⟨_, rfl, by cases stage <;> rfl, fun hf => ⟨hf, hanswer⟩⟩
    | release | teardown | vacate => exact .inl rfl
  | attached hc | late hc | declined hc | dialed hc => cases hc
  | @answered a' b r hc hw hcall =>
    cases hc
    refine .inr ⟨b, rfl, hcall, fun hf => ⟨hf, ?_⟩⟩
    rintro ⟨⟨cause, hh⟩, -⟩
    rw [hw] at hh
    cases hh
  | @hungUp a' b r hc hf hcall =>
    cases hc
    exact .inr ⟨b, rfl, hcall, fun hf' => by cases hf'⟩
  | other hr hh =>
    refine .inr ⟨a, rfl, rfl, fun hf => ⟨hf, fun hhang => ?_⟩⟩
    rcases hh hhang a rfl with hflag | hdown
    · rw [hf] at hflag
      cases hflag
    · rw [hf] at hreleased
      cases hreleased hdown

theorem CallTurn.not_offered (ht : CallTurn t (some a) f c' f' answer notes) (call : CallRef) :
    .offered call ∉ notes := by
  cases ht with
  | event hc => exact hc.not_offered call
  | attached hc | late hc | declined hc | dialed hc => cases hc
  | answered | hungUp | other => simp

theorem CallTurn.begins {call : CallRef} (ht : CallTurn t c f c' f' answer notes)
    (hbegins : .incoming call ∈ notes ∨ answer = some (.call (.ok call))) :
    hangupNotes notes = [] ∧ (c' = none ∨ ∃ b, c' = some b ∧ b.call = call ∧
      ¬((∃ other, .offered other ∈ notes) ∧ t.reply.leg = none)) ∧ ¬t.IsHangup answer := by
  have hanswer : ¬t.IsHangup none := fun h => by cases h.2
  have hleg (leg : Option LegId) (x : LegAction) : .incoming call ∉ legNotes leg x := by
    cases leg <;> simp [legNotes]
  cases ht with
  | event hc =>
    exfalso
    rcases hbegins with hmem | hmem
    · cases hc with
      | keep | vacate => cases hmem
      | reach => exact hleg _ _ hmem
      | release => simp [hleg] at hmem
      | teardown => simp [hleg] at hmem
    · cases hmem
  | @attached b leg hc hreply =>
    have href : b.call = call := by simpa [eq_comm] using hbegins
    refine ⟨rfl, .inr ⟨b, rfl, href, fun h => ?_⟩, hanswer⟩
    rw [hreply] at h
    cases h.2
  | late | declined => exact ⟨rfl, .inl rfl, hanswer⟩
  | @dialed b number hide leg hc hw =>
    have href : b.call = call := by simpa using hbegins
    refine ⟨rfl, .inr ⟨b, rfl, href, fun h => ?_⟩, fun h => by cases h.2⟩
    obtain ⟨other, hmem⟩ := h.1
    cases hmem
  | answered | hungUp => simp at hbegins
  | other hr =>
    rcases hbegins with hmem | hmem
    · cases hmem
    · exact absurd hmem (hr call)

theorem CallTurn.arrives (ht : CallTurn t c f (some a) f' answer notes) :
    (∃ b, c = some b ∧ b.call = a.call) ∨
      .incoming a.call ∈ notes ∨ answer = some (.call (.ok a.call)) := by
  cases ht with
  | event hc =>
    cases hc with
    | keep => exact .inl ⟨a, rfl, rfl⟩
    | @reach b stage hc => exact .inl ⟨b, hc, by cases stage <;> rfl⟩
  | attached => exact .inr (.inl List.mem_cons_self)
  | dialed => exact .inr (.inr rfl)
  | @answered b _ r hc hw hcall => exact .inl ⟨b, hc, hcall.symm⟩
  | @hungUp b _ r hc hf hcall => exact .inl ⟨b, hc, hcall.symm⟩
  | other => exact .inl ⟨a, rfl, rfl⟩

end Hangups

namespace Worker
variable {ε : Type} [ModemEngine ε] {w : Worker ε}

/-- While a call stays in the slot, at most one hangup is told, of this call, and none once it was
released or the framework hung up. -/
theorem hangups_occupied (hw : w.IsReleased) {a : ActiveCall} (ha : w.state.call = some a)
    {turns : List Turn} {seg rest : List Record} (heq : w.trace turns = seg ++ rest)
    (hstay : StaysTaken seg) :
    (∀ r ∈ seg, ¬r.IsDeclined) ∧
      (seg.flatMap Record.hangups = [] ∨
        seg.flatMap Record.hangups = [a.call] ∧ w.state.alreadyHungUp = false ∧
          ∀ r ∈ seg, ¬r.IsHangup) := by
  induction seg generalizing w a turns with
  | nil => exact ⟨fun r hr => absurd hr List.not_mem_nil, .inl rfl⟩
  | cons r seg ih =>
    obtain ⟨t, later, -, rfl, hlater⟩ := exists_of_trace_eq_cons heq
    have ht := w.callTurn t
    rw [ha] at ht
    have hdeclined : ¬(w.record t).IsDeclined := by
      rintro ⟨hany, -⟩
      obtain ⟨call, hcall⟩ := (w.record t).any_isOffer_iff.1 hany
      exact ht.not_offered call hcall
    rw [List.flatMap_cons, Record.hangups_eq]
    rcases ht.hangups_cases with hnone | ⟨b, hb, hhang, hnone, hflag, hanswer⟩
    · rw [hnone, List.nil_append]
      rcases ht.stays (hw a ha) with hfree | ⟨b, hb, href, hkeeps⟩
      · rw [hstay.nil_of_free hfree]
        exact ⟨by simpa using hdeclined, .inl rfl⟩
      · obtain ⟨hrest, hhang⟩ := ih (hw.next t) hb hlater hstay.tail
        refine ⟨List.forall_mem_cons.2 ⟨hdeclined, hrest⟩, ?_⟩
        rcases hhang with hhang | ⟨hhang, hflag, hnot⟩
        · exact .inl hhang
        · obtain ⟨hfirst, hown⟩ := hkeeps hflag
          rw [href] at hhang
          exact .inr ⟨hhang, hfirst, List.forall_mem_cons.2 ⟨hown, hnot⟩⟩
    · cases hb
      have hown : ¬(w.record t).IsHangup := fun h => by
        have hdone : (w.record t).answer = some (.done (.ok ())) := h.2
        rw [hanswer] at hdone
        cases hdone
      rw [hstay.nil_of_free hnone, hhang]
      exact ⟨by simpa using hdeclined, .inr ⟨rfl, hflag, by simpa using hown⟩⟩

theorem hangups_occupancy (hw : w.IsReleased) {turns : List Turn} {seg rest : List Record}
    (heq : w.trace turns = seg ++ rest) {call : CallRef} (ho : IsOccupancy call seg) :
    (seg.flatMap Record.hangups).length ≤ 1 ∧ (∀ c ∈ seg.flatMap Record.hangups, c = call) ∧
      ((∃ r ∈ seg, r.IsHangup ∨ r.IsDeclined) → seg.flatMap Record.hangups = []) := by
  cases seg with
  | nil => cases ho
  | cons r seg =>
    obtain ⟨t, later, -, rfl, hlater⟩ := exists_of_trace_eq_cons heq
    obtain ⟨hbegins, hstay⟩ := ho
    obtain ⟨hnone, hafter, hown⟩ := (w.callTurn t).begins ((w.record t).begins_iff.1 hbegins)
    rw [List.flatMap_cons, Record.hangups_eq, hnone, List.nil_append]
    rcases hafter with hfree | ⟨b, hb, href, hleg⟩
    · -- The call is gone in the turn in which it came.
      have hend : seg = [] := hstay.nil_of_free hfree
      subst hend
      exact ⟨Nat.zero_le 1, fun c hc => absurd hc List.not_mem_nil, fun _ => rfl⟩
    · obtain ⟨hrest, hhang⟩ := hangups_occupied (hw.next t) hb hlater hstay.tail
      have hfirst : ¬((w.record t).IsHangup ∨ (w.record t).IsDeclined) := by
        rintro (hh | ⟨hany, hreply⟩)
        · exact hown hh
        · exact hleg ⟨(w.record t).any_isOffer_iff.1 hany, hreply⟩
      rcases hhang with hhang | ⟨hhang, -, hnot⟩
      · rw [hhang]
        exact ⟨Nat.zero_le 1, fun c hc => absurd hc List.not_mem_nil, fun _ => rfl⟩
      · rw [hhang, href]
        refine ⟨Nat.le_refl 1, fun c => List.mem_singleton.1, ?_⟩
        rintro ⟨r, hr, hdone⟩
        exfalso
        rcases List.mem_cons.1 hr with rfl | hr
        · exact hfirst hdone
        · rcases hdone with hh | hd
          · exact hnot r hr hh
          · exact hrest r hr hd

theorem hangups_before {turns : List Turn} {r : Record} (hr : r ∈ w.trace turns) {call : CallRef}
    (hc : call ∈ r.hangups) : ∃ a, r.before = some a ∧ a.call = call := by
  induction turns generalizing w with
  | nil => cases hr
  | cons t turns ih =>
    rcases List.mem_cons.1 hr with rfl | hr
    · rw [Record.hangups_eq] at hc
      rcases (w.callTurn t).hangups_cases with hnone | ⟨a, ha, hhang, -, -, -⟩
      · rw [hnone] at hc
        cases hc
      · rw [hhang] at hc
        exact ⟨a, ha, (List.mem_singleton.1 hc).symm⟩
    · exact ih hr

/-- A call that is found in the slot was there from the start on, or took it in some turn and
stayed. -/
theorem occupied_since {turns : List Turn} {before rest : List Record} {r : Record}
    (heq : w.trace turns = before ++ r :: rest) {a : ActiveCall} (ha : r.before = some a) :
    (∃ b, w.state.call = some b ∧ b.call = a.call ∧ ∀ x ∈ before, x.after.isSome = true) ∨
      ∃ first seg, before = first ++ seg ∧ IsOccupancy a.call seg ∧
        ∀ x ∈ seg, x.after.isSome = true := by
  induction before generalizing w turns with
  | nil =>
    obtain ⟨t, later, -, rfl, -⟩ := exists_of_trace_eq_cons heq
    exact .inl ⟨a, ha, rfl, fun x hx => absurd hx List.not_mem_nil⟩
  | cons x before ih =>
    obtain ⟨t, later, -, rfl, hlater⟩ := exists_of_trace_eq_cons heq
    rcases ih hlater with ⟨b, hb, href, hstay⟩ | ⟨first, seg, hsplit, hseg⟩
    · have hfirst : (w.record t).after.isSome = true := Option.isSome_iff_exists.2 ⟨b, hb⟩
      have hall : ∀ x ∈ w.record t :: before, x.after.isSome = true :=
        List.forall_mem_cons.2 ⟨hfirst, hstay⟩
      have ht := w.callTurn t
      rw [hb] at ht
      rcases ht.arrives with ⟨d, hd, hsame⟩ | hbegins
      · exact .inl ⟨d, hd, hsame.trans href, hall⟩
      · refine .inr ⟨[], _, rfl, ⟨(w.record t).begins_iff.2 (href ▸ hbegins), ?_⟩, hall⟩
        exact fun y hy => hall y ((List.dropLast_sublist _).subset hy)
    · exact .inr ⟨w.record t :: first, seg, by rw [hsplit]; rfl, hseg⟩

/-- A leg is torn down at most once, and the framework is told at most once that a call is gone,
while that call has the slot. -/
structure TearsDownOnce (trace : List Record) : Prop where
  leg : ∀ leg, IsLegRun (legActions leg (trace.flatMap Record.actions))
  occupancy : ∀ first seg rest call, trace = first ++ (seg ++ rest) → IsOccupancy call seg →
    (seg.flatMap Record.hangups).length ≤ 1 ∧ (∀ c ∈ seg.flatMap Record.hangups, c = call) ∧
      ((∃ r ∈ seg, r.IsHangup ∨ r.IsDeclined) → seg.flatMap Record.hangups = [])
  occupant : ∀ before r rest, trace = before ++ r :: rest → ∀ call ∈ r.hangups,
    (∃ a, r.before = some a ∧ a.call = call) ∧
      ∃ first seg, before ++ [r] = first ++ seg ∧ IsOccupancy call seg

theorem tearsDownOnce_trace (config : SpanConfig) (policy : Policy) (now : Millis) (engine : ε)
    (spool : Spool) (turns : List Turn)
    (hlegs : (((initial (.initial config policy now) engine spool).trace turns).flatMap
      Record.legs).Nodup) :
    TearsDownOnce ((initial (.initial config policy now) engine spool).trace turns) := by
  let w := initial (.initial config policy now) engine spool
  have hfree : w.state.call = none := rfl
  refine ⟨fun leg => ?_, fun first seg rest call heq ho => ?_, fun before r rest heq call hc => ?_⟩
  · have hstart : Books w.state.call [] [] := ⟨⟨fun _ => .nil, fun _ _ => rfl⟩, .empty⟩
    have hsound := legsSound_trace hstart turns hlegs
    rw [legActions_eq]
    exact .of_pairwise (hsound.order leg)
  · have hreleased : w.IsReleased := fun a ha => by cases ha
    obtain ⟨v, hv, later, hlater⟩ := hreleased.later heq
    exact hangups_occupancy hv hlater.symm ho
  · have hr : r ∈ w.trace turns := by
      rw [heq]
      exact List.mem_append_right before List.mem_cons_self
    obtain ⟨a, ha, rfl⟩ := hangups_before hr hc
    refine ⟨⟨a, ha, rfl⟩, ?_⟩
    rcases occupied_since heq ha with ⟨b, hb, -⟩ | ⟨first, seg, rfl, hseg, hstay⟩
    · rw [hfree] at hb
      cases hb
    · exact ⟨first, seg ++ [r], List.append_assoc first seg [r], hseg.concat hstay r⟩

def fourCalls : SimulatedEngine × List Turn :=
  let turn (leg : Option LegId) (wakeup : Wakeup) : Turn := ⟨⟨0, {}⟩, ⟨leg, false⟩, wakeup⟩
  ({ inbox := [.linkUp, .ring 7 0 {} none, .hangup 7 17, .hangup 7 17, .ringing 3, .ringing 3,
      .hangupAck 3, .ring 8 0 {} none, .ring 9 0 {} none, .linkDown] },
    [turn none .transport, turn (some 0) .transport, turn none .transport, turn none .transport,
      turn none (.request (.dial "1" false 1)), turn none .transport, turn none .transport,
      turn none (.request (.hangup 16)), turn none (.request (.hangup 16)), turn none .transport,
      turn none .transport, turn (some 2) .transport, turn none .transport])

theorem tearsDownOnce_trace_fourCalls :
    let trace := (initial (.initial { span := ⟨1, by decide, by decide⟩ } {} 0) fourCalls.1
      ⟨"", {}⟩).trace fourCalls.2
    (trace.flatMap Record.legs).Nodup ∧ TearsDownOnce trace ∧
      trace.flatMap Record.hangups = [7, 9] := by
  intro trace
  have hlegs : (trace.flatMap Record.legs).Nodup := by decide +kernel
  exact ⟨hlegs, tearsDownOnce_trace _ _ _ _ _ _ hlegs, by decide +kernel⟩

end Worker

end GsmTrunk
