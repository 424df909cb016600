import GsmTrunk.Proofs.Worker.Turn
import Mathlib.Data.List.Nodup

/-!
# What is done to a leg

What is done to one leg is a run of confirmed stages, each at most once, and then at most one
teardown, after which the leg is left alone. This rests on two things: the stages that a leg saw
are marked in the call that holds it, and a leg that is torn down is in no call any more. Both hold
along a trace as long as no leg is brought twice.
-/

namespace GsmTrunk

def Action.onLeg? (leg : LegId) : Action → Option LegAction
  | .legUpdated l action => if l = leg then some action else none
  | _ => none

def Action.isOffer : Action → Bool
  | .offered _ => true
  | _ => false

/-- What is done to one leg, in order. -/
def legActions (leg : LegId) (actions : List Action) : List LegAction :=
  actions.filterMap (Action.onLeg? leg)

def CallNote.onLeg? (leg : LegId) : CallNote → Option LegAction
  | .leg l action => if l = leg then some action else none
  | _ => none

def onLeg (leg : LegId) (notes : List CallNote) : List LegAction :=
  notes.filterMap (CallNote.onLeg? leg)

theorem Action.onLeg?_eq (a : Action) (leg : LegId) :
    a.onLeg? leg = a.callNote?.bind (CallNote.onLeg? leg) := by
  cases a with
  | notified notice => cases notice <;> rfl
  | submitted | channelReset | moduleStarted | offered | legUpdated => rfl

theorem legActions_eq (leg : LegId) (actions : List Action) :
    legActions leg actions = onLeg leg (callNotes actions) := by
  unfold legActions onLeg callNotes
  rw [List.filterMap_filterMap]
  exact List.filterMap_congr fun a _ => a.onLeg?_eq leg

namespace Record
variable (r : Record)

/-- The legs that the framework brings with a dial, or makes for a call that it is offered. -/
def legs : List LegId :=
  (match r.turn.wakeup with
    | .request (.dial _ _ leg) => [leg]
    | _ => []) ++
  if r.actions.any Action.isOffer then r.turn.reply.leg.toList else []

theorem any_isOffer_iff :
    r.actions.any Action.isOffer = true ↔ ∃ call, .offered call ∈ callNotes r.actions := by
  rw [List.any_eq_true]
  constructor
  · rintro ⟨a, ha, hoffer⟩
    cases a with
    | offered o => exact ⟨o.call, List.mem_filterMap.2 ⟨_, ha, rfl⟩⟩
    | notified | submitted | channelReset | moduleStarted | legUpdated => cases hoffer
  · rintro ⟨call, h⟩
    obtain ⟨a, ha, hn⟩ := List.mem_filterMap.1 h
    refine ⟨a, ha, ?_⟩
    cases a with
    | notified notice => cases notice <;> cases hn
    | offered | submitted | channelReset | moduleStarted | legUpdated => first | rfl | cases hn

end Record

/-- Each stage comes at most once and a teardown at most once, with nothing after it. -/
structure IsLegRun (actions : List LegAction) : Prop where
  control : ∀ c, actions.count (.control c) ≤ 1
  teardown : actions.countP LegAction.isTeardown ≤ 1
  last : ∀ before x after, actions = before ++ x :: after → x.isTeardown = true → after = []

def LegAction.Precedes (x y : LegAction) : Prop :=
  x.isTeardown = false ∧ x ≠ y

theorem LegAction.Precedes.nil_of_teardown {x : LegAction} {after : List LegAction}
    (h : ∀ y ∈ after, x.Precedes y) (ht : x.isTeardown = true) : after = [] := by
  cases after with
  | nil => rfl
  | cons y _ =>
    have hno := (h y List.mem_cons_self).1
    rw [ht] at hno
    cases hno

theorem IsLegRun.of_pairwise {actions : List LegAction}
    (h : actions.Pairwise LegAction.Precedes) : IsLegRun actions where
  control c := List.nodup_iff_count_le_one.1 (h.imp And.right) (.control c)
  teardown := by
    induction h with
    | nil => exact Nat.zero_le 1
    | @cons x rest hx hrest ih =>
      rw [List.countP_cons]
      by_cases ht : x.isTeardown = true
      · rw [LegAction.Precedes.nil_of_teardown hx ht, if_pos ht]
        exact Nat.le_refl 1
      · rw [if_neg ht]
        exact ih
  last before x after heq ht := by
    rw [heq] at h
    have hx := (List.pairwise_cons.1 (List.pairwise_append.1 h).2.1).1
    exact LegAction.Precedes.nil_of_teardown hx ht

theorem Stage.control_inj {p q : Stage} (h : p.control = q.control) : p = q := by
  cases p <;> cases q <;> first | rfl | cases h

@[simp] theorem onLeg_append (leg : LegId) (l l' : List CallNote) :
    onLeg leg (l ++ l') = onLeg leg l ++ onLeg leg l' :=
  List.filterMap_append

/-- The notes so far are in order for each leg, where no leg has any that was not brought. -/
structure LegsSound (notes : List CallNote) (brought : List LegId) : Prop where
  order : ∀ leg, (onLeg leg notes).Pairwise LegAction.Precedes
  unused : ∀ leg, leg ∉ brought → onLeg leg notes = []

/-- The leg of a call was brought, and saw stages that are marked in the call and nothing else. -/
def Attached (c : Option ActiveCall) (notes : List CallNote) (brought : List LegId) : Prop :=
  ∀ a leg, c = some a → a.leg = some leg → leg ∈ brought ∧
    ∀ x ∈ onLeg leg notes, ∃ stage : Stage, x = .control stage.control ∧ stage.isMarked a = true

theorem onLeg_legNotes_self (leg : LegId) (x : LegAction) :
    onLeg leg (legNotes (some leg) x) = [x] := by
  simp [onLeg, legNotes, CallNote.onLeg?]

theorem onLeg_legNotes_of_ne {l leg : LegId} (h : l ≠ leg) (x : LegAction) :
    onLeg l (legNotes (some leg) x) = [] := by
  simp [onLeg, legNotes, CallNote.onLeg?, Ne.symm h]

namespace LegsSound
variable {h notes : List CallNote} {brought : List LegId}

theorem quiet (hs : LegsSound h brought) (hn : ∀ leg, onLeg leg notes = [])
    (more : List LegId) : LegsSound (h ++ notes) (brought ++ more) where
  order leg := by
    rw [onLeg_append, hn, List.append_nil]
    exact hs.order leg
  unused leg hleg := by
    rw [onLeg_append, hn, List.append_nil]
    exact hs.unused leg fun hmem => hleg (List.mem_append_left more hmem)

theorem tell (hs : LegsSound h brought) {more : List LegId} {leg? : Option LegId} {x : LegAction}
    (hn : ∀ l, onLeg l notes = onLeg l (legNotes leg? x))
    (hleg : ∀ leg, leg? = some leg →
      leg ∈ brought ++ more ∧ ∀ y ∈ onLeg leg h, y.Precedes x) :
    LegsSound (h ++ notes) (brought ++ more) := by
  cases leg? with
  | none => exact hs.quiet (fun l => hn l) more
  | some leg =>
    obtain ⟨hbrought, hx⟩ := hleg leg rfl
    have hother {l : LegId} (hl : l ≠ leg) : onLeg l notes = [] :=
      (hn l).trans (onLeg_legNotes_of_ne hl x)
    refine ⟨fun l => ?_, fun l hl => ?_⟩
    · rw [onLeg_append]
      by_cases hl : l = leg
      · rw [hl, hn, onLeg_legNotes_self]
        refine List.pairwise_append.2 ⟨hs.order leg, List.pairwise_singleton _ x, ?_⟩
        intro y hy z hz
        rw [List.mem_singleton.1 hz]
        exact hx y hy
      · rw [hother hl, List.append_nil]
        exact hs.order l
    · have hne : l ≠ leg := fun heq => hl (heq ▸ hbrought)
      rw [onLeg_append, hother hne, List.append_nil]
      exact hs.unused l fun hmem => hl (List.mem_append_left more hmem)

end LegsSound

namespace Attached
variable {c : Option ActiveCall} {h notes : List CallNote} {brought : List LegId}

theorem empty : Attached none h brought := by
  intro a leg hc
  cases hc

/-- All that the leg of a call saw allows a stage that is not marked, and a teardown. -/
theorem precedes {a : ActiveCall} (ha : Attached (some a) h brought) {leg : LegId}
    (hleg : a.leg = some leg) {x : LegAction}
    (hx : ∀ stage : Stage, stage.isMarked a = true → x ≠ .control stage.control) :
    leg ∈ brought ∧ ∀ y ∈ onLeg leg h, y.Precedes x := by
  obtain ⟨hbrought, hall⟩ := ha a leg rfl hleg
  refine ⟨hbrought, fun y hy => ?_⟩
  obtain ⟨stage, rfl, hm⟩ := hall y hy
  exact ⟨rfl, (hx stage hm).symm⟩

theorem keep {a b : ActiveCall} (ha : Attached (some a) h brought) (hleg : b.leg = a.leg)
    (hmark : ∀ stage : Stage, stage.isMarked a = true → stage.isMarked b = true)
    (hn : ∀ leg, onLeg leg notes = []) (more : List LegId) :
    Attached (some b) (h ++ notes) (brought ++ more) := by
  rintro d leg ⟨⟩ hd
  obtain ⟨hbrought, hall⟩ := ha a leg rfl (hleg ▸ hd)
  refine ⟨List.mem_append_left more hbrought, fun x hx => ?_⟩
  rw [onLeg_append, hn, List.append_nil] at hx
  obtain ⟨stage, rfl, hm⟩ := hall x hx
  exact ⟨stage, rfl, hmark stage hm⟩

theorem mark {a : ActiveCall} (ha : Attached (some a) h brought) (stage : Stage)
    (more : List LegId) :
    Attached (some (stage.mark a)) (h ++ legNotes a.leg (.control stage.control))
      (brought ++ more) := by
  have hsame : (stage.mark a).leg = a.leg := by cases stage <;> rfl
  rintro d leg ⟨⟩ hd
  rw [hsame] at hd
  obtain ⟨hbrought, hall⟩ := ha a leg rfl hd
  refine ⟨List.mem_append_left more hbrought, fun x hx => ?_⟩
  rw [onLeg_append, hd, onLeg_legNotes_self] at hx
  rcases List.mem_append.1 hx with hx | hx
  · obtain ⟨p, rfl, hm⟩ := hall x hx
    exact ⟨p, rfl, stage.isMarked_mark p (.inr hm)⟩
  · exact ⟨stage, List.mem_singleton.1 hx, stage.isMarked_mark stage (.inl rfl)⟩

theorem bring {a : ActiveCall} {leg : LegId} {more : List LegId} (hs : LegsSound h brought)
    (ha : a.leg = some leg) (hleg : leg ∈ more) (hnew : leg ∉ brought)
    (hn : ∀ leg, onLeg leg notes = []) :
    Attached (some a) (h ++ notes) (brought ++ more) := by
  rintro d l ⟨⟩ hd
  rw [ha] at hd
  cases hd
  refine ⟨List.mem_append_right brought hleg, fun x hx => ?_⟩
  rw [onLeg_append, hn, hs.unused leg hnew] at hx
  cases hx

end Attached

/-- The books of the legs: in order, and the leg of the call attached to it. -/
structure Books (c : Option ActiveCall) (h : List CallNote) (brought : List LegId) : Prop where
  sound : LegsSound h brought
  attached : Attached c h brought

namespace Books
variable {c c' : Option ActiveCall} {f f' : Bool} {h notes : List CallNote}
  {brought : List LegId} {t : Turn} {answer : Option Reply}

theorem change (hb : Books c h brought) (hc : CallChange c f c' f' notes) (more : List LegId) :
    Books c' (h ++ notes) (brought ++ more) := by
  have hsilent (call : CallRef) (l : LegId) : onLeg l [.hungUp call] = [] := rfl
  cases hc with
  | keep =>
    refine ⟨hb.sound.quiet (fun _ => rfl) more, ?_⟩
    cases c with
    | none => exact .empty
    | some a => exact hb.attached.keep rfl (fun _ => id) (fun _ => rfl) more
  | @reach a stage hc hup hmark =>
    have ha : Attached (some a) h brought := hc ▸ hb.attached
    refine ⟨hb.sound.tell (fun _ => rfl) fun leg hleg => ?_, ha.mark stage more⟩
    have hnew : ∀ p : Stage, p.isMarked a = true →
        LegAction.control stage.control ≠ .control p.control := by
      rintro p hp heq
      rw [Stage.control_inj (LegAction.control.inj heq), hp] at hmark
      cases hmark
    obtain ⟨hbrought, hall⟩ := ha.precedes hleg hnew
    exact ⟨List.mem_append_left more hbrought, hall⟩
  | @release a action hc hf ht =>
    have ha : Attached (some a) h brought := hc ▸ hb.attached
    have hn (l : LegId) : onLeg l (legNotes a.leg action ++ [.hungUp a.call]) =
        onLeg l (legNotes a.leg action) := by
      rw [onLeg_append, hsilent, List.append_nil]
    refine ⟨hb.sound.tell hn fun leg hleg => ?_, .empty⟩
    obtain ⟨hbrought, hall⟩ := ha.precedes hleg (x := action) (by rintro p - rfl; cases ht)
    exact ⟨List.mem_append_left more hbrought, hall⟩
  | @teardown a action hc hf ht =>
    have ha : Attached (some a) h brought := hc ▸ hb.attached
    refine ⟨hb.sound.tell (fun _ => rfl) fun leg hleg => ?_, .empty⟩
    obtain ⟨hbrought, hall⟩ := ha.precedes hleg (x := action) (by rintro p - rfl; cases ht)
    exact ⟨List.mem_append_left more hbrought, hall⟩
  | vacate => exact ⟨hb.sound.quiet (fun _ => rfl) more, .empty⟩

theorem turn (hb : Books c h brought) (ht : CallTurn t c f c' f' answer notes) {more : List LegId}
    (hnew : ∀ leg ∈ more, leg ∉ brought)
    (hoffer : ∀ call leg, .offered call ∈ notes → t.reply.leg = some leg → leg ∈ more)
    (hdial : ∀ number hide leg, t.wakeup = .request (.dial number hide leg) → leg ∈ more) :
    Books c' (h ++ notes) (brought ++ more) := by
  cases ht with
  | event hc => exact hb.change hc more
  | @attached a leg hc hleg ha hup =>
    have hmore := hoffer a.call leg (by simp) hleg
    exact ⟨hb.sound.quiet (fun _ => rfl) more,
      .bring hb.sound ha hmore (hnew leg hmore) (fun _ => rfl)⟩
  | @late call leg action hc hleg ht =>
    have hmore := hoffer call leg (by simp) hleg
    have hunused := hb.sound.unused leg (hnew leg hmore)
    have hn (l : LegId) : onLeg l [.incoming call, .offered call, .leg leg action] =
        onLeg l (legNotes (some leg) action) := rfl
    refine ⟨hb.sound.tell hn ?_, .empty⟩
    rintro l ⟨⟩
    rw [hunused]
    exact ⟨List.mem_append_right brought hmore, fun y hy => by cases hy⟩
  | declined => exact ⟨hb.sound.quiet (fun _ => rfl) more, .empty⟩
  | @dialed a number hide leg hc hw ha hup =>
    have hmore := hdial number hide leg hw
    exact ⟨hb.sound.quiet (fun _ => rfl) more,
      .bring hb.sound ha hmore (hnew leg hmore) (fun _ => rfl)⟩
  | @answered a b r hc hw hcall hleg hup hmark =>
    have ha : Attached (some a) h brought := hc ▸ hb.attached
    exact ⟨hb.sound.quiet (fun _ => rfl) more, ha.keep hleg hmark (fun _ => rfl) more⟩
  | @hungUp a b r hc hf hcall hleg =>
    refine ⟨hb.sound.quiet (fun _ => rfl) more, ?_⟩
    rintro d leg ⟨⟩ hd
    rw [hleg] at hd
    cases hd
  | other =>
    refine ⟨hb.sound.quiet (fun _ => rfl) more, ?_⟩
    cases c with
    | none => exact .empty
    | some a => exact hb.attached.keep rfl (fun _ => id) (fun _ => rfl) more

end Books

namespace Worker
variable {ε : Type} [ModemEngine ε] {w : Worker ε}

/-- The legs of a turn are those that its wakeup and its offers bring. -/
theorem books_next {h : List CallNote} {brought : List LegId}
    (hb : Books w.state.call h brought) (t : Turn)
    (hnew : ∀ leg ∈ (w.record t).legs, leg ∉ brought) :
    Books (w.next t).state.call (h ++ callNotes (w.record t).actions)
      (brought ++ (w.record t).legs) := by
  refine hb.turn (w.callTurn t) hnew ?_ ?_
  · intro call leg hmem hleg
    have hany := (w.record t).any_isOffer_iff.2 ⟨call, hmem⟩
    refine List.mem_append_right _ ?_
    rw [if_pos hany]
    exact Option.mem_toList.2 hleg
  · intro number hide leg hw
    refine List.mem_append_left _ ?_
    change leg ∈ (match t.wakeup with
      | .request (.dial _ _ leg) => [leg]
      | _ => [])
    rw [hw]
    exact List.mem_singleton.2 rfl

theorem legsSound_trace {h : List CallNote} {brought : List LegId}
    (hb : Books w.state.call h brought) (turns : List Turn)
    (hn : (brought ++ (w.trace turns).flatMap Record.legs).Nodup) :
    LegsSound (h ++ callNotes ((w.trace turns).flatMap Record.actions))
      (brought ++ (w.trace turns).flatMap Record.legs) := by
  induction turns generalizing w h brought with
  | nil => simpa [trace] using hb.sound
  | cons t turns ih =>
    rw [trace, List.flatMap_cons, ← List.append_assoc] at hn
    have hnew : ∀ leg ∈ (w.record t).legs, leg ∉ brought := by
      intro leg hleg hmem
      have hfirst := (List.nodup_append.1 hn).1
      exact (List.nodup_append.1 hfirst).2.2 leg hmem leg hleg rfl
    have hrest := ih (books_next hb t hnew) hn
    rw [trace, List.flatMap_cons, List.flatMap_cons, callNotes_append, ← List.append_assoc,
      ← List.append_assoc]
    exact hrest

end Worker

end GsmTrunk
