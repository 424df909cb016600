import GsmTrunk.Proofs.Query.Exchange
import GsmTrunk.Engine.Simulated
import Mathlib.Data.List.Pairwise
import Mathlib.Tactic.SplitIfs

/-!
# Every answer belongs to the query that gets it

However the moves of callers, requests, the worker and events interleave, a caller that comes back
with an answer has it from a result event of its own kind that carries the transaction number
under which its own command was submitted, or from the refusal of its own query. The invariant
links the generation of a slot, the transaction bound to the query that waits there, and the
answer left in the slot.
-/

namespace GsmTrunk

theorem Answer.toResult_inj {a b : Answer} (h : a.toResult = b.toResult) : a = b := by
  obtain ⟨oka, texta⟩ := a
  obtain ⟨okb, textb⟩ := b
  cases oka <;> cases okb <;> simp_all [toResult]

theorem Answer.toResult_ne_timeout (a : Answer) : a.toResult ≠ .error .timeout := by
  unfold toResult
  split <;> simp

namespace Exchange
variable {ε : Type}

/-- By a history, a caller that asked a question has its answer from an event that brought the
result of the transaction of this question, or from its refusal. -/
inductive Credited (h : List Entry) (caller : Nat) (q : Question) (a : Answer) : Prop where
  | result {tid : TransactionId} {e : Event} (carried : e.result? = some (q.slot, tid, a))
      (order : List.Sublist [.asked caller q, .submitted q tid, .handled e] h)
  | refusal (failed : a.ok = false)
      (order : List.Sublist [.asked caller q, .refused q a.text] h)

theorem Credited.asked {h : List Entry} {caller : Nat} {q : Question} {a : Answer}
    (hc : Credited h caller q a) : .asked caller q ∈ h := by
  cases hc with
  | result _ order => exact order.subset (by simp)
  | refusal _ order => exact order.subset (by simp)

theorem Credited.append {h : List Entry} {caller : Nat} {q : Question} {a : Answer}
    (hc : Credited h caller q a) (l : List Entry) : Credited (h ++ l) caller q a := by
  cases hc with
  | result carried order => exact .result carried (order.trans (List.sublist_append_left h l))
  | refusal failed order => exact .refusal failed (order.trans (List.sublist_append_left h l))

def Visit.outcome? : Visit → Option (Question × Except QueryError Unit × Except QueryError String)
  | .settled q sent result | .disarmed q sent result => some (q, sent, result)
  | _ => none

theorem Visit.slot?_of_question? {v : Visit} {q : Question} (h : v.question? = some q) :
    v.slot? = some q.slot := by
  cases v <;> simp_all [question?, slot?]

/-- The entry neither starts a question nor submits nor ends one. -/
def Entry.IsQuiet : Entry → Prop
  | .asked .. | .submitted .. | .returned .. => False
  | _ => True

def Entry.ticket? : Entry → Option (SlotKind × Nat)
  | .asked _ q => some (q.slot, q.generation)
  | _ => none

/-- Two entries that agree on a mark that is given out once are the same. -/
theorem Entry.eq_of_nodup {β : Type} {mark : Entry → Option β} {h : List Entry}
    (hn : (h.filterMap mark).Nodup) {x y : Entry} {b : β} (hx : x ∈ h) (hy : y ∈ h)
    (hbx : mark x = some b) (hby : mark y = some b) : x = y := by
  by_contra hne
  have hpair := List.pairwise_filterMap.1 hn
  have : Std.Symm fun x y : Entry => ∀ b, mark x = some b → ∀ c, mark y = some c → b ≠ c :=
    ⟨fun x y hxy c hc b hb => (hxy b hb c hc).symm⟩
  exact hpair.forall hx hy hne b hbx b hby rfl

/-- What holds between the moves of an exchange. -/
structure Sound (s : Exchange ε) : Prop where
  held : ∀ {i k}, (s.visits i).slot? = some k → (s.slot k).held = true
  alone : ∀ {i j k}, (s.visits i).slot? = some k → (s.visits j).slot? = some k → i = j
  asked : ∀ {i q}, (s.visits i).question? = some q → .asked i q ∈ s.history
  current : ∀ {i q}, (s.visits i).question? = some q → q.generation = (s.slot q.slot).generation
  numbered : ∀ {i q}, .asked i q ∈ s.history → q.generation ≤ (s.slot q.slot).generation
  tickets : (s.history.filterMap Entry.ticket?).Nodup
  requested : ∀ {q : Question}, q.request ∈ s.requests → ∃ i, .asked i q ∈ s.history
  submitted : ∀ {q tid}, .submitted q tid ∈ s.history →
    ∃ i, List.Sublist [.asked i q, .submitted q tid] s.history
  unbound : ∀ {q tid}, s.unbound = some (q, tid) → .submitted q tid ∈ s.history
  waiting : ∀ {k p}, (s.slot k).waiting = some p → p.generation = (s.slot k).generation
  bound : ∀ {k p tid}, (s.slot k).waiting = some p → p.tid = some tid →
    ∃ c, .submitted ⟨k, p.generation, c⟩ tid ∈ s.history
  answered : ∀ {k a}, (s.slot k).answer = some a →
    ∃ i q, q.slot = k ∧ q.generation = (s.slot k).generation ∧ Credited s.history i q a
  settled : ∀ {i q a}, (s.visits i).outcome? = some (q, .ok (), a.toResult) →
    Credited s.history i q a
  returned : ∀ {i q a}, .returned i q (.ok ()) a.toResult ∈ s.history →
    ∃ before after, s.history = before ++ .returned i q (.ok ()) a.toResult :: after ∧
      Credited before i q a

section Initial
variable (config : SpanConfig) (policy : Policy) (now : Millis) (engine : ε) (spool : Spool)

theorem slot_initial (k : SlotKind) : (initial config policy now engine spool).slot k = {} := by
  cases k <;> rfl

theorem sound_initial : Sound (initial config policy now engine spool) where
  held h := by cases h
  alone h := by cases h
  asked h := by cases h
  current h := by cases h
  numbered h := by cases h
  tickets := List.nodup_nil
  requested h := by cases h
  submitted h := by cases h
  unbound h := by cases h
  waiting h := by simp [slot_initial] at h
  bound h := by simp [slot_initial] at h
  answered h := by simp [slot_initial] at h
  settled h := by cases h
  returned h := by cases h

end Initial

theorem slot_setSlot (s : Exchange ε) (k l : SlotKind) (slot : Slot) :
    (s.setSlot k slot).slot l = if l = k then slot else s.slot l := by
  split_ifs with h
  · rw [h]
    exact Slots.get_set_self _ k slot
  · exact Slots.get_set_of_ne _ h slot

theorem visits_setVisit (s : Exchange ε) (i j : Nat) (v : Visit) :
    (s.setVisit i v).visits j = if j = i then v else s.visits j :=
  Function.update_apply s.visits i v j

namespace Sound
variable {s : Exchange ε}

theorem unique (h : Sound s) {i j : Nat} {p q : Question} (hp : .asked i p ∈ s.history)
    (hq : .asked j q ∈ s.history) (hk : p.slot = q.slot) (hg : p.generation = q.generation) :
    i = j ∧ p = q := by
  have heq := Entry.eq_of_nodup h.tickets hp hq rfl (congrArg some (Prod.ext hk.symm hg.symm))
  injection heq with hij hpq
  exact ⟨hij, hpq⟩

/-- The worker may change in all but its slots. -/
theorem of_slots {w : Worker ε} (h : Sound s) (hw : ∀ k, w.control.slots.get k = s.slot k) :
    Sound { s with worker := w } := by
  have hs (k : SlotKind) : ({ s with worker := w } : Exchange ε).slot k = s.slot k := hw k
  exact
    { h with
      held := fun hv => by rw [hs]; exact h.held hv
      current := fun hv => by rw [hs]; exact h.current hv
      numbered := fun ha => by rw [hs]; exact h.numbered ha
      waiting := fun hp => by rw [hs] at hp ⊢; exact h.waiting hp
      bound := fun hp => by rw [hs] at hp; exact h.bound hp
      answered := fun ha => by rw [hs] at ha ⊢; exact h.answered ha }

theorem setRequests {l : List Request} (h : Sound s)
    (hl : ∀ q : Question, q.request ∈ l → ∃ i, .asked i q ∈ s.history) :
    Sound { s with requests := l } :=
  { h with requested := fun hq => hl _ hq }

theorem setVisit {i : Nat} {v : Visit} (h : Sound s)
    (hheld : ∀ k, v.slot? = some k → (s.slot k).held = true)
    (halone : ∀ j k, j ≠ i → v.slot? = some k → (s.visits j).slot? ≠ some k)
    (hasked : ∀ q, v.question? = some q → .asked i q ∈ s.history)
    (hcurrent : ∀ q, v.question? = some q → q.generation = (s.slot q.slot).generation)
    (hout : ∀ q a, v.outcome? = some (q, .ok (), a.toResult) → Credited s.history i q a) :
    Sound (s.setVisit i v) :=
  { h with
    held := fun {j k} hj => by
      rw [visits_setVisit] at hj
      split_ifs at hj
      · exact hheld k hj
      · exact h.held hj
    alone := fun {j j' k} hj hj' => by
      rw [visits_setVisit] at hj hj'
      split_ifs at hj hj' with hji hj'i hj'i
      · rw [hji, hj'i]
      · exact absurd hj' (halone j' k hj'i hj)
      · exact absurd hj (halone j k hji hj')
      · exact h.alone hj hj'
    asked := fun {j q} hj => by
      rw [visits_setVisit] at hj
      split_ifs at hj with hji
      · rw [hji]
        exact hasked q hj
      · exact h.asked hj
    current := fun {j q} hj => by
      rw [visits_setVisit] at hj
      split_ifs at hj
      · exact hcurrent q hj
      · exact h.current hj
    settled := fun {j q a} hj => by
      rw [visits_setVisit] at hj
      split_ifs at hj with hji
      · rw [hji]
        exact hout q a hj
      · exact h.settled hj }

theorem goOn {i : Nat} {v : Visit} (h : Sound s) (hslot : v.slot? = (s.visits i).slot?)
    (hq : v.question? = (s.visits i).question?)
    (hout : ∀ q a, v.outcome? = some (q, .ok (), a.toResult) → Credited s.history i q a) :
    Sound (s.setVisit i v) :=
  h.setVisit (fun _ hk => h.held (hslot ▸ hk))
    (fun _ _ hne hk hj => hne (h.alone hj (hslot ▸ hk)))
    (fun _ hv => h.asked (hq ▸ hv)) (fun _ hv => h.current (hq ▸ hv)) hout

theorem setSlot {k : SlotKind} {slot : Slot} (h : Sound s)
    (hheld : ∀ j, (s.visits j).slot? = some k → slot.held = true)
    (hgen : (s.slot k).generation ≤ slot.generation)
    (hcurrent : ∀ j q, (s.visits j).question? = some q → q.slot = k →
      q.generation = slot.generation)
    (hwaiting : ∀ p, slot.waiting = some p → p.generation = slot.generation)
    (hbound : ∀ p tid, slot.waiting = some p → p.tid = some tid →
      ∃ c, .submitted ⟨k, p.generation, c⟩ tid ∈ s.history)
    (hanswer : ∀ a, slot.answer = some a →
      ∃ i q, q.slot = k ∧ q.generation = slot.generation ∧ Credited s.history i q a) :
    Sound (s.setSlot k slot) :=
  { h with
    held := fun {j l} hj => by
      rw [slot_setSlot]
      split_ifs with hl
      · exact hheld j (hl ▸ hj)
      · exact h.held hj
    current := fun {j q} hj => by
      rw [slot_setSlot]
      split_ifs with hl
      · exact hcurrent j q hj hl
      · exact h.current hj
    numbered := fun {j q} hq => by
      rw [slot_setSlot]
      split_ifs with hl
      · exact Nat.le_trans (h.numbered hq) (hl ▸ hgen)
      · exact h.numbered hq
    waiting := fun {l p} hp => by
      rw [slot_setSlot] at hp ⊢
      split_ifs at hp ⊢
      · exact hwaiting p hp
      · exact h.waiting hp
    bound := fun {l p tid} hp ht => by
      rw [slot_setSlot] at hp
      split_ifs at hp with hl
      · rw [hl]
        exact hbound p tid hp ht
      · exact h.bound hp ht
    answered := fun {l a} ha => by
      rw [slot_setSlot] at ha ⊢
      split_ifs at ha ⊢ with hl
      · rw [hl]
        exact hanswer a ha
      · exact h.answered ha }

/-- A slot changes for the query that it is held for: whether it waits, and its answer. -/
theorem setAnswer {k : SlotKind} {slot : Slot} (h : Sound s)
    (hheld : slot.held = (s.slot k).held) (hgen : slot.generation = (s.slot k).generation)
    (hwaiting : ∀ p, slot.waiting = some p → p.generation = slot.generation ∧
      ∀ tid, p.tid = some tid → ∃ c, .submitted ⟨k, p.generation, c⟩ tid ∈ s.history)
    (hanswer : ∀ a, slot.answer = some a →
      ∃ i q, q.slot = k ∧ q.generation = slot.generation ∧ Credited s.history i q a) :
    Sound (s.setSlot k slot) :=
  h.setSlot (fun _ hj => hheld ▸ h.held hj) (Nat.le_of_eq hgen.symm)
    (fun _ _ hq hk => by rw [hgen, h.current hq, hk]) (fun p hp => (hwaiting p hp).1)
    (fun p tid hp => (hwaiting p hp).2 tid) hanswer

theorem record {l : List Entry} (h : Sound s)
    (hnumbered : ∀ i q, .asked i q ∈ l → q.generation ≤ (s.slot q.slot).generation)
    (htickets : (s.history.filterMap Entry.ticket? ++ l.filterMap Entry.ticket?).Nodup)
    (hsubmitted : ∀ q tid, .submitted q tid ∈ l → ∃ i, .asked i q ∈ s.history)
    (hreturned : ∀ i q a, .returned i q (.ok ()) a.toResult ∈ l → Credited s.history i q a) :
    Sound (s.record l) :=
  { h with
    asked := fun hv => List.mem_append_left l (h.asked hv)
    numbered := fun {i q} ha => (List.mem_append.1 ha).elim h.numbered (hnumbered i q)
    tickets := List.filterMap_append.symm ▸ htickets
    requested := fun hr =>
      let ⟨i, hi⟩ := h.requested hr
      ⟨i, List.mem_append_left l hi⟩
    submitted := fun {q tid} ht => by
      rcases List.mem_append.1 ht with ht | ht
      · obtain ⟨i, hi⟩ := h.submitted ht
        exact ⟨i, hi.trans (List.sublist_append_left _ l)⟩
      · obtain ⟨i, hi⟩ := hsubmitted q tid ht
        exact ⟨i, (List.singleton_sublist.2 hi).append (List.singleton_sublist.2 ht)⟩
    unbound := fun hu => List.mem_append_left l (h.unbound hu)
    bound := fun hp ht =>
      let ⟨c, hc⟩ := h.bound hp ht
      ⟨c, List.mem_append_left l hc⟩
    answered := fun ha =>
      let ⟨i, q, hk, hg, hc⟩ := h.answered ha
      ⟨i, q, hk, hg, hc.append l⟩
    settled := fun ho => (h.settled ho).append l
    returned := fun {i q a} hr => by
      rcases List.mem_append.1 hr with hr | hr
      · obtain ⟨before, after, he, hc⟩ := h.returned hr
        refine ⟨before, after ++ l, ?_, hc⟩
        change s.history ++ l = _
        rw [he, List.append_assoc, List.cons_append]
      · obtain ⟨before, after, rfl⟩ := List.append_of_mem hr
        refine ⟨s.history ++ before, after, ?_, (hreturned i q a hr).append before⟩
        change s.history ++ _ = _
        rw [List.append_assoc] }

theorem recordQuiet {l : List Entry} (h : Sound s) (hl : ∀ x ∈ l, x.IsQuiet) :
    Sound (s.record l) := by
  have hnone : l.filterMap Entry.ticket? = [] := by
    refine List.filterMap_eq_nil_iff.2 fun x hx => ?_
    cases x with
    | asked i q => exact (hl _ hx).elim
    | turnedAway | submitted | refused | handled | acted | returned => rfl
  exact h.record (fun i q hq => (hl (.asked i q) hq).elim)
    (by rw [hnone, List.append_nil]; exact h.tickets)
    (fun q tid ht => (hl (.submitted q tid) ht).elim)
    (fun i q a hr => (hl (.returned i q (.ok ()) a.toResult) hr).elim)

theorem ticket_le {k : SlotKind} {n : Nat} (h : Sound s)
    (hk : (k, n) ∈ s.history.filterMap Entry.ticket?) : n ≤ (s.slot k).generation := by
  obtain ⟨x, hx, ht⟩ := List.mem_filterMap.1 hk
  cases x with
  | asked i q =>
    obtain ⟨rfl, rfl⟩ := Prod.ext_iff.1 (Option.some.inj ht)
    exact h.numbered hx
  | turnedAway | submitted | refused | handled | acted | returned => cases ht

theorem take (h : Sound s) (i : Nat) (k : SlotKind) (c : Command) : Sound (s.take i k c) := by
  unfold Exchange.take
  split
  next hv =>
    split_ifs with hheld
    · exact h.recordQuiet (by simp [Entry.IsQuiet])
    · have hslot : Sound (s.setSlot k (s.slot k).take) :=
        h.setSlot (fun _ _ => rfl) (Nat.le_refl _) (fun j q hq hk => hk ▸ h.current hq)
          (fun p hp => h.waiting hp) (fun p tid hp ht => h.bound hp ht) (fun a ha => h.answered ha)
      refine hslot.setVisit ?_ ?_ (fun q hq => by cases hq) (fun q hq => by cases hq)
        (fun q a ho => by cases ho)
      · rintro l ⟨⟩
        simp [slot_setSlot, Slot.take]
      · -- Nobody else is at a slot that is not held.
        rintro j l - ⟨⟩ hj
        exact hheld (h.held hj)
  next => exact h

theorem arm (h : Sound s) (i : Nat) : Sound (s.arm i) := by
  unfold Exchange.arm
  split
  next k c hv =>
    have hi : (s.visits i).slot? = some k := by rw [hv]; rfl
    have hslot : Sound (s.setSlot k (s.slot k).arm) := by
      refine h.setSlot (fun j hj => h.held hj) (Nat.le_succ _) ?_ ?_ ?_ (fun a ha => by cases ha)
      · -- The caller is alone at its slot, and it has no question yet.
        intro j q hq hk
        have hj := Visit.slot?_of_question? hq
        rw [hk] at hj
        rw [h.alone hj hi, hv] at hq
        cases hq
      · rintro p ⟨⟩
        rfl
      · rintro p tid ⟨⟩ ⟨⟩
    let q : Question := ⟨k, (s.slot k).generation + 1, c⟩
    have hgen : ((s.setSlot k (s.slot k).arm).slot k).generation = q.generation := by
      rw [slot_setSlot, if_pos rfl]
      rfl
    have hrecord : Sound ((s.setSlot k (s.slot k).arm).record [.asked i q]) := by
      refine hslot.record ?_ ?_ (by simp) (by simp)
      · rintro j p hp
        obtain ⟨rfl, rfl⟩ : j = i ∧ p = q := by simpa using hp
        exact Nat.le_of_eq hgen.symm
      · -- The generation is new, so no earlier question has it.
        have hnew : (k, (s.slot k).generation + 1) ∉ s.history.filterMap Entry.ticket? :=
          fun hk => Nat.not_succ_le_self _ (h.ticket_le hk)
        exact List.nodup_append.2 ⟨h.tickets, by simp [Entry.ticket?], by
          rintro t ht u hu rfl
          exact hnew (List.mem_singleton.1 hu ▸ ht)⟩
    refine hrecord.setVisit (i := i) (v := .armed q) ?_ ?_ ?_ ?_ (fun p a ho => by cases ho)
    · rintro l ⟨⟩
      exact hrecord.held (i := i) hi
    · rintro j l hne ⟨⟩ hj
      exact hne (h.alone hj hi)
    · rintro p ⟨⟩
      exact List.mem_append_right _ (List.mem_singleton.2 rfl)
    · rintro p ⟨⟩
      exact hgen.symm
  next => exact h

theorem send (h : Sound s) (i : Nat) : Sound (s.send i) := by
  unfold Exchange.send
  split
  next q hv =>
    have hvisit : Sound (s.setVisit i (.waiting q)) :=
      h.goOn (by rw [hv]; rfl) (by rw [hv]; rfl) (fun p a ho => by cases ho)
    refine hvisit.setRequests fun p hp => ?_
    rcases List.mem_append.1 hp with hp | hp
    · exact h.requested hp
    · obtain rfl : p = q := by
        cases p
        cases q
        simpa [Question.request] using hp
      exact ⟨i, h.asked (by rw [hv]; rfl)⟩
  next => exact h

theorem fail (h : Sound s) (i : Nat) (e : QueryError) : Sound (s.fail i e) := by
  unfold Exchange.fail
  split
  next q hv =>
    exact h.goOn (by rw [hv]; rfl) (by rw [hv]; rfl) (fun p a ho => by cases ho)
  next => exact h

/-- An answer in a slot is for the question of the caller that holds the slot. -/
theorem receive (h : Sound s) (i : Nat) : Sound (s.receive i) := by
  unfold Exchange.receive
  split
  next q hv =>
    have hq : (s.visits i).question? = some q := by rw [hv]; rfl
    cases ha : (s.slot q.slot).answer with
    | none => exact h
    | some a =>
      refine h.goOn (by rw [hv]; rfl) (by rw [hv]; rfl) fun p b ho => ?_
      simp only [Visit.outcome?, Option.some.injEq, Prod.mk.injEq] at ho
      obtain ⟨rfl, -, hab⟩ := ho
      obtain ⟨j, r, hk, hg, hc⟩ := h.answered ha
      obtain ⟨rfl, rfl⟩ := h.unique hc.asked (h.asked hq) hk (hg.trans (h.current hq).symm)
      rw [← Answer.toResult_inj hab]
      exact hc
  next => exact h

theorem expire (h : Sound s) (i : Nat) : Sound (s.expire i) := by
  unfold Exchange.expire
  split
  next q hv =>
    refine h.goOn (by rw [hv]; rfl) (by rw [hv]; rfl) fun p a ho => ?_
    simp only [Visit.outcome?, Option.some.injEq, Prod.mk.injEq] at ho
    exact absurd ho.2.2.symm a.toResult_ne_timeout
  next => exact h

theorem disarm (h : Sound s) (i : Nat) : Sound (s.disarm i) := by
  unfold Exchange.disarm
  split
  next q sent result hv =>
    have hslot : Sound (s.setSlot q.slot ((s.slot q.slot).disarm q.generation)) := by
      unfold Slot.disarm
      split_ifs
      · exact h.setAnswer rfl rfl (fun p hp => by cases hp) (fun a ha => h.answered ha)
      · exact h.setAnswer rfl rfl (fun p hp => ⟨h.waiting hp, fun tid ht => h.bound hp ht⟩)
          (fun a ha => h.answered ha)
    refine hslot.goOn (congrArg Visit.slot? hv).symm (congrArg Visit.question? hv).symm
      fun p a ho => ?_
    exact h.settled (i := i) (by rw [hv]; exact ho)
  next => exact h

theorem letGo (h : Sound s) (i : Nat) : Sound (s.letGo i) := by
  unfold Exchange.letGo
  split
  next q sent result hv =>
    have hi : (s.visits i).slot? = some q.slot := by rw [hv]; rfl
    have hrecord : Sound (s.record [.returned i q sent result]) := by
      refine h.record (by simp) (by simpa [List.filterMap_cons, Entry.ticket?] using h.tickets)
        (by simp) fun j p a hr => ?_
      simp only [List.mem_singleton, Entry.returned.injEq] at hr
      obtain ⟨rfl, rfl, rfl, rfl⟩ := hr
      exact h.settled (by rw [hv]; rfl)
    have hvisit : Sound ((s.record [.returned i q sent result]).setVisit i .outside) :=
      hrecord.setVisit (fun k hk => by cases hk) (fun j k _ hk => by cases hk)
        (fun p hp => by cases hp) (fun p hp => by cases hp) (fun p a ho => by cases ho)
    refine hvisit.setSlot ?_ (Nat.le_refl _) (fun j p hp hk => hk ▸ hvisit.current hp)
      (fun p hp => h.waiting hp) (fun p tid hp ht => hvisit.bound hp ht) (fun a ha => by cases ha)
    · intro j hj
      rw [visits_setVisit] at hj
      split_ifs at hj with hji
      · cases hj
      · exact absurd (h.alone hj hi) hji
  next => exact h

theorem post (h : Sound s) (r : Request) : Sound (s.post r) := by
  unfold Exchange.post
  split
  next => exact h
  next hr =>
    refine h.setRequests fun p hp => ?_
    rcases List.mem_append.1 hp with hp | hp
    · exact h.requested hp
    · exact absurd (List.mem_singleton.1 hp).symm (hr _ _ _)

theorem bind (h : Sound s) : Sound s.bind := by
  unfold Exchange.bind
  split
  next q tid hu =>
    have hslot : Sound (s.setSlot q.slot ((s.slot q.slot).bind q.generation tid).1) := by
      unfold Slot.bind
      split_ifs with hw
      · have hgen : q.generation = (s.slot q.slot).generation := by
          obtain ⟨p, hp, hg⟩ : ∃ p, (s.slot q.slot).waiting = some p ∧
              p.generation = q.generation := by simpa [Slot.isWaiting] using hw
          rw [← hg]
          exact h.waiting hp
        refine h.setAnswer rfl rfl ?_ (fun a ha => h.answered ha)
        rintro p ⟨⟩
        refine ⟨hgen, ?_⟩
        rintro t ⟨⟩
        exact ⟨q.command, h.unbound hu⟩
      · exact h.setAnswer rfl rfl (fun p hp => ⟨h.waiting hp, fun t ht => h.bound hp ht⟩)
          (fun a ha => h.answered ha)
    exact { hslot with unbound := fun hq => by cases hq }
  next => exact h

theorem goWork (h : Sound s) {w : Worker ε} {l : List Entry}
    (hw : ∀ k, w.control.slots.get k = s.slot k) (hl : ∀ x ∈ l, x.IsQuiet) :
    Sound ({ s with worker := w }.record l) :=
  (h.of_slots hw).recordQuiet hl

theorem refuse (h : Sound s) {i : Nat} {q : Question} (hq : .asked i q ∈ s.history) :
    Sound ({ s with worker := s.worker.refuse q }.record [.refused q Worker.refusal]) := by
  have hrecord : Sound (s.record [.refused q Worker.refusal]) :=
    h.recordQuiet (by simp [Entry.IsQuiet])
  have horder : List.Sublist [.asked i q, .refused q Worker.refusal]
      (s.record [.refused q Worker.refusal]).history :=
    (List.singleton_sublist.2 hq).append (List.Sublist.refl _)
  change Sound ((s.record _).setSlot q.slot
    ((s.slot q.slot).refuse q.generation Worker.refusal).1)
  unfold Slot.refuse
  split_ifs with hw
  · obtain ⟨p, hp, hg⟩ : ∃ p, (s.slot q.slot).waiting = some p ∧
        p.generation = q.generation := by simpa [Slot.isWaiting] using hw
    refine hrecord.setAnswer rfl rfl (fun p hp => by cases hp) ?_
    rintro a ⟨⟩
    exact ⟨i, q, rfl, hg ▸ h.waiting hp, .refusal rfl horder⟩
  · exact hrecord.setAnswer rfl rfl
      (fun p hp => ⟨hrecord.waiting hp, fun t ht => hrecord.bound hp ht⟩)
      (fun a ha => hrecord.answered ha)

/-- A result completes the query that is bound to its transaction: the one under which the command
of the question was submitted that now waits at the slot. -/
theorem deliver (h : Sound s) {e : Event} {k : SlotKind} {tid : TransactionId} {a : Answer}
    {l : List Entry} (he : e.result? = some (k, tid, a)) (hmem : .handled e ∈ l)
    (hl : ∀ x ∈ l, x.IsQuiet) :
    Sound ((s.record l).setSlot k ((s.slot k).complete tid a).1) := by
  have hrecord : Sound (s.record l) := h.recordQuiet hl
  unfold Slot.complete
  split_ifs with hw
  · obtain ⟨p, hp, ht⟩ : ∃ p, (s.slot k).waiting = some p ∧ p.tid = some tid := by
      simpa [Slot.awaits, Option.bind_eq_some_iff] using hw
    obtain ⟨c, hc⟩ := h.bound hp ht
    obtain ⟨i, hi⟩ := h.submitted hc
    refine hrecord.setAnswer rfl rfl (fun p hp => by cases hp) ?_
    rintro b ⟨⟩
    exact ⟨i, _, rfl, h.waiting hp, .result he (hi.append (List.singleton_sublist.2 hmem))⟩
  · exact hrecord.setAnswer rfl rfl
      (fun p hp => ⟨hrecord.waiting hp, fun t ht => hrecord.bound hp ht⟩)
      (fun a ha => hrecord.answered ha)

variable [ModemEngine ε]

theorem query (h : Sound s) {i : Nat} {q : Question} (hq : .asked i q ∈ s.history) :
    Sound (s.query q) := by
  unfold Exchange.query
  split_ifs
  · exact h.refuse hq
  · have hrecord : Sound (s.record [.submitted q (s.worker.submit q.command).1]) := by
      refine h.record (by simp) (by simpa [List.filterMap_cons, Entry.ticket?] using h.tickets)
        (fun p tid ht => ?_) (by simp)
      simp only [List.mem_singleton, Entry.submitted.injEq] at ht
      exact ⟨i, ht.1 ▸ hq⟩
    have hwork := hrecord.of_slots (w := (s.worker.submit q.command).2) (fun k => rfl)
    refine { hwork with unbound := ?_ }
    rintro p tid ⟨⟩
    exact List.mem_append_right _ (List.mem_singleton.2 rfl)

theorem serve (h : Sound s) (m : Moment) (reply : LegReply) : Sound (s.serve m reply) := by
  unfold Exchange.serve
  split
  next k g c rest hu hr =>
    obtain ⟨i, hi⟩ := h.requested (q := ⟨k, g, c⟩) (by rw [hr]; exact List.mem_cons_self)
    refine (h.setRequests (l := rest) fun p hp => h.requested ?_).query hi
    rw [hr]
    exact List.mem_cons_of_mem _ hp
  next r rest hne hu hr =>
    have hrest : Sound { s with requests := rest } :=
      h.setRequests fun p hp => h.requested (by rw [hr]; exact List.mem_cons_of_mem _ hp)
    have hslots := s.worker.slots_handleRequest m reply (q := r) fun k g c hk => hne k g c hk
    exact hrest.goWork (fun k => congrArg (·.get k) hslots) (by simp [Entry.IsQuiet])
  next => exact h

theorem handle (h : Sound s) (m : Moment) (reply : LegReply) (e : Event) :
    Sound (s.work [.handled e] (s.worker.handleEvent m reply e)) := by
  have hslots := s.worker.slots_handleEvent m reply e
  have hquiet : ∀ x ∈ [.handled e] ++ (s.worker.handleEvent m reply e).2.map Entry.acted,
      x.IsQuiet := by
    simp [Entry.IsQuiet]
  unfold Exchange.work
  split
  next =>
    cases he : e.result? with
    | none =>
      rw [he] at hslots
      exact h.goWork (fun k => congrArg (·.get k) hslots) hquiet
    | some r =>
      rw [he] at hslots
      refine (h.deliver he (by simp) hquiet).of_slots fun k => ?_
      exact congrArg (·.get k) hslots
  next => exact h

theorem detect (h : Sound s) : Sound (s.work [] s.worker.detect) := by
  unfold Exchange.work
  split
  next =>
    exact h.goWork (fun k => congrArg (·.get k) s.worker.slots_detect) (by simp [Entry.IsQuiet])
  next => exact h

theorem sweep (h : Sound s) (m : Moment) (reply : LegReply) :
    Sound (s.work [] (s.worker.sweep m reply)) := by
  unfold Exchange.work
  split
  next =>
    exact h.goWork (fun k => congrArg (·.get k) (s.worker.slots_sweep m reply))
      (by simp [Entry.IsQuiet])
  next => exact h

theorem step (h : Sound s) (move : Move) : Sound (s.step move) := by
  cases move with
  | take i k c => exact h.take i k c
  | arm i => exact h.arm i
  | send i => exact h.send i
  | fail i e => exact h.fail i e
  | receive i => exact h.receive i
  | expire i => exact h.expire i
  | disarm i => exact h.disarm i
  | letGo i => exact h.letGo i
  | post r => exact h.post r
  | serve m reply => exact h.serve m reply
  | bind => exact h.bind
  | handle m reply e => exact h.handle m reply e
  | read => exact h.of_slots fun _ => rfl
  | tick now => exact h.of_slots fun _ => rfl
  | detect => exact h.detect
  | sweep m reply => exact h.sweep m reply

theorem run (h : Sound s) (moves : List Move) : Sound (s.run moves) := by
  induction moves generalizing s with
  | nil => exact h
  | cons move rest ih => exact ih (h.step move)

end Sound

section Answers
variable [ModemEngine ε] (config : SpanConfig) (policy : Policy) (now : Millis) (engine : ε)
  (spool : Spool) (moves : List Move)

/-- As long as the engine does not repeat a transaction number, an answer that a caller comes back
with is the text and the flag of an event of the kind of its slot, handled after its own command
was submitted and carrying the number that the engine gave to this command and to no other; or it
is the refusal of its own question. No two questions at a slot have one generation. -/
theorem answer_of_own_question
    (hn : (((initial config policy now engine spool).run moves).history.filterMap
      Entry.tid?).Nodup)
    {caller : Nat} {q : Question} {a : Answer}
    (hr : .returned caller q (.ok ()) a.toResult ∈
      ((initial config policy now engine spool).run moves).history) :
    (((initial config policy now engine spool).run moves).history.filterMap
      Entry.ticket?).Nodup ∧
    ((∃ tid e, e.result? = some (q.slot, tid, a) ∧
      List.Sublist [.asked caller q, .submitted q tid, .handled e,
          .returned caller q (.ok ()) a.toResult]
        ((initial config policy now engine spool).run moves).history ∧
      ∀ x ∈ ((initial config policy now engine spool).run moves).history,
        x.tid? = some tid → x = .submitted q tid) ∨
    (a.ok = false ∧
      List.Sublist [.asked caller q, .refused q a.text, .returned caller q (.ok ()) a.toResult]
        ((initial config policy now engine spool).run moves).history)) := by
  have hsound := (sound_initial config policy now engine spool).run moves
  obtain ⟨before, after, hh, hc⟩ := hsound.returned hr
  refine ⟨hsound.tickets, ?_⟩
  have hend : List.Sublist [.returned caller q (.ok ()) a.toResult]
      (.returned caller q (.ok ()) a.toResult :: after) := by simp
  cases hc with
  | @result tid e carried order =>
    have hlist := order.append hend
    rw [← hh] at hlist
    refine .inl ⟨tid, e, carried, hlist, fun x hx ht => ?_⟩
    have hsub : Entry.submitted q tid ∈
        ((initial config policy now engine spool).run moves).history :=
      hlist.subset (by simp)
    exact Entry.eq_of_nodup hn hx hsub ht rfl
  | refusal failed order =>
    have hlist := order.append hend
    rw [← hh] at hlist
    exact .inr ⟨failed, hlist⟩

end Answers

/-- Two callers at one slot. The time of the first is over before its command is submitted, and
its answer comes twice while the second one waits, who gets its own. -/
def lateAnswer : List Move :=
  let m : Moment := ⟨0, {}⟩
  let reply : LegReply := ⟨none, false⟩
  [.take 0 .ussd (.sendUssd "a"), .arm 0, .take 1 .ussd (.sendUssd "b"), .send 0, .expire 0,
    .serve m reply, .disarm 0, .bind, .letGo 0, .take 1 .ussd (.sendUssd "b"), .arm 1, .send 1,
    .serve m reply, .handle m reply (.ussdResult 1 true "old"), .bind,
    .handle m reply (.ussdResult 1 true "old"), .handle m reply (.ussdResult 2 false "new"),
    .receive 1, .disarm 1, .letGo 1]

theorem answer_of_own_question_lateAnswer :
    let h := ((initial { span := ⟨1, by decide, by decide⟩ } {} 0 ({} : SimulatedEngine)
      ⟨"", {}⟩).run lateAnswer).history
    let q : Question := ⟨.ussd, 2, .sendUssd "b"⟩
    (h.filterMap Entry.tid?).Nodup ∧
      .returned 1 q (.ok ()) (Answer.toResult ⟨false, "new"⟩) ∈ h ∧
      ∃ tid e, e.result? = some (.ussd, tid, ⟨false, "new"⟩) ∧
        List.Sublist [.asked 1 q, .submitted q tid, .handled e,
          .returned 1 q (.ok ()) (Answer.toResult ⟨false, "new"⟩)] h := by
  intro h q
  have hn : (h.filterMap Entry.tid?).Nodup := by decide
  have hr : .returned 1 q (.ok ()) (Answer.toResult ⟨false, "new"⟩) ∈ h :=
    List.mem_of_getLast? rfl
  have hnone : (h.any fun | .refused .. => true | _ => false) = false := by decide
  refine ⟨hn, hr, ?_⟩
  obtain ⟨-, ⟨tid, e, he, hs, -⟩ | ⟨-, hs⟩⟩ := answer_of_own_question _ _ _ _ _ _ hn hr
  · exact ⟨tid, e, he, hs⟩
  · have hrefused : .refused q "new" ∈ h := hs.subset (by simp)
    exact absurd rfl (List.any_eq_false.1 hnone _ hrefused)

end Exchange
end GsmTrunk
