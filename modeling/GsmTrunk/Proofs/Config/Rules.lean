import GsmTrunk.Config.Basic
import Mathlib.Data.List.Nodup
import Mathlib.Tactic.SplitIfs

/-!
# What an accepted configuration keeps

A configuration is checked span by span. One that was accepted has each span once, with a number of
channels and an interval that the rules allow.
-/

namespace GsmTrunk

namespace Config

theorem rules_of_checkSpans {seen : List SpanId} {spans : List SpanConfig}
    (h : checkSpans seen spans = .ok ()) {c : SpanConfig} (hc : c ∈ spans) :
    (0 < c.channels.toNat ∧ c.channels.toNat ≤ maxChannels) ∧ c.resetInterval ≠ some 0 := by
  induction spans generalizing seen with
  | nil => cases hc
  | cons d rest ih =>
    unfold checkSpans at h
    split_ifs at h with hspan hchannels hinterval
    rcases List.mem_cons.1 hc with rfl | hc
    · have hne : c.channels.toNat ≠ 0 := fun h0 => hchannels (.inl (UInt32.toNat_inj.1 h0))
      exact ⟨by omega, hinterval⟩
    · exact ih h hc

/-- None of the spans was seen before, and none comes twice. -/
theorem nodup_of_checkSpans {seen : List SpanId} {spans : List SpanConfig}
    (h : checkSpans seen spans = .ok ()) :
    (∀ c ∈ spans, c.span ∉ seen) ∧ (spans.map (·.span)).Nodup := by
  induction spans generalizing seen with
  | nil => exact ⟨fun c hc => absurd hc List.not_mem_nil, List.nodup_nil⟩
  | cons d rest ih =>
    unfold checkSpans at h
    split_ifs at h with hspan hchannels hinterval
    obtain ⟨hfresh, hnodup⟩ := ih h
    have hnew : d.span ∉ rest.map (·.span) := by
      intro hmem
      obtain ⟨c, hc, heq⟩ := List.mem_map.1 hmem
      exact hfresh c hc (heq ▸ List.mem_cons_self)
    refine ⟨List.forall_mem_cons.2 ⟨hspan, fun c hc hseen => ?_⟩, List.nodup_cons.2 ⟨hnew, hnodup⟩⟩
    exact hfresh c hc (List.mem_cons_of_mem _ hseen)

end Config

namespace Validated
variable (v : Validated)

theorem checkSpans_eq : Config.checkSpans [] v.config.spans = .ok () := by
  have h := v.check_eq
  unfold Config.check at h
  cases hs : Config.checkSpans [] v.config.spans with
  | error fault =>
    rw [hs] at h
    cases h
  | ok => rfl

theorem nodup_spans : (v.config.spans.map (·.span)).Nodup :=
  (Config.nodup_of_checkSpans v.checkSpans_eq).2

variable {c : SpanConfig} (hc : c ∈ v.config.spans)
include hc

theorem channels : 0 < c.channels.toNat ∧ c.channels.toNat ≤ maxChannels :=
  (Config.rules_of_checkSpans v.checkSpans_eq hc).1

theorem resetInterval : c.resetInterval ≠ some 0 :=
  (Config.rules_of_checkSpans v.checkSpans_eq hc).2

end Validated

end GsmTrunk
