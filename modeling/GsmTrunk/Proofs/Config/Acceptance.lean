import GsmTrunk.Config.Document
import Mathlib.Data.List.Forall2

/-!
# Which configuration documents are accepted

`Document.violations` lists all rules that a document breaks, each judged for itself, in the order
in which the rules count. Reading a document stops at the first of them, which is what `verdict`
makes of such a list. The theorem `acceptance` says that a document becomes a configuration exactly
if it is acceptable, that the configuration then says what the document says with the defaults
filled in, and that otherwise the error is the first violation.
-/

namespace GsmTrunk

section Verdict
variable {ε δ : Type}

/-- Fails with the first of some errors. -/
def verdict : List ε → Except ε Unit
  | [] => .ok ()
  | e :: _ => .error e

theorem verdict_append (l l' : List ε) :
    verdict (l ++ l') = (verdict l >>= fun _ => verdict l') := by
  cases l <;> rfl

def broken (e : ε) (rule : Prop) [Decidable rule] : List ε :=
  if rule then [] else [e]

variable {e : ε} {rule : Prop} [Decidable rule]

@[simp] theorem broken_eq_nil_iff : broken e rule = [] ↔ rule := by
  unfold broken
  split <;> simp_all

theorem verdict_broken : verdict (broken e rule) = if rule then .ok () else .error e := by
  unfold broken
  split <;> rfl

theorem verdict_broken_append (l : List ε) :
    verdict (broken e rule ++ l) = if rule then verdict l else .error e := by
  unfold broken
  split <;> rfl

end Verdict

namespace SpanRecord
variable (r : SpanRecord) {s : SpanConfig}

def IsNumbered : Prop :=
  1 ≤ r.span.toNat ∧ r.span.toNat ≤ 32

instance : Decidable r.IsNumbered :=
  inferInstanceAs (Decidable (_ ∧ _))

def HasChannels : Prop :=
  1 ≤ (r.channels.getD 1).toNat ∧ (r.channels.getD 1).toNat ≤ 31

instance : Decidable r.HasChannels :=
  inferInstanceAs (Decidable (_ ∧ _))

/-- A record describes a span, with the defaults for what it leaves out. -/
structure Describes (s : SpanConfig) : Prop where
  number : s.span.number = r.span.toNat
  channels : s.channels = r.channels.getD 1
  resetInterval : ∀ t, s.resetInterval = some t ↔
    ∃ n : Nat, r.resetInterval = some (n : Int) ∧ t = Millis.ofSeconds n
  allowAnonymous : s.allowAnonymous = r.allowAnonymous.getD true
  immediate : s.immediate = r.immediate.getD false
  defaultExten : s.defaultExten = r.defaultExten.getD "s"
  context : s.context = r.context.getD "from-gsm"
  t309Enabled : s.t309Enabled = r.t309Enabled.getD false
  mirrorEvents : s.mirrorEvents = r.mirrorEvents.getD false

variable {r}

theorem interval_eq_some_iff {t : Millis} :
    r.interval = some t ↔ ∃ n : Nat, r.resetInterval = some (n : Int) ∧ t = Millis.ofSeconds n := by
  unfold interval
  cases h : r.resetInterval with
  | none => simp
  | some seconds =>
    by_cases hneg : 0 ≤ seconds
    · obtain ⟨n, rfl⟩ := Int.eq_ofNat_of_zero_le hneg
      have hsame (m : Nat) : (n : Int) = m ↔ n = m := Int.natCast_inj
      simp [hsame, eq_comm]
    · have hnat (n : Nat) : seconds ≠ n := fun heq => hneg (heq ▸ Int.natCast_nonneg n)
      simp [hneg, hnat]

theorem toSpan_cases (r : SpanRecord) :
    ¬r.IsNumbered ∧ r.toSpan = .error (.outOfRange r.span) ∨
      r.IsNumbered ∧ ∃ s, r.toSpan = .ok s ∧ r.Describes s := by
  by_cases h : r.IsNumbered
  · refine .inr ⟨h, ?_⟩
    have hid : SpanId.ofNumber r.span = .ok ⟨r.span.toNat, h.1, h.2⟩ :=
      SpanId.ofNumber_eq_ok_iff.2 rfl
    unfold toSpan
    rw [hid]
    exact ⟨_, rfl, rfl, rfl, fun t => interval_eq_some_iff, rfl, rfl, rfl, rfl, rfl, rfl⟩
  · refine .inl ⟨h, ?_⟩
    have hid : SpanId.ofNumber r.span = .error (.outOfRange r.span) :=
      SpanId.ofNumber_eq_error_iff.2 ⟨h, rfl⟩
    unfold toSpan
    rw [hid]
    rfl

theorem Describes.resetInterval_eq_zero_iff (h : r.Describes s) :
    s.resetInterval = some 0 ↔ r.resetInterval = some 0 := by
  rw [h.resetInterval]
  constructor
  · rintro ⟨n, hn, hzero⟩
    change 0 = 1000 * n at hzero
    have hn' : n = 0 := by omega
    rw [hn, hn']
    rfl
  · intro hzero
    exact ⟨0, hzero, rfl⟩

end SpanRecord

/-- The policy of a record, with the defaults for what it leaves out. -/
structure PolicyRecord.Describes (r : PolicyRecord) (p : Policy) : Prop where
  loopCeiling : p.loopCeiling = r.loopCeilingMs.getD 1500
  sweepCeiling : p.sweepCeiling = r.sweepCeilingMs.getD 1000
  detectProbeEvery : p.detectProbeEvery = r.detectProbeEvery.getD 5
  powerCycleEvery : p.powerCycleEvery = r.powerCycleEvery.getD 15
  giveUpAfter : p.giveUpAfter = r.giveUpAfter.getD 30
  linkUpGrace : p.linkUpGrace = Millis.ofSeconds (r.linkUpGraceSecs.getD 5)

theorem PolicyRecord.describes_toPolicy (r : PolicyRecord) : r.Describes (r.toPolicy {}) := by
  refine ⟨rfl, rfl, rfl, rfl, rfl, ?_⟩
  unfold toPolicy
  cases r.linkUpGraceSecs <;> rfl

theorem Config.validate_cases (c : Config) :
    (∃ f, c.check = .error f ∧ c.validate = .error f) ∨
      c.check = .ok () ∧ ∃ v, c.validate = .ok v ∧ v.config = c := by
  unfold validate
  split
  · exact .inr ⟨‹_›, _, rfl, rfl⟩
  · exact .inl ⟨_, ‹_›, rfl⟩

namespace Document

/-- What a configuration takes over from a document. -/
structure Describes (d : Document) (c : Config) : Prop where
  debugLog : c.debugLog = d.debugLog
  backend : c.backend = d.engine.backend
  spoolDir : c.spoolDir = (d.spool.map (·.dir)).getD "/var/spool/gsm-gateway"
  policy : (d.policy.getD {}).Describes c.policy
  spans : List.Forall₂ SpanRecord.Describes d.spans c.spans

/-- The rules for documents. -/
structure IsAcceptable (d : Document) : Prop where
  version : d.configVersion = "0.1"
  members : d.unknown = []
  engine : d.engine.unknown = []
  spool : ∀ r ∈ d.spool, r.unknown = []
  policy : ∀ r ∈ d.policy, r.unknown = []
  spans : ∀ r ∈ d.spans, r.unknown = []
  numbered : ∀ r ∈ d.spans, 1 ≤ r.span.toNat ∧ r.span.toNat ≤ 32
  distinct : (d.spans.map (·.span)).Nodup
  channels : ∀ r ∈ d.spans, 1 ≤ (r.channels.getD 1).toNat ∧ (r.channels.getD 1).toNat ≤ 31
  intervals : ∀ r ∈ d.spans, r.resetInterval ≠ some 0
  multiples : (d.policy.getD {}).detectProbeEvery.getD 5 ≠ 0 ∧
    (d.policy.getD {}).powerCycleEvery.getD 15 ≠ 0 ∧ (d.policy.getD {}).giveUpAfter.getD 30 ≠ 0
  ceilings : (d.policy.getD {}).loopCeilingMs.getD 1500 ≠ 0 ∧
    (d.policy.getD {}).sweepCeilingMs.getD 1000 ≠ 0

def versionViolations (d : Document) : List DocumentError :=
  broken (.version d.configVersion) (d.configVersion = "0.1")

def nameViolations (d : Document) : List DocumentError :=
  broken (.unknownMembers d.unknown) (d.unknown = []) ++
    broken (.unknownEngine d.engine.unknown) (d.engine.unknown = []) ++
    (d.spool.toList.flatMap fun r => broken (.unknownSpool r.unknown) (r.unknown = [])) ++
    (d.policy.toList.flatMap fun r => broken (.unknownPolicy r.unknown) (r.unknown = [])) ++
    d.spans.flatMap fun r => broken (.unknownSpan r.span r.unknown) (r.unknown = [])

def numberViolations (spans : List SpanRecord) : List SpanIdError :=
  spans.flatMap fun r => broken (.outOfRange r.span) r.IsNumbered

/-- The rules that spans break, span by span, where those with the numbers of `earlier` came
before them. What is no number of a span is judged elsewhere. -/
def spanFaults (earlier : List UInt32) : List SpanRecord → List ConfigFault
  | [] => []
  | r :: rest =>
    (match SpanId.ofNumber r.span with
      | .ok span =>
        broken (.repeatedSpan span) (r.span ∉ earlier) ++
          broken (.channelCount span) r.HasChannels ++
          broken (.resetInterval span) (r.resetInterval ≠ some 0)
      | .error _ => []) ++ spanFaults (r.span :: earlier) rest

def policyFaults (r : PolicyRecord) : List ConfigFault :=
  broken .detectionMultiples (r.detectProbeEvery.getD 5 ≠ 0 ∧ r.powerCycleEvery.getD 15 ≠ 0 ∧
      r.giveUpAfter.getD 30 ≠ 0) ++
    broken .loopCeilings (r.loopCeilingMs.getD 1500 ≠ 0 ∧ r.sweepCeilingMs.getD 1000 ≠ 0)

/-- All rules that a document breaks, in the order in which they count. -/
def violations (d : Document) : List DocumentError :=
  d.versionViolations ++ d.nameViolations ++ (numberViolations d.spans).map .span ++
    (spanFaults [] d.spans ++ policyFaults (d.policy.getD {})).map .fault

theorem checkVersion_eq (d : Document) : d.checkVersion = verdict d.versionViolations :=
  verdict_broken.symm

theorem known_eq (e : List String → DocumentError) (names : List String) :
    known e names = verdict (broken (e names) (names = [])) := by
  cases names <;> rfl

theorem knownSpans_eq (spans : List SpanRecord) :
    knownSpans spans =
      verdict (spans.flatMap fun r => broken (.unknownSpan r.span r.unknown) (r.unknown = [])) := by
  induction spans with
  | nil => rfl
  | cons r rest ih =>
    rw [List.flatMap_cons, verdict_broken_append, ← ih, knownSpans]
    simp only [List.isEmpty_iff]

theorem checkNames_eq (d : Document) : d.checkNames = verdict d.nameViolations := by
  have hspool : known .unknownSpool ((d.spool.map (·.unknown)).getD []) =
      verdict (d.spool.toList.flatMap fun r =>
        broken (.unknownSpool r.unknown) (r.unknown = [])) := by
    rw [known_eq]
    cases d.spool <;> simp [broken]
  have hpolicy : known .unknownPolicy ((d.policy.map (·.unknown)).getD []) =
      verdict (d.policy.toList.flatMap fun r =>
        broken (.unknownPolicy r.unknown) (r.unknown = [])) := by
    rw [known_eq]
    cases d.policy <;> simp [broken]
  unfold checkNames nameViolations
  simp only [hspool, hpolicy, known_eq, knownSpans_eq, verdict_append, bind_assoc]

theorem toSpans_cases (spans : List SpanRecord) :
    (∃ e rest, numberViolations spans = e :: rest ∧ toSpans spans = .error (.span e)) ∨
      numberViolations spans = [] ∧
        ∃ configs, toSpans spans = .ok configs ∧
          List.Forall₂ SpanRecord.Describes spans configs := by
  induction spans with
  | nil => exact .inr ⟨rfl, [], rfl, .nil⟩
  | cons r rest ih =>
    rcases r.toSpan_cases with ⟨hr, herror⟩ | ⟨hr, s, hs, hdescribes⟩
    · refine .inl ⟨.outOfRange r.span, numberViolations rest, ?_, ?_⟩
      · simp [numberViolations, broken, hr]
      · simp only [toSpans, herror]
    · have hfirst : numberViolations (r :: rest) = numberViolations rest := by
        simp [numberViolations, broken, hr]
      rw [hfirst]
      rcases ih with ⟨e, others, hothers, herror⟩ | ⟨hnone, configs, hconfigs, hall⟩
      · refine .inl ⟨e, others, hothers, ?_⟩
        simp only [toSpans, hs, herror]
        rfl
      · refine .inr ⟨hnone, s :: configs, ?_, .cons hdescribes hall⟩
        simp only [toSpans, hs, hconfigs]
        rfl

/-- Spans are told apart by their numbers. -/
theorem mem_iff_of_numbers {earlier : List UInt32} {seen : List SpanId}
    (h : List.Forall₂ (fun n span => span.number = n.toNat) earlier seen) {n : UInt32}
    {span : SpanId} (hspan : span.number = n.toNat) : span ∈ seen ↔ n ∈ earlier := by
  induction h with
  | nil => simp
  | @cons m other earlier seen hother _ ih =>
    have hsame : span = other ↔ n = m := by
      constructor
      · rintro rfl
        exact UInt32.toNat_inj.1 (hspan.symm.trans hother)
      · rintro rfl
        exact SpanId.ext_number (hspan.trans hother.symm)
    rw [List.mem_cons, List.mem_cons, hsame, ih]

theorem checkSpans_eq {spans : List SpanRecord} {configs : List SpanConfig}
    (h : List.Forall₂ SpanRecord.Describes spans configs) {earlier : List UInt32}
    {seen : List SpanId}
    (hseen : List.Forall₂ (fun n span => span.number = n.toNat) earlier seen) :
    Config.checkSpans seen configs = verdict (spanFaults earlier spans) := by
  induction h generalizing earlier seen with
  | nil => rfl
  | @cons r s spans configs hr _ ih =>
    have hid : SpanId.ofNumber r.span = .ok s.span := SpanId.ofNumber_eq_ok_iff.2 hr.number
    have hmem := mem_iff_of_numbers hseen hr.number
    have hchannels : (s.channels = 0 ∨ maxChannels < s.channels.toNat) ↔ ¬r.HasChannels := by
      unfold SpanRecord.HasChannels maxChannels
      rw [hr.channels, ← UInt32.toNat_inj, UInt32.toNat_zero]
      omega
    have hrest := ih (.cons hr.number hseen)
    simp only [Config.checkSpans, spanFaults, hid, List.append_assoc, verdict_broken_append,
      hrest, hmem, hchannels, hr.resetInterval_eq_zero_iff, ite_not]

theorem checkPolicy_eq {r : PolicyRecord} {p : Policy} (h : r.Describes p) :
    Config.checkPolicy p = verdict (policyFaults r) := by
  unfold Config.checkPolicy policyFaults
  rw [verdict_broken_append, verdict_broken, h.detectProbeEvery, h.powerCycleEvery, h.giveUpAfter,
    h.loopCeiling, h.sweepCeiling]
  split_ifs <;> first | rfl | (exfalso; tauto)

theorem numberViolations_eq_nil_iff {spans : List SpanRecord} :
    numberViolations spans = [] ↔ ∀ r ∈ spans, r.IsNumbered := by
  simp [numberViolations]

theorem nameViolations_eq_nil_iff {d : Document} :
    d.nameViolations = [] ↔
      d.unknown = [] ∧ d.engine.unknown = [] ∧ (∀ r ∈ d.spool, r.unknown = []) ∧
        (∀ r ∈ d.policy, r.unknown = []) ∧ ∀ r ∈ d.spans, r.unknown = [] := by
  simp only [nameViolations, List.append_eq_nil_iff, List.flatMap_eq_nil_iff, broken_eq_nil_iff,
    Option.mem_toList, and_assoc]
  rfl

/-- Where all numbers are those of spans, a number is repeated exactly if some span has one of
`earlier` or two spans have the same. -/
theorem spanFaults_eq_nil_iff {spans : List SpanRecord} (hnumbers : ∀ r ∈ spans, r.IsNumbered)
    {earlier : List UInt32} :
    spanFaults earlier spans = [] ↔
      (∀ r ∈ spans, r.span ∉ earlier) ∧ (spans.map (·.span)).Nodup ∧
        (∀ r ∈ spans, r.HasChannels) ∧ ∀ r ∈ spans, r.resetInterval ≠ some 0 := by
  induction spans generalizing earlier with
  | nil => simp [spanFaults]
  | cons r rest ih =>
    obtain ⟨hr, hrest⟩ := List.forall_mem_cons.1 hnumbers
    have hid : SpanId.ofNumber r.span = .ok ⟨r.span.toNat, hr.1, hr.2⟩ :=
      SpanId.ofNumber_eq_ok_iff.2 rfl
    have hnew : (∀ other ∈ rest, other.span ∉ r.span :: earlier) ↔
        r.span ∉ rest.map (·.span) ∧ ∀ other ∈ rest, other.span ∉ earlier := by
      simp only [List.mem_cons, not_or, List.mem_map, not_exists, not_and, forall_and]
    simp only [spanFaults, hid, List.append_eq_nil_iff, broken_eq_nil_iff, ih hrest, hnew,
      List.forall_mem_cons, List.map_cons, List.nodup_cons]
    tauto

theorem policyFaults_eq_nil_iff {r : PolicyRecord} :
    policyFaults r = [] ↔
      (r.detectProbeEvery.getD 5 ≠ 0 ∧ r.powerCycleEvery.getD 15 ≠ 0 ∧
        r.giveUpAfter.getD 30 ≠ 0) ∧
      r.loopCeilingMs.getD 1500 ≠ 0 ∧ r.sweepCeilingMs.getD 1000 ≠ 0 := by
  simp only [policyFaults, List.append_eq_nil_iff, broken_eq_nil_iff]

theorem violations_eq_nil_iff {d : Document} : d.violations = [] ↔ d.IsAcceptable := by
  simp only [violations, versionViolations, List.append_eq_nil_iff, List.map_eq_nil_iff,
    broken_eq_nil_iff, nameViolations_eq_nil_iff, numberViolations_eq_nil_iff,
    policyFaults_eq_nil_iff]
  constructor
  · rintro ⟨⟨⟨hversion, hmembers, hengine, hspool, hpolicy, hspans⟩, hnumbers⟩, hfaults,
      hmultiples, hceilings⟩
    obtain ⟨-, hdistinct, hchannels, hintervals⟩ := (spanFaults_eq_nil_iff hnumbers).1 hfaults
    exact ⟨hversion, hmembers, hengine, hspool, hpolicy, hspans, hnumbers, hdistinct, hchannels,
      hintervals, hmultiples, hceilings⟩
  · intro h
    have hfaults : spanFaults [] d.spans = [] :=
      (spanFaults_eq_nil_iff h.numbered).2
        ⟨fun _ _ => List.not_mem_nil, h.distinct, h.channels, h.intervals⟩
    exact ⟨⟨⟨h.version, h.members, h.engine, h.spool, h.policy, h.spans⟩, h.numbered⟩, hfaults,
      h.multiples, h.ceilings⟩

variable (d : Document)

theorem describes_build {configs : List SpanConfig}
    (h : List.Forall₂ SpanRecord.Describes d.spans configs) : d.Describes (d.build configs) := by
  refine ⟨rfl, rfl, rfl, ?_, h⟩
  unfold build
  cases d.policy with
  | none => exact PolicyRecord.describes_toPolicy {}
  | some r => exact r.describes_toPolicy

theorem check_build {configs : List SpanConfig}
    (h : List.Forall₂ SpanRecord.Describes d.spans configs) :
    (d.build configs).check =
      verdict (spanFaults [] d.spans ++ policyFaults (d.policy.getD {})) := by
  have hspans : Config.checkSpans [] (d.build configs).spans = verdict (spanFaults [] d.spans) :=
    checkSpans_eq h .nil
  unfold Config.check
  rw [hspans, checkPolicy_eq (d.describes_build h).policy, verdict_append]
  cases verdict (spanFaults [] d.spans) <;> rfl

theorem validate_build {configs : List SpanConfig}
    (h : List.Forall₂ SpanRecord.Describes d.spans configs) :
    (∃ f rest, spanFaults [] d.spans ++ policyFaults (d.policy.getD {}) = f :: rest ∧
        (d.build configs).validate = .error f) ∨
      spanFaults [] d.spans ++ policyFaults (d.policy.getD {}) = [] ∧
        ∃ v, (d.build configs).validate = .ok v ∧ v.config = d.build configs := by
  have hcheck := d.check_build h
  rcases (d.build configs).validate_cases with ⟨f, hf, herror⟩ | ⟨hok, hvalid⟩
  · rw [hf] at hcheck
    cases hfaults : spanFaults [] d.spans ++ policyFaults (d.policy.getD {}) with
    | nil => rw [hfaults] at hcheck; cases hcheck
    | cons first rest =>
      rw [hfaults] at hcheck
      cases hcheck
      exact .inl ⟨f, rest, rfl, herror⟩
  · rw [hok] at hcheck
    cases hfaults : spanFaults [] d.spans ++ policyFaults (d.policy.getD {}) with
    | nil => exact .inr ⟨rfl, hvalid⟩
    | cons first rest => rw [hfaults] at hcheck; cases hcheck

theorem toConfig_eq_of_toSpans (hversion : d.versionViolations = [])
    (hnames : d.nameViolations = []) {configs : List SpanConfig}
    (h : toSpans d.spans = .ok configs) :
    d.toConfig = (d.build configs).validate.mapError .fault := by
  unfold toConfig
  rw [d.checkVersion_eq, d.checkNames_eq, hversion, hnames, h]
  cases hv : (d.build configs).validate <;> simp only [verdict, bind, Except.bind, hv] <;> rfl

/-- Reading a document stops at the first violation, or there is none. -/
theorem toConfig_cases :
    (∃ e rest, d.violations = e :: rest ∧ d.toConfig = .error e) ∨
      d.violations = [] ∧ ∃ v, d.toConfig = .ok v ∧ d.Describes v.config := by
  unfold violations
  -- Each group of rules is looked at only once all rules before it are kept.
  cases hversion : d.versionViolations with
  | cons e rest =>
    refine .inl ⟨e, _, rfl, ?_⟩
    rw [toConfig, d.checkVersion_eq, hversion]
    rfl
  | nil =>
    cases hnames : d.nameViolations with
    | cons e rest =>
      refine .inl ⟨e, _, rfl, ?_⟩
      rw [toConfig, d.checkVersion_eq, hversion, d.checkNames_eq, hnames]
      rfl
    | nil =>
      rcases toSpans_cases d.spans with ⟨e, rest, hnumbers, herror⟩ | ⟨hnumbers, configs, hok, hall⟩
      · refine .inl ⟨.span e, _, by rw [hnumbers]; rfl, ?_⟩
        rw [toConfig, d.checkVersion_eq, hversion, d.checkNames_eq, hnames, herror]
        rfl
      · rw [d.toConfig_eq_of_toSpans hversion hnames hok, hnumbers]
        rcases d.validate_build hall with ⟨f, rest, hfaults, hinvalid⟩ | ⟨hfaults, v, hv, hbuild⟩
        · rw [hfaults, hinvalid]
          exact .inl ⟨.fault f, _, rfl, rfl⟩
        · rw [hfaults, hv]
          exact .inr ⟨rfl, v, rfl, hbuild ▸ d.describes_build hall⟩

/-- A document becomes a configuration exactly if it keeps all rules. The configuration then says
what the document says, and otherwise the error is that of the first rule that it breaks. -/
theorem acceptance :
    ((∃ v, d.toConfig = .ok v) ↔ d.IsAcceptable) ∧
      (∀ v, d.toConfig = .ok v → d.Describes v.config) ∧
      ∀ e, d.toConfig = .error e ↔ d.violations.head? = some e := by
  rw [← violations_eq_nil_iff]
  rcases d.toConfig_cases with ⟨first, rest, hviolations, herror⟩ | ⟨hnone, v, hv, hdescribes⟩
  · simp [hviolations, herror]
  · rw [hnone, hv]
    refine ⟨⟨fun _ => rfl, fun _ => ⟨v, rfl⟩⟩, ?_, by simp⟩
    rintro _ ⟨⟩
    exact hdescribes

end Document

end GsmTrunk
