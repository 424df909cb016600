import GsmTrunk.Proofs.Json.RoundTrip
import GsmTrunk.Proofs.Spool.Records

/-!
# The lines of a log

A log is split into lines again at the line breaks that were written behind each failure, for no
line has a control in it, whatever the texts of the failure are. Each line reads back as the failure
with its moment.
-/

namespace GsmTrunk.Spool
open Text

namespace Entry

def text? (key : String) (j : Json) : Option String :=
  match j.member? key with
  | some (.string s) => some s
  | _ => none

def number? (key : String) (j : Json) : Option Nat :=
  match j.member? key with
  | some (.number (.ofNat n)) => some n
  | _ => none

def ofJson? (j : Json) : Option Entry := do
  let span ← number? "span" j
  let id ← text? "id" j
  let dest ← text? "dest" j
  let body ← text? "body" j
  let part ← number? "part" j
  let reason ← text? "reason" j
  let timestamp ← text? "timestamp" j
  return ⟨⟨.ofNat span, id, dest, body, .ofNat part, reason⟩, timestamp⟩

def ofLine? (line : String) : Option Entry :=
  (Json.read? line).bind ofJson?

def line (e : Entry) : String :=
  (e.failure.toJson e.timestamp).compact

theorem ofJson?_toJson (e : Entry) : ofJson? (e.failure.toJson e.timestamp) = some e := by
  have hfields : ofJson? (e.failure.toJson e.timestamp) =
      some { e with failure := { e.failure with
        span := .ofNat e.failure.span.toNat, part := .ofNat e.failure.part.toNat } } :=
    rfl
  rw [hfields, UInt32.ofNat_toNat, UInt16.ofNat_toNat]

theorem isPlain_toJson (e : Entry) : Json.IsPlain Json.maxDepth (e.failure.toJson e.timestamp) := by
  have hword {n : Nat} (hn : n < 2 ^ 32) : Json.IsPlain 126 (.ofNat n) := by
    have hle : (0 : Int) ≤ n := Int.natCast_nonneg n
    change -2 ^ 63 ≤ (n : Int) ∧ (n : Int) < 2 ^ 64
    omega
  have hspan := hword e.failure.span.toNat_lt
  have hpart := hword (Nat.lt_trans e.failure.part.toNat_lt (by decide))
  have hkeys : ["span", "id", "dest", "body", "part", "reason", "timestamp"].Nodup := by decide
  exact ⟨by decide, hkeys, hspan, trivial, trivial, trivial, hpart, trivial, trivial, trivial⟩

theorem ofLine?_line (e : Entry) : ofLine? e.line = some e := by
  rw [ofLine?, line, Json.read?_compact e.isPlain_toJson, Option.bind_some, ofJson?_toJson]

theorem isVisible_line (e : Entry) : Json.IsVisible e.line.toList := by
  rw [line, Json.compact, String.toList_ofList]
  exact Json.isVisible_write _ _ e.isPlain_toJson

theorem lineOf_eq (e : Entry) :
    lineOf e.failure e.timestamp = (e.line.toList ++ ['\n']).flatMap String.utf8EncodeChar := by
  rw [lineOf, Utf8.encode_eq, String.toList_append]
  rfl

end Entry

/-- Lines that are written with a line break behind each are found again at the line breaks. -/
theorem splitOn_flatMap {lines : List (List Char)} (h : ∀ line ∈ lines, '\n' ∉ line) :
    (lines.flatMap (· ++ ['\n'])).splitOn '\n' = lines ++ [[]] := by
  induction lines with
  | nil => rfl
  | cons line rest ih =>
    obtain ⟨hline, hrest⟩ := List.forall_mem_cons.1 h
    rw [List.flatMap_cons, List.append_assoc, List.singleton_append,
      List.splitOn_append_cons_self, List.splitOn_eq_singleton hline, ih hrest]
    rfl

/-- In a spool that starts empty, the log of a span has one line for each failure of the span that
was recorded, in their order, and each line reads back as its failure. What stands in a log stays
there, and what is recorded for other spans leaves it as it is. -/
theorem log_of_run (dir : String) (entries : List Entry) (span : SpanId) :
    let s : Spool := { dir }
    let own := (s.recorded entries).filter fun e => e.failure.span.toNat = span.number
    (∃ (text : String) (lines : List String),
        Utf8.decode? ((s.after entries).log span) = some text ∧
        text.toList.splitOn '\n' = lines.map String.toList ++ [[]] ∧
        (∀ line ∈ lines, Json.IsVisible line.toList) ∧
        lines.map Entry.ofLine? = own.map some) ∧
      s.recorded entries = entries.filter (fun e => e.IsRecordable) ∧
      (∀ more, (s.after entries).log span <+: (s.after (entries ++ more)).log span) ∧
      ∀ e, e.failure.span.toNat ≠ span.number →
        (((s.after entries).record e).1.tree.read (failureLog span)).toOption =
          ((s.after entries).tree.read (failureLog span)).toOption := by
  intro s own
  have hs : s.Unobstructed := unobstructed_empty dir
  have hafter := isTree_after hs.tree entries
  have hlog : (s.after entries).log span = own.flatMap fun e => lineOf e.failure e.timestamp :=
    log_after hs.tree entries span
  refine ⟨?_, hs.recorded_eq entries, fun more => ?_, fun e he => ?_⟩
  · have hvisible : ∀ line ∈ own.map Entry.line, Json.IsVisible line.toList := by
      intro line hline
      obtain ⟨e, -, rfl⟩ := List.mem_map.1 hline
      exact e.isVisible_line
    have hunbroken : ∀ cs ∈ (own.map Entry.line).map String.toList, '\n' ∉ cs := by
      intro cs hcs hbreak
      obtain ⟨line, hline, rfl⟩ := List.mem_map.1 hcs
      exact absurd (hvisible line hline '\n' hbreak) (by decide)
    have htext : (s.after entries).log span = Utf8.encode (String.ofList
        (((own.map Entry.line).map String.toList).flatMap (· ++ ['\n']))) := by
      rw [hlog, Utf8.encode_eq, String.toList_ofList, List.flatMap_map, List.flatMap_map,
        List.flatMap_assoc]
      exact List.flatMap_congr fun e _ => e.lineOf_eq
    refine ⟨_, own.map Entry.line, htext ▸ Utf8.decode?_encode _, ?_, hvisible, ?_⟩
    · rw [String.toList_ofList, splitOn_flatMap hunbroken]
    · rw [List.map_map]
      refine List.map_congr_left fun e _ => ?_
      rw [Function.comp_apply, e.ofLine?_line]
  · have hmore : s.after (entries ++ more) = (s.after entries).after more := List.foldl_append
    rw [hmore, log_after hafter more]
    exact List.prefix_append _ _
  · have hstep := recording_record hafter e
    rw [(hstep.isTree hafter).read_eq_content?, hafter.read_eq_content?,
      hstep.content?_failureLog hafter, if_neg fun h => he h.1]

end GsmTrunk.Spool
