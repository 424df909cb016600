import GsmTrunk.Spool

/-!
# Marks of spans that are switched off

Received messages, failure records and counters are kept below names of their own, so to write them
leaves everything below another name as it was, and the marks among it. A mark that was set is
there, and one that was taken away is not, whatever else the spool holds.
-/

namespace GsmTrunk.Spool
open Text

namespace FileTree
variable {t t' t'' : FileTree} {top name : String}

/-- Two trees are the same at all places that begin with a name. -/
def AgreesBelow (top : String) (t t' : FileTree) : Prop :=
  ∀ place : Place, place.head? = some top → t'.node? place = t.node? place

namespace AgreesBelow

theorem refl (t : FileTree) : AgreesBelow top t t :=
  fun _ _ => rfl

theorem trans (h : AgreesBelow top t t') (h' : AgreesBelow top t' t'') :
    AgreesBelow top t t'' :=
  fun place hplace => (h' place hplace).trans (h place hplace)

theorem set {place : Place} (hplace : place.head? ≠ some top) (node : Node) :
    AgreesBelow top t (t.set place node) := by
  intro other hother
  refine node?_set_of_ne t node ?_
  rintro rfl
  exact hplace hother

/-- The induction makes one directory after another; each lies below the first name. -/
theorem makeDirsFrom {dir place : Place} (hplace : (dir ++ place).head? ≠ some top) :
    AgreesBelow top t (t.makeDirsFrom dir place).1 := by
  induction place generalizing t dir with
  | nil => exact .refl t
  | cons name rest ih =>
    have hlater : (dir ++ [name] ++ rest).head? ≠ some top := by
      rw [List.append_assoc]
      exact hplace
    have hhere : (dir ++ [name]).head? ≠ some top := by
      cases dir <;> exact hplace
    unfold FileTree.makeDirsFrom
    rcases t.entry dir name with e | _ | ⟨_ | content⟩
    · exact .refl t
    · exact (AgreesBelow.set hhere .directory).trans (ih hlater)
    · exact ih hlater
    · exact .refl t

theorem append {place : Place} (hplace : place.head? ≠ some top) {content : List UInt8}
    (h : t.append place content = .ok t') : AgreesBelow top t t' := by
  unfold FileTree.append at h
  split at h <;> cases h <;> exact .set hplace _

theorem write {place : Place} (hplace : place.head? ≠ some top) {content : List UInt8}
    (h : t.write place content = .ok t') : AgreesBelow top t t' := by
  unfold FileTree.write at h
  split at h <;> cases h
  exact .set hplace _

theorem create {place : Place} (hplace : place.head? ≠ some top) {content : List UInt8}
    (h : t.create place content = .ok t') : AgreesBelow top t t' := by
  unfold FileTree.create at h
  split at h <;> cases h
  exact .set hplace _

end AgreesBelow

/-- A place below a directory is reached through that directory. -/
theorem resolve_pair_eq_ok_iff {node : Option Node} :
    t.resolve [] [top, name] = .ok node ↔
      Utf8.length top.toList ≤ maxNameLength ∧ t.node? [top] = some .directory ∧
        Utf8.length name.toList ≤ maxNameLength ∧ t.node? [top, name] = node := by
  simp only [resolve, entry, List.nil_append, List.singleton_append]
  by_cases htop : maxNameLength < Utf8.length top.toList
  · simp [htop, Nat.not_le.2 htop]
  · rcases hdir : t.node? [top] with _ | _ | content
    · simp [htop]
    · by_cases hname : maxNameLength < Utf8.length name.toList
      · simp [htop, hname, Nat.not_le.2 hname]
      · simp [htop, hname, Nat.not_lt.1 htop, Nat.not_lt.1 hname]
    · simp [htop]

theorem isPresent_eq_true_iff {place : Place} :
    t.isPresent place = true ↔ ∃ node, t.resolve [] place = .ok (some node) := by
  unfold isPresent
  split
  next node h => simp [h]
  next h =>
    refine ⟨fun hfalse => (by cases hfalse), ?_⟩
    rintro ⟨node, hnode⟩
    exact absurd hnode (h node)

theorem AgreesBelow.isPresent (h : AgreesBelow top t t') (name : String) :
    t'.isPresent [top, name] = t.isPresent [top, name] := by
  have hdir : t'.node? [top] = t.node? [top] := h [top] rfl
  have hplace : t'.node? [top, name] = t.node? [top, name] := h [top, name] rfl
  rw [Bool.eq_iff_iff]
  simp only [isPresent_eq_true_iff, resolve_pair_eq_ok_iff, hdir, hplace]

theorem isPresent_write {content : List UInt8} (h : t.write [top, name] content = .ok t') :
    t'.isPresent [top, name] = true := by
  have hother : [top] ≠ [top, name] := by simp
  cases hr : t.resolve [] [top, name] with
  | error e =>
    unfold FileTree.write at h
    rw [hr] at h
    cases h
  | ok node =>
    obtain ⟨htop, hdir, hname, -⟩ := resolve_pair_eq_ok_iff.1 hr
    have hset : t' = t.set [top, name] (.file content) := by
      unfold FileTree.write at h
      rw [hr] at h
      rcases node with _ | _ | before <;> cases h <;> rfl
    rw [hset, isPresent_eq_true_iff]
    refine ⟨.file content, resolve_pair_eq_ok_iff.2 ⟨htop, ?_, hname, node?_set_self ..⟩⟩
    rw [node?_set_of_ne t _ hother, hdir]

theorem isPresent_remove
    (h : t.remove [top, name] = .ok t' ∨ t.remove [top, name] = .error .notFound ∧ t' = t) :
    t'.isPresent [top, name] = false := by
  rw [Bool.eq_false_iff, ne_eq, isPresent_eq_true_iff]
  rintro ⟨node, hnode⟩
  rcases h with h | ⟨h, rfl⟩
  · have herased : t' = t.erase [top, name] := by
      unfold remove at h
      split at h <;> cases h
      rfl
    rw [herased] at hnode
    obtain ⟨-, -, -, hplace⟩ := resolve_pair_eq_ok_iff.1 hnode
    rw [node?_erase_self] at hplace
    cases hplace
  · unfold remove at h
    rw [hnode] at h
    cases node <;> cases h

end FileTree

variable (s : Spool)

/-- What is written to a spool leaves the marks alone. -/
def KeepsMarks (s s' : Spool) : Prop :=
  FileTree.AgreesBelow "power" s.tree s'.tree

namespace KeepsMarks
variable {s s' s'' : Spool}

theorem trans (h : s.KeepsMarks s') (h' : s'.KeepsMarks s'') : s.KeepsMarks s'' :=
  FileTree.AgreesBelow.trans h h'

theorem isPoweredOff (h : s.KeepsMarks s') (span : SpanId) :
    s'.isPoweredOff span = s.isPoweredOff span :=
  FileTree.AgreesBelow.isPresent h (span.label ++ ".off")

end KeepsMarks

section Writes
variable {place : Place} (hplace : place.head? ≠ some "power")
include hplace

theorem keepsMarks_makeParent : s.KeepsMarks (s.makeParent place).1 := by
  have hparent : ([] ++ place.dropLast : Place).head? ≠ some "power" := by
    rcases place with _ | ⟨first, _ | ⟨second, rest⟩⟩
    · exact hplace
    · simp
    · exact hplace
  have hmade : FileTree.AgreesBelow "power" s.tree (s.tree.makeDirs place.dropLast).1 :=
    .makeDirsFrom hparent
  unfold makeParent
  rcases h : s.tree.makeDirs place.dropLast with ⟨tree, _ | e⟩ <;>
  · rw [h] at hmade
    exact hmade

theorem keepsMarks_append (content : List UInt8) :
    s.KeepsMarks (s.put place (s.tree.append place content)).1 := by
  cases h : s.tree.append place content with
  | ok tree => exact FileTree.AgreesBelow.append hplace h
  | error e => exact .refl s.tree

theorem keepsMarks_write (content : List UInt8) :
    s.KeepsMarks (s.put place (s.tree.write place content)).1 := by
  cases h : s.tree.write place content with
  | ok tree => exact FileTree.AgreesBelow.write hplace h
  | error e => exact .refl s.tree

end Writes

theorem keepsMarks_logFailure (span : SpanId) (f : SmsFailure) (timestamp : String) :
    s.KeepsMarks (s.logFailure span f timestamp).1 := by
  have hplace : (failureLog span).head? ≠ some "power" := by simp [failureLog]
  have hparent := s.keepsMarks_makeParent hplace
  unfold logFailure
  dsimp only
  rcases h : s.makeParent (failureLog span) with ⟨v, e | ⟨⟩⟩
  · rw [h] at hparent
    exact hparent
  · rw [h] at hparent
    exact hparent.trans (v.keepsMarks_append hplace _)

theorem keepsMarks_bumpCounter (id : String) : s.KeepsMarks (s.bumpCounter id).1 := by
  have hplace : (counterPlace id).head? ≠ some "power" := by
    simp [counterPlace, retryCounter, counterDir]
  have hparent := s.keepsMarks_makeParent hplace
  unfold bumpCounter
  dsimp only
  rcases h : s.makeParent (counterPlace id) with ⟨v, e | ⟨⟩⟩
  · rw [h] at hparent
    exact hparent
  · rw [h] at hparent
    have hwrite := v.keepsMarks_write hplace (Utf8.encode (decimal (v.retryCount id + 1).toNat))
    dsimp only
    split
    next u e hput => exact hparent.trans (by rw [hput] at hwrite; exact hwrite)
    next u hput => exact hparent.trans (by rw [hput] at hwrite; exact hwrite)

theorem keepsMarks_recordFailure (f : SmsFailure) (timestamp : String) :
    s.KeepsMarks (s.recordFailure f timestamp).1 := by
  unfold recordFailure
  cases SpanId.ofNumber f.span with
  | error e => exact .refl s.tree
  | ok span =>
    have hcounter := s.keepsMarks_bumpCounter f.id
    dsimp only
    rcases h : s.bumpCounter f.id with ⟨v, e | count⟩
    · rw [h] at hcounter
      exact hcounter
    · rw [h] at hcounter
      have hlog := v.keepsMarks_logFailure span f timestamp
      dsimp only
      split
      next u e hu => exact hcounter.trans (by rw [hu] at hlog; exact hlog)
      next u hu => exact hcounter.trans (by rw [hu] at hlog; exact hlog)

/-- The induction is on the names that may still be tried. -/
theorem keepsMarks_createBackup {dir : Place} (hdir : ∀ name, (dir ++ [name]).head? ≠ some "power")
    (stamp : String) (content : List UInt8) (n tries : Nat) :
    s.KeepsMarks (s.createBackup dir stamp content n tries).1 := by
  induction tries generalizing n with
  | zero => exact .refl s.tree
  | succ tries ih =>
    unfold createBackup
    dsimp only
    split
    next tree h => exact FileTree.AgreesBelow.create (hdir _) h
    next => exact ih (n + 1)
    next => exact .refl s.tree

theorem keepsMarks_backupInbound (m : InboundSms) (stamp : Stamp) :
    s.KeepsMarks (s.backupInbound m stamp).1 := by
  unfold backupInbound
  cases SpanId.ofNumber m.span with
  | error e => exact .refl s.tree
  | ok span =>
    have hmade : FileTree.AgreesBelow "power" s.tree (s.tree.makeDirs (backupDir span)).1 :=
      .makeDirsFrom (by simp [backupDir])
    dsimp only
    rcases h : s.tree.makeDirs (backupDir span) with ⟨tree, _ | e⟩
    · rw [h] at hmade
      have hdir : ∀ name, (backupDir span ++ [name]).head? ≠ some "power" := by
        simp [backupDir]
      have hcreate := keepsMarks_createBackup { s with tree } hdir stamp.file
        (Utf8.encode (m.toJson stamp.text).pretty) 0 100
      exact FileTree.AgreesBelow.trans hmade hcreate
    · rw [h] at hmade
      exact hmade

variable {s}

/-- A mark that was set is there, and one that was taken away is not. -/
theorem isPoweredOff_setPoweredOff {span : SpanId} {off : Bool} {timestamp : String} {v : Spool}
    (h : s.setPoweredOff span off timestamp = (v, .ok ())) : v.isPoweredOff span = off := by
  unfold setPoweredOff at h
  cases off with
  | true =>
    rcases hparent : s.makeParent (powerOffMark span) with ⟨u, e | ⟨⟩⟩
    · simp [hparent] at h
    · simp only [hparent, if_true] at h
      cases hwrite : u.tree.write (powerOffMark span) (Utf8.encode timestamp) with
      | error e => simp [hwrite, put] at h
      | ok tree =>
        simp only [hwrite, put, Prod.mk.injEq, and_true] at h
        subst h
        exact FileTree.isPresent_write hwrite
  | false =>
    simp only [Bool.false_eq_true, if_false] at h
    rcases hremove : s.tree.remove (powerOffMark span) with e | tree
    · cases e with
      | notFound =>
        simp only [hremove, Prod.mk.injEq, and_true] at h
        subst h
        exact FileTree.isPresent_remove (.inr ⟨hremove, rfl⟩)
      | notDirectory | isDirectory | alreadyExists | nameTooLong => simp [hremove, put] at h
    · simp only [hremove, put, Prod.mk.injEq, and_true] at h
      subst h
      exact FileTree.isPresent_remove (.inl hremove)

end GsmTrunk.Spool
