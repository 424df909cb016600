import GsmTrunk.Spool.FileTree
import Mathlib.Data.List.Induction

/-!
# Trees of files

In a tree every file and every directory stands in a directory, and no name is too long. There a
place is found exactly if it is there, so what can be read is what the files hold: `content?`. A
file that is written changes what that file holds and nothing else, and directories that are made
change nothing of it.
-/

namespace GsmTrunk.Spool
open Text

def IsShort (name : String) : Prop :=
  Utf8.length name.toList ≤ maxNameLength

instance (name : String) : Decidable (IsShort name) :=
  inferInstanceAs (Decidable (Utf8.length name.toList ≤ maxNameLength))

namespace FileTree
variable {t t' : FileTree} {dir place : Place} {name : String}

/-- There is a directory at a place, or it is the one that everything is below. -/
def IsDirectory (t : FileTree) (place : Place) : Prop :=
  place = [] ∨ t.node? place = some .directory

theorem entry_eq_ok_iff {node : Option Node} :
    t.entry dir name = .ok node ↔ IsShort name ∧ t.node? (dir ++ [name]) = node := by
  by_cases hname : IsShort name
  · rw [entry, if_neg (Nat.not_lt.2 hname), Except.ok.injEq]
    exact (and_iff_right hname).symm
  · rw [entry, if_pos (Nat.not_le.1 hname)]
    exact iff_of_false (by simp) fun h => hname h.1

structure IsTree (t : FileTree) : Prop where
  top : t.node? [] = none
  short : ∀ place node, t.node? place = some node → ∀ name ∈ place, IsShort name
  parent : ∀ dir name node, t.node? (dir ++ [name]) = some node → t.IsDirectory dir

theorem isTree_empty : IsTree {} where
  top := rfl
  short _ _ h := by cases h
  parent _ _ _ h := by cases h

namespace IsTree

theorem short_of_isDirectory (h : t.IsTree) (hdir : t.IsDirectory dir) :
    ∀ name ∈ dir, IsShort name := by
  rcases hdir with rfl | hdir
  · simp
  · exact h.short dir _ hdir

/-- What is below a place is there only if the place is a directory. The induction takes the names
off from below. -/
theorem isDirectory_of_below (h : t.IsTree) {below : Place} (hbelow : below ≠ []) {node : Node}
    (hnode : t.node? (dir ++ below) = some node) : t.IsDirectory dir := by
  induction below using List.reverseRecOn generalizing node with
  | nil => exact absurd rfl hbelow
  | append_singleton below name ih =>
    rw [← List.append_assoc] at hnode
    have hparent := h.parent (dir ++ below) name node hnode
    by_cases hnil : below = []
    · rwa [hnil, List.append_nil] at hparent
    · rcases hparent with hparent | hparent
      · exact absurd (List.append_eq_nil_iff.1 hparent).2 hnil
      · exact ih hnil hparent

theorem isDirectory_above (h : t.IsTree) {below : Place} (hdir : t.IsDirectory (dir ++ below)) :
    t.IsDirectory dir := by
  by_cases hnil : below = []
  · rwa [hnil, List.append_nil] at hdir
  · rcases hdir with hdir | hdir
    · exact absurd (List.append_eq_nil_iff.1 hdir).2 hnil
    · exact h.isDirectory_of_below hnil hdir

/-- A directory may be made, or a file put, where there is no directory yet. -/
theorem set (h : t.IsTree) (hdir : t.IsDirectory dir) (hname : IsShort name) {node : Node}
    (hnode : t.node? (dir ++ [name]) = some .directory → node = .directory) :
    (t.set (dir ++ [name]) node).IsTree := by
  have hkeeps {p : Place} (hp : t.IsDirectory p) :
      (t.set (dir ++ [name]) node).IsDirectory p := by
    rcases hp with hp | hp
    · exact .inl hp
    · refine .inr ?_
      by_cases heq : p = dir ++ [name]
      · subst heq
        rw [node?_set_self, hnode hp]
      · rwa [node?_set_of_ne t node heq]
  constructor
  · rw [node?_set_of_ne t node (by simp), h.top]
  · intro p other hp
    by_cases heq : p = dir ++ [name]
    · subst heq
      intro n hn
      rcases List.mem_append.1 hn with hn | hn
      · exact h.short_of_isDirectory hdir n hn
      · rwa [List.mem_singleton.1 hn]
    · rw [node?_set_of_ne t node heq] at hp
      exact h.short p other hp
  · intro p n other hp
    by_cases heq : p ++ [n] = dir ++ [name]
    · rw [(List.append_inj' heq rfl).1]
      exact hkeeps hdir
    · rw [node?_set_of_ne t node heq] at hp
      exact hkeeps (h.parent p n other hp)

/-- A place in a directory is found, whether there is something or not, and no other place is. The
induction goes down the way to it. -/
theorem resolve_eq_ok_iff (h : t.IsTree) {way : Place} (hdir : t.IsDirectory dir)
    {node : Option Node} :
    t.resolve dir (way ++ [name]) = .ok node ↔
      t.IsDirectory (dir ++ way) ∧ IsShort name ∧ t.node? (dir ++ way ++ [name]) = node := by
  induction way generalizing dir with
  | nil =>
    rw [List.append_nil]
    exact entry_eq_ok_iff.trans (and_iff_right hdir).symm
  | cons first way ih =>
    obtain ⟨second, rest, hrest⟩ :=
      List.exists_cons_of_ne_nil (List.append_ne_nil_of_right_ne_nil way (List.cons_ne_nil name []))
    have hinto (hentry : t.entry dir first = .ok (some .directory)) :
        t.resolve dir (first :: way ++ [name]) = t.resolve (dir ++ [first]) (way ++ [name]) := by
      rw [List.cons_append, hrest, resolve, hentry]
      exact List.cons_ne_nil second rest
    have hentered (hok : t.resolve dir (first :: way ++ [name]) = .ok node) :
        t.entry dir first = .ok (some .directory) := by
      rw [List.cons_append, hrest, resolve] at hok
      · rcases hentry : t.entry dir first with e | _ | _ | content
        · simp [hentry] at hok
        · simp [hentry] at hok
        · rfl
        · simp [hentry] at hok
      · exact List.cons_ne_nil second rest
    have hwhole : dir ++ first :: way = dir ++ [first] ++ way := by
      rw [List.append_assoc, List.singleton_append]
    rw [hwhole]
    by_cases hfirst : t.IsDirectory (dir ++ [first])
    · have hshort := h.short_of_isDirectory hfirst first (by simp)
      rw [hinto (entry_eq_ok_iff.2 ⟨hshort, hfirst.resolve_left (by simp)⟩)]
      exact ih hfirst
    · refine iff_of_false (fun hok => ?_) fun hall => hfirst (h.isDirectory_above hall.1)
      exact hfirst (.inr (entry_eq_ok_iff.1 (hentered hok)).2)

theorem resolve_top_eq_ok_iff (h : t.IsTree) {node : Option Node} :
    t.resolve [] (dir ++ [name]) = .ok node ↔
      t.IsDirectory dir ∧ IsShort name ∧ t.node? (dir ++ [name]) = node :=
  h.resolve_eq_ok_iff (.inl rfl)

theorem resolve_eq_ok_some_iff (h : t.IsTree) {node : Node} (hplace : place ≠ []) :
    t.resolve [] place = .ok (some node) ↔ t.node? place = some node := by
  obtain ⟨dir, name, rfl⟩ : ∃ dir name, place = dir ++ [name] :=
    ⟨_, _, (List.dropLast_concat_getLast hplace).symm⟩
  rw [h.resolve_top_eq_ok_iff]
  refine ⟨fun hall => hall.2.2, fun hnode => ⟨h.parent dir name node hnode, ?_, hnode⟩⟩
  exact h.short _ node hnode name (by simp)

end IsTree

def content? (t : FileTree) (place : Place) : Option (List UInt8) :=
  match t.node? place with
  | some (.file content) => some content
  | _ => none

theorem content?_eq_some_iff {content : List UInt8} :
    t.content? place = some content ↔ t.node? place = some (.file content) := by
  unfold content?
  rcases t.node? place with _ | _ | before <;> simp

theorem IsTree.read_eq_ok_iff (h : t.IsTree) {content : List UInt8} :
    t.read place = .ok content ↔ t.content? place = some content := by
  rw [content?_eq_some_iff]
  by_cases hplace : place = []
  · subst hplace
    rw [h.top]
    exact iff_of_false (fun hread => nomatch hread) (fun hnode => nomatch hnode)
  · rw [← h.resolve_eq_ok_some_iff hplace]
    unfold read
    rcases t.resolve [] place with e | _ | _ | before <;> simp

theorem IsTree.read_eq_content? (h : t.IsTree) (place : Place) :
    (t.read place).toOption = t.content? place := by
  ext content
  rw [← h.read_eq_ok_iff]
  cases t.read place <;> simp [Except.toOption]

theorem content?_set_file (t : FileTree) (place : Place) (content : List UInt8) (other : Place) :
    (t.set place (.file content)).content? other =
      if other = place then some content else t.content? other := by
  by_cases hother : other = place
  · rw [if_pos hother, hother, content?_eq_some_iff, node?_set_self]
  · rw [if_neg hother, content?, content?, node?_set_of_ne t _ hother]

section Writing
variable {content : List UInt8}

/-- A file is written in a directory, where there is none. -/
theorem IsTree.write_eq_ok_iff (h : t.IsTree) :
    t.write (dir ++ [name]) content = .ok t' ↔
      t.IsDirectory dir ∧ IsShort name ∧ t.node? (dir ++ [name]) ≠ some .directory ∧
        t.set (dir ++ [name]) (.file content) = t' := by
  unfold write
  rcases hresolve : t.resolve [] (dir ++ [name]) with e | node
  · refine iff_of_false (by simp) fun hall => ?_
    have hok := h.resolve_top_eq_ok_iff.2 ⟨hall.1, hall.2.1, rfl⟩
    rw [hresolve] at hok
    cases hok
  · obtain ⟨hdir, hname, rfl⟩ := h.resolve_top_eq_ok_iff.1 hresolve
    simp only [hdir, hname, true_and]
    rcases t.node? (dir ++ [name]) with _ | _ | before <;> simp

theorem IsTree.append_eq (h : t.IsTree) (hdir : t.IsDirectory dir) (hname : IsShort name) :
    t.append (dir ++ [name]) content =
      if t.node? (dir ++ [name]) = some .directory then .error .isDirectory
      else .ok (t.set (dir ++ [name])
        (.file ((t.content? (dir ++ [name])).getD [] ++ content))) := by
  have hresolve := h.resolve_top_eq_ok_iff.2 ⟨hdir, hname, rfl⟩
  unfold append content?
  rw [hresolve]
  rcases t.node? (dir ++ [name]) with _ | _ | before <;> simp

end Writing

/-- Directories were made on the way to a place, and nothing else. -/
structure Makes (t : FileTree) (place : Place) (t' : FileTree) : Prop where
  tree : t'.IsTree
  kept : ∀ other node, t.node? other = some node → t'.node? other = some node
  made : ∀ other, t.node? other = none → t'.node? other ≠ none →
    other <+: place ∧ t'.node? other = some .directory

namespace Makes

theorem content?_eq (h : t.Makes place t') (other : Place) :
    t'.content? other = t.content? other := by
  unfold content?
  cases hbefore : t.node? other with
  | some node => rw [h.kept other node hbefore]
  | none =>
    cases hafter : t'.node? other with
    | none => rfl
    | some node =>
      have hmade := (h.made other hbefore (by simp [hafter])).2
      rw [hafter] at hmade
      rw [hmade]

theorem refl (h : t.IsTree) (place : Place) : t.Makes place t where
  tree := h
  kept _ _ hnode := hnode
  made _ hnone hsome := absurd hnone hsome

theorem trans {t'' : FileTree} (h : t.Makes place t') (h' : t'.Makes place t'') :
    t.Makes place t'' where
  tree := h'.tree
  kept other node hnode := h'.kept other node (h.kept other node hnode)
  made other hnone hsome := by
    by_cases hnone' : t'.node? other = none
    · exact h'.made other hnone' hsome
    · obtain ⟨hpart, hdir⟩ := h.made other hnone hnone'
      exact ⟨hpart, h'.kept other _ hdir⟩

theorem set_directory (h : t.IsTree) (hdir : t.IsDirectory dir) (hname : IsShort name)
    (hnone : t.node? (dir ++ [name]) = none) (hpart : dir ++ [name] <+: place) :
    t.Makes place (t.set (dir ++ [name]) .directory) where
  tree := h.set hdir hname fun _ => rfl
  kept other node hnode := by
    rw [node?_set_of_ne t _ ?_, hnode]
    rintro rfl
    rw [hnone] at hnode
    cases hnode
  made other hother hsome := by
    by_cases heq : other = dir ++ [name]
    · subst heq
      exact ⟨hpart, node?_set_self ..⟩
    · rw [node?_set_of_ne t _ heq] at hsome
      exact absurd hother hsome

/-- The induction makes one directory after another. -/
theorem makeDirsFrom (h : t.IsTree) (hdir : t.IsDirectory dir) (way : Place) :
    t.Makes (dir ++ way) (t.makeDirsFrom dir way).1 := by
  induction way generalizing t dir with
  | nil => exact refl h _
  | cons name rest ih =>
    have hwhole : dir ++ name :: rest = dir ++ [name] ++ rest := by
      rw [List.append_assoc, List.singleton_append]
    rw [hwhole]
    unfold FileTree.makeDirsFrom
    rcases hentry : t.entry dir name with e | _ | _ | content
    · exact refl h _
    · obtain ⟨hname, hnone⟩ := entry_eq_ok_iff.1 hentry
      have hstep := set_directory h hdir hname hnone (List.prefix_append (dir ++ [name]) rest)
      exact hstep.trans (ih hstep.tree (.inr (node?_set_self ..)))
    · exact ih h (.inr (entry_eq_ok_iff.1 hentry).2)
    · exact refl h _

end Makes

theorem isDirectory_makeDirsFrom (hdir : t.IsDirectory dir) {way : Place}
    (hok : (t.makeDirsFrom dir way).2 = none) :
    (t.makeDirsFrom dir way).1.IsDirectory (dir ++ way) := by
  induction way generalizing t dir with
  | nil => rwa [List.append_nil]
  | cons name rest ih =>
    have hwhole : dir ++ name :: rest = dir ++ [name] ++ rest := by
      rw [List.append_assoc, List.singleton_append]
    rw [hwhole]
    unfold makeDirsFrom at hok ⊢
    rcases hentry : t.entry dir name with e | _ | _ | content
    · simp [hentry] at hok
    · rw [hentry] at hok
      exact ih (.inr (node?_set_self ..)) hok
    · rw [hentry] at hok
      exact ih (.inr (entry_eq_ok_iff.1 hentry).2) hok
    · simp [hentry] at hok

theorem IsTree.makeDirsFrom_eq (h : t.IsTree) {way : Place} (hdir : t.IsDirectory (dir ++ way)) :
    t.makeDirsFrom dir way = (t, none) := by
  induction way generalizing dir with
  | nil => rfl
  | cons name rest ih =>
    have hwhole : dir ++ name :: rest = dir ++ [name] ++ rest := by
      rw [List.append_assoc, List.singleton_append]
    rw [hwhole] at hdir
    have hfirst := h.isDirectory_above hdir
    have hentry : t.entry dir name = .ok (some .directory) := entry_eq_ok_iff.2
      ⟨h.short_of_isDirectory hfirst name (by simp), hfirst.resolve_left (by simp)⟩
    unfold makeDirsFrom
    rw [hentry]
    exact ih hdir

/-- Directories can be made where no file is in the way and no name is too long. -/
theorem makeDirsFrom_succeeds {way : Place} (hshort : ∀ name ∈ way, IsShort name)
    (hfree : ∀ part content, part <+: way → t.node? (dir ++ part) ≠ some (.file content)) :
    (t.makeDirsFrom dir way).2 = none := by
  induction way generalizing t dir with
  | nil => rfl
  | cons name rest ih =>
    obtain ⟨hname, hrest⟩ := List.forall_mem_cons.1 hshort
    have hlater (part : Place) (content : List UInt8) (hpart : part <+: rest) :
        t.node? (dir ++ [name] ++ part) ≠ some (.file content) := by
      rw [List.append_assoc]
      exact hfree ([name] ++ part) content ((List.prefix_append_right_inj [name]).2 hpart)
    have hentry : t.entry dir name = .ok (t.node? (dir ++ [name])) :=
      entry_eq_ok_iff.2 ⟨hname, rfl⟩
    unfold makeDirsFrom
    rw [hentry]
    rcases hnode : t.node? (dir ++ [name]) with _ | _ | content
    · apply ih hrest
      intro part content hpart
      by_cases heq : dir ++ [name] ++ part = dir ++ [name]
      · rw [heq, node?_set_self]
        simp
      · rw [node?_set_of_ne t _ heq]
        exact hlater part content hpart
    · exact ih hrest hlater
    · exact absurd hnode (hfree [name] content (by simp))

end FileTree

end GsmTrunk.Spool
