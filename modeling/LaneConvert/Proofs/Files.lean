import Mathlib
import LaneConvert.Run

/-!
# Replacing a file

A file is replaced through a draft next to it. The draft has a name that nothing else has, so making
it changes neither what other places hold nor where paths lead. If it takes the place of the file,
that place holds the new text and all others hold what they held; if it cannot, it is removed and
the tree is the one that was found.

A file that is replaced is no directory, and it takes the place of none. So paths lead where they
led before, and what they lead to is what it was, unless they lead to the file itself. Whether the
file can be replaced once more depends on directories only.
-/

namespace LaneConvert

namespace Tree

variable {t u : Tree} {l m : Location}

/-- Where a path leads depends on the directories of a tree only. -/
theorem follow?_congr (h : ∀ m, t.isDirectory m = u.isDirectory m) (l : Location)
    (segments : List String) : t.follow? l segments = u.follow? l segments := by
  induction segments generalizing l with
  | nil => rfl
  | cons segment rest ih => simp only [follow?, h l, ih]

/-- Paths lead to the same places in trees with the same directories. -/
theorem locate?_congr (hhome : t.home = u.home) (h : ∀ m, t.isDirectory m = u.isDirectory m)
    (p : Path) : t.locate? p = u.locate? p := by
  simp only [locate?, hhome, follow?_congr h]

/-- Paths stand for the same files in trees with the same directories. -/
theorem target?_congr (hhome : t.home = u.home) (h : ∀ m, t.isDirectory m = u.isDirectory m)
    (p : Path) : t.target? p = u.target? p := by
  simp only [target?, locate?_congr hhome h, h]

/-- A path stands for a file in the place it leads to, unless that is a directory. -/
theorem target?_eq_some_iff {p : Path} :
    t.target? p = some l ↔ t.locate? p = some l ∧ t.isDirectory l = false := by
  simp [target?]

/-- A place that holds no directory is not the root. -/
theorem ne_nil_of_not_isDirectory (h : t.isDirectory l = false) : l ≠ [] := by
  rintro rfl
  simp [isDirectory, node?] at h

/-- A text that was written is read back. -/
theorem read?_of_find? {p : Path} {text : String} (h : t.find? p = some (.file text.toUTF8)) :
    t.read? p = some text := by
  have hdecode : String.fromUTF8? text.toUTF8 = some text := dif_pos text.isValidUTF8
  rw [read?, h, ← hdecode]

/-- The number of a draft can be read off its name. -/
theorem draftName_injective : Function.Injective draftName := by
  have hread : ∀ n, Nat.ofDigitChars 10 ((Nat.toDigits 10 n).leftpad 6 '0') 0 = n := by
    intro n
    rw [List.leftpad, Nat.ofDigitChars_append, Nat.ofDigitChars_replicate_zero, Nat.mul_zero,
      Nat.ofDigitChars_toDigits (by decide) (by decide)]
  intro m n h
  have hlist := congrArg String.toList h
  simp only [draftName, String.toList_append, String.toList_ofList,
    List.append_cancel_left_eq] at hlist
  rw [← hread m, hlist, hread n]

/-- The place of a draft is free. -/
theorem node?_of_draft? {directory : Path} {draft : Location}
    (h : t.draft? directory = some draft) :
    t.node? draft = none := by
  unfold draft? at h
  split at h
  · obtain ⟨l, -, hfind⟩ := Option.bind_eq_some_iff.mp h
    simpa using List.find?_some hfind
  · simp at h

/-- Where a draft can be made, there is a free name for it: there are more names than entries. -/
theorem exists_draft {directory : Path} (h : t.canDraft directory = true) :
    ∃ draft, t.draft? directory = some draft := by
  have hfind : t.find? directory = some .directory := by
    simp only [canDraft, Bool.and_eq_true, decide_eq_true_eq] at h
    exact h.1
  obtain ⟨l, hl, -⟩ := Option.bind_eq_some_iff.mp hfind
  rw [draft?, if_pos h, hl, Option.bind_some]
  by_contra hnone
  have hnone := Option.eq_none_iff_forall_ne_some.mpr fun draft hd => hnone ⟨draft, hd⟩
  rw [List.find?_eq_none] at hnone
  have htaken : ∀ n ∈ List.range (t.entries.length + 1),
      l ++ [draftName n] ∈ t.entries.map Prod.fst := by
    intro n hn
    have hnode := hnone _ (List.mem_map_of_mem hn)
    by_contra hfree
    apply hnode
    have hentry : t.entries.find? (fun e => e.1 = l ++ [draftName n]) = none := by
      rw [List.find?_eq_none]
      intro e he
      have hne : e.1 ≠ l ++ [draftName n] := fun heq => hfree (heq ▸ List.mem_map_of_mem he)
      simpa using hne
    simp [node?, hentry]
  have hnodup : ((List.range (t.entries.length + 1)).map fun n => l ++ [draftName n]).Nodup := by
    refine List.Nodup.map ?_ List.nodup_range
    intro m n hmn
    exact draftName_injective (List.singleton_injective (List.append_cancel_left hmn))
  have hsubset : ((List.range (t.entries.length + 1)).map fun n => l ++ [draftName n]) ⊆
      t.entries.map Prod.fst := by
    intro m hm
    obtain ⟨n, hn, rfl⟩ := List.mem_map.mp hm
    exact htaken n hn
  have hlength := (hnodup.subperm hsubset).length_le
  simp only [List.length_map, List.length_range] at hlength
  omega

section Drafting

variable {draft : Location} (text : String)

/-- A draft holds its text. -/
theorem node?_drafting_self (h : t.node? draft = none) :
    (t.applyAll (drafting draft text)).node? draft = some (.file text.toUTF8) := by
  have hroot : draft ≠ [] := by
    rintro rfl
    simp [node?] at h
  exact node?_put_self _ hroot _

/-- A draft changes no other place. -/
theorem node?_drafting_of_ne (h : m ≠ draft) :
    (t.applyAll (drafting draft text)).node? m = t.node? m := by
  rw [← node?_put_of_ne t h (.file .empty)]
  exact node?_put_of_ne _ h _

/-- A draft is no directory and takes the place of none. -/
theorem isDirectory_drafting (h : t.node? draft = none) (m : Location) :
    (t.applyAll (drafting draft text)).isDirectory m = t.isDirectory m := by
  by_cases hm : m = draft
  · simp [isDirectory, hm, h, node?_drafting_self text h]
  · simp only [isDirectory, node?_drafting_of_ne text hm]

/-- A draft does not change which file a path stands for. -/
theorem target?_drafting (h : t.node? draft = none) (p : Path) :
    (t.applyAll (drafting draft text)).target? p = t.target? p := by
  have hhome : (t.applyAll (drafting draft text)).home = t.home := rfl
  exact target?_congr hhome (isDirectory_drafting text h) p

/-- To clear a draft away undoes all that was done for it. -/
theorem applyAll_drafting_discarding (h : t.node? draft = none) :
    t.applyAll (drafting draft text ++ discarding draft) = t := by
  change ((t.put draft _).put draft _).erase draft = t
  rw [erase_put_self, erase_put_self, erase_of_node?_eq_none h]

end Drafting

/-- A tree differs from another in the file that a path stands for, which holds the given text. -/
def Replaced (before after : Tree) (p : Path) (text : String) : Prop :=
  ∃ l, before.target? p = some l ∧ after.node? l = some (.file text.toUTF8) ∧
    ∀ m, m ≠ l → after.node? m = before.node? m

/-- A draft that takes the place of a file leaves nothing behind. -/
theorem replaced_rename {draft : Location} {text : String} {p : Path} (h : t.node? draft = none)
    (hl : t.target? p = some l) :
    Replaced t (t.applyAll (drafting draft text ++ [.rename draft l])) p text := by
  have hafter : t.applyAll (drafting draft text ++ [.rename draft l]) =
      ((t.applyAll (drafting draft text)).erase draft).put l (.file text.toUTF8) := by
    have hdraft := node?_drafting_self text h
    simp only [applyAll, List.foldl_append, List.foldl_cons, List.foldl_nil] at hdraft ⊢
    simp only [apply, hdraft]
  have hroot := ne_nil_of_not_isDirectory (target?_eq_some_iff.mp hl).2
  refine ⟨l, hl, ?_, ?_⟩
  · rw [hafter, node?_put_self _ hroot]
  · intro m hm
    rw [hafter, node?_put_of_ne _ hm]
    by_cases hdraft : m = draft
    · have hdraftRoot : draft ≠ [] := by
        rintro rfl
        simp [node?] at h
      rw [hdraft, node?_erase_self _ hdraftRoot, h]
    · rw [node?_erase_of_ne _ hdraft, node?_drafting_of_ne text hdraft]

variable {t u v : Tree} {p q : Path} {text : String}

/-- The path `q` does not lead to the file that `p` stands for. -/
def Apart (t : Tree) (p q : Path) : Prop := ∀ l, t.target? p = some l → t.locate? q ≠ some l

/-- A path keeps apart from a file exactly if it does not lead there. -/
theorem apart_iff {l : Location} (h : t.target? p = some l) :
    t.Apart p q ↔ t.locate? q ≠ some l := by
  simp [Apart, h]

/-- Two trees differ at most in the file that a path stands for. -/
structure SameBut (p : Path) (t u : Tree) : Prop where
  /-- Relative paths start at the same place. -/
  home : u.home = t.home
  /-- The same places are directories. -/
  isDirectory : ∀ m, u.isDirectory m = t.isDirectory m
  /-- All other places hold the same. -/
  elsewhere : ∀ m, t.target? p ≠ some m → u.node? m = t.node? m

/-- No change moves the working directory. -/
theorem home_applyAll (t : Tree) (changes : List Change) : (t.applyAll changes).home = t.home := by
  induction changes generalizing t with
  | nil => rfl
  | cons change rest ih =>
    have hstep : (t.apply change).home = t.home := by
      cases change with
      | create l => rfl
      | write l content => rfl
      | remove l => rfl
      | rename source target =>
        rw [apply]
        cases t.node? source <;> rfl
    exact (ih (t.apply change)).trans hstep

/-- To replace a file changes that file at most. -/
theorem Replaced.sameBut (h : t.Replaced u p text) (hhome : u.home = t.home) : SameBut p t u := by
  obtain ⟨l, hl, hnode, hothers⟩ := h
  refine ⟨hhome, ?_, ?_⟩
  · intro m
    by_cases hm : m = l
    · have hbefore : t.isDirectory l = false := (target?_eq_some_iff.mp hl).2
      have hafter : u.isDirectory l = false := by simp [isDirectory, hnode]
      rw [hm, hbefore, hafter]
    · simp only [isDirectory, hothers m hm]
  · intro m hm
    refine hothers m ?_
    rintro rfl
    exact hm hl

namespace SameBut

/-- A tree differs from itself in nothing. -/
theorem refl (p : Path) (t : Tree) : SameBut p t t := ⟨rfl, fun _ => rfl, fun _ _ => rfl⟩

variable (h : SameBut p t u)
include h

/-- Paths lead where they led before. -/
theorem locate? (q : Path) : u.locate? q = t.locate? q := locate?_congr h.home h.isDirectory q

/-- Paths stand for the files they stood for before. -/
theorem target? (q : Path) : u.target? q = t.target? q := target?_congr h.home h.isDirectory q

/-- Trees that differ in one file one after another differ in it altogether. -/
theorem trans (h' : SameBut p u v) : SameBut p t v := by
  refine ⟨h'.home.trans h.home, fun m => (h'.isDirectory m).trans (h.isDirectory m), ?_⟩
  intro m hm
  have hother : u.target? p ≠ some m := by rwa [h.target?]
  exact (h'.elsewhere m hother).trans (h.elsewhere m hm)

/-- Paths that keep apart from the file lead to what they led to before. -/
theorem find?_of_apart (hq : t.Apart p q) : u.find? q = t.find? q := by
  rw [find?, find?, h.locate?]
  cases hl : t.locate? q with
  | none => rfl
  | some m => exact h.elsewhere m fun htarget => hq m htarget hl

/-- Paths that keep apart from the file lead to files as before. -/
theorem isFile_of_apart (hq : t.Apart p q) : u.isFile q = t.isFile q := by
  simp only [isFile, h.find?_of_apart hq]

/-- Paths that keep apart from the file lead to the same text as before. -/
theorem read?_of_apart (hq : t.Apart p q) : u.read? q = t.read? q := by
  simp only [read?, h.find?_of_apart hq]

/-- Drafts can be made in the same directories. -/
theorem canDraft (directory : Path) : u.canDraft directory = t.canDraft directory := by
  have hfind : u.find? directory = some .directory ↔ t.find? directory = some .directory := by
    rw [find?, find?, h.locate?]
    cases t.locate? directory with
    | none => rfl
    | some m =>
      have hm := h.isDirectory m
      simpa only [Tree.isDirectory, decide_eq_decide, Option.bind_some] using hm
  have hroot : u.fromRoot directory = t.fromRoot directory := by rw [fromRoot, fromRoot, h.home]
  rw [Bool.eq_iff_iff]
  simp only [Tree.canDraft, Bool.and_eq_true, decide_eq_true_eq, hroot, hfind]

end SameBut

/-- A file that was replaced holds its text. -/
theorem Replaced.find? (h : t.Replaced u p text) (hhome : u.home = t.home) :
    u.find? p = some (.file text.toUTF8) := by
  have hlocate := (h.sameBut hhome).locate? p
  obtain ⟨l, hl, hnode, -⟩ := h
  rw [Tree.find?, hlocate, (target?_eq_some_iff.mp hl).1]
  exact hnode

/-- Two paths stand for the same file. -/
structure SameFile (t : Tree) (p q : Path) : Prop where
  /-- They lead to the same place. -/
  target? : t.target? q = t.target? p
  /-- For a draft next to the file neither is too long, or both are. -/
  canDraft : t.canDraft q.directory = t.canDraft p.directory

/-- A path leads to the same file as itself. -/
theorem SameFile.refl (t : Tree) (p : Path) : t.SameFile p p := ⟨rfl, rfl⟩

/-- Paths to one file still lead to one file after it was replaced. -/
theorem SameFile.of_sameBut {a b : Path} (hfile : t.SameFile a b) (h : SameBut p t u) :
    u.SameFile a b := by
  obtain ⟨htarget, hdraft⟩ := hfile
  refine ⟨?_, ?_⟩
  · rw [h.target?, h.target?, htarget]
  · rw [h.canDraft, h.canDraft, hdraft]

/-- A file that was replaced was replaced under each of its paths. -/
theorem SameFile.replaced (hfile : t.SameFile p q) (h : t.Replaced u q text) :
    t.Replaced u p text := by
  obtain ⟨l, hl, hholds⟩ := h
  exact ⟨l, hfile.target?.symm.trans hl, hholds⟩

/-- Paths to one file lead to the same content. -/
theorem SameFile.find? (hfile : t.SameFile p q) {l : Location} (hl : t.target? p = some l) :
    t.find? q = t.find? p := by
  have hplace := (target?_eq_some_iff.mp hl).1
  have hplace' := (target?_eq_some_iff.mp (hfile.target?.trans hl)).1
  rw [Tree.find?, Tree.find?, hplace, hplace']

end Tree

namespace Run

variable {files other : Tree} {p path : Path}

/-- Where no draft can be made nothing is changed. -/
theorem replaceFile_of_no_draft (h : files.canDraft path.directory = false) (text : String) :
    replaceFile files path text = fail (.unwritable (.noDirectory path.directory)) := by
  have hdraft : files.draft? path.directory = none := by simp [Tree.draft?, h]
  unfold replaceFile
  rw [hdraft]

/-- A draft that cannot take the place of what is there is cleared away. -/
theorem replaceFile_of_no_target (h : files.canDraft path.directory = true)
    (htarget : files.target? path = none) (text : String) :
    ∃ draft, files.node? draft = none ∧
      replaceFile files path text =
        ⟨"", [], Tree.drafting draft text ++ Tree.discarding draft,
          .error (.unwritable (.irreplaceable path))⟩ := by
  obtain ⟨draft, hdraft⟩ := Tree.exists_draft h
  have hfree := Tree.node?_of_draft? hdraft
  rw [← Tree.target?_drafting text hfree] at htarget
  refine ⟨draft, hfree, ?_⟩
  unfold replaceFile
  rw [hdraft]
  dsimp only
  rw [htarget]
  rfl

/-- A draft takes the place of the file. -/
theorem replaceFile_of_target {l : Location} (h : files.canDraft path.directory = true)
    (htarget : files.target? path = some l) (text : String) :
    ∃ draft journal, files.node? draft = none ∧
      replaceFile files path text =
        ⟨"", journal, Tree.drafting draft text ++ [.rename draft l], .ok ()⟩ := by
  obtain ⟨draft, hdraft⟩ := Tree.exists_draft h
  have hfree := Tree.node?_of_draft? hdraft
  rw [← Tree.target?_drafting text hfree] at htarget
  have hrun : ∃ journal, replaceFile files path text =
      ⟨"", journal, Tree.drafting draft text ++ [.rename draft l], .ok ()⟩ := by
    unfold replaceFile
    rw [hdraft]
    dsimp only
    rw [htarget]
    exact ⟨_, rfl⟩
  obtain ⟨journal, hrun⟩ := hrun
  exact ⟨draft, journal, hfree, hrun⟩

/-- What becomes of a file that is to be replaced. Either the run fails and the tree is the one that
was found, or the file is replaced. Nothing is printed. -/
theorem replaceFile_cases (files : Tree) (path : Path) (text : String) :
    (replaceFile files path text).printed = "" ∧
    ((∃ fault, (replaceFile files path text).result = .error (.unwritable fault) ∧
        files.applyAll (replaceFile files path text).changes = files) ∨
      (replaceFile files path text).result = .ok () ∧
        files.Replaced (files.applyAll (replaceFile files path text).changes) path text) := by
  cases hcan : files.canDraft path.directory with
  | false =>
    rw [replaceFile_of_no_draft hcan text]
    exact ⟨rfl, .inl ⟨_, rfl, rfl⟩⟩
  | true =>
    cases htarget : files.target? path with
    | none =>
      obtain ⟨draft, hfree, hrun⟩ := replaceFile_of_no_target hcan htarget text
      rw [hrun]
      exact ⟨rfl, .inl ⟨_, rfl, Tree.applyAll_drafting_discarding text hfree⟩⟩
    | some l =>
      obtain ⟨draft, journal, hfree, hrun⟩ := replaceFile_of_target hcan htarget text
      rw [hrun]
      exact ⟨rfl, .inr ⟨rfl, Tree.replaced_rename hfree htarget⟩⟩

/-- A file can be replaced exactly if a draft can be made next to it and no directory is there. -/
theorem result_replaceFile_eq_ok_iff {text : String} :
    (replaceFile files p text).result = .ok () ↔
      files.canDraft p.directory = true ∧ ∃ l, files.target? p = some l := by
  constructor
  · intro h
    cases hcan : files.canDraft p.directory with
    | false =>
      rw [replaceFile_of_no_draft hcan text] at h
      cases h
    | true =>
      cases htarget : files.target? p with
      | none =>
        obtain ⟨draft, -, hrun⟩ := replaceFile_of_no_target hcan htarget text
        rw [hrun] at h
        cases h
      | some l => exact ⟨rfl, l, rfl⟩
  · rintro ⟨hcan, l, htarget⟩
    obtain ⟨draft, journal, -, hrun⟩ := replaceFile_of_target hcan htarget text
    rw [hrun]

/-- Whether a file can be replaced depends neither on what it holds nor on the text or on the path
to it. -/
theorem result_replaceFile_iff {q : Path} {text text' : String} (h : files.SameBut p other)
    (hfile : files.SameFile p q) :
    (replaceFile other q text').result = .ok () ↔ (replaceFile files p text).result = .ok () := by
  rw [result_replaceFile_eq_ok_iff, result_replaceFile_eq_ok_iff, h.canDraft, h.target?,
    hfile.canDraft, hfile.target?]

end Run

end LaneConvert
