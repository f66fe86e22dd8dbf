import Continuity.Files.Tree
import Continuity.Proofs.Data.Lists
import Continuity.Proofs.Path

/-! # What names lead to in a tree of files

In a tree as a file system can hold it, names lead somewhere by the entries that they stand for, one
below the other. Looking a path up finds what its names lead to, unless it has a name for "up".
-/

namespace Continuity

/-- A name that an entry of a directory can have. -/
structure IsFileName (name : String) : Prop where
  isName : Path.IsName name
  down : name ≠ ".."
  short : name.utf8ByteSize ≤ FileTree.maxNameBytes

instance (name : String) : Decidable (IsFileName name) :=
  decidable_of_iff ((name ≠ "" ∧ name ≠ "." ∧ '/' ∉ name.toList) ∧ name ≠ ".." ∧
      name.utf8ByteSize ≤ FileTree.maxNameBytes)
    ⟨fun ⟨hname, hdown, hshort⟩ => ⟨hname, hdown, hshort⟩,
      fun h => ⟨h.isName, h.down, h.short⟩⟩

namespace FileTree

/-- A tree as a file system can hold it: the entries of a directory have names of their own. -/
inductive IsProper : FileTree → Prop
  | file (content : List UInt8) : IsProper (.file content)
  | directory {entries : List (String × FileTree)} (names : ∀ entry ∈ entries, IsFileName entry.1)
      (apart : (entries.map (·.1)).Nodup) (below : ∀ entry ∈ entries, IsProper entry.2) :
      IsProper (.directory entries)

theorem isProper_directory_iff {entries : List (String × FileTree)} :
    IsProper (.directory entries) ↔ (∀ entry ∈ entries, IsFileName entry.1) ∧
      (entries.map (·.1)).Nodup ∧ ∀ entry ∈ entries, IsProper entry.2 := by
  constructor
  · rintro ⟨⟩
    exact ⟨‹_›, ‹_›, ‹_›⟩
  · rintro ⟨hnames, hapart, hbelow⟩
    exact .directory hnames hapart hbelow

mutual

/-- Whether a tree is proper can be found out by going through it. -/
def decideIsProper : (t : FileTree) → Decidable t.IsProper
  | .file content => .isTrue (.file content)
  | .directory entries =>
    haveI := decideIsProperIn entries
    decidable_of_iff' _ isProper_directory_iff

/-- Whether what some entries stand for is proper. -/
def decideIsProperIn : (entries : List (String × FileTree)) →
    Decidable (∀ entry ∈ entries, entry.2.IsProper)
  | [] => .isTrue fun _ hentry => absurd hentry List.not_mem_nil
  | (_, t) :: rest =>
    haveI := decideIsProper t
    haveI := decideIsProperIn rest
    decidable_of_iff' _ List.forall_mem_cons

end

instance (t : FileTree) : Decidable t.IsProper := decideIsProper t

/-- Names lead from a tree to what lies below it. -/
inductive Leads : FileTree → List String → FileTree → Prop
  | here (t : FileTree) : Leads t [] t
  | through {entries : List (String × FileTree)} {name : String} {t found : FileTree}
      {names : List String} (entry : (name, t) ∈ entries) (rest : Leads t names found) :
      Leads (.directory entries) (name :: names) found

variable {t found : FileTree} {entries : List (String × FileTree)} {name : String}
  {names names' : List String}

theorem leads_nil_iff : t.Leads [] found ↔ t = found := by
  constructor
  · rintro ⟨⟩
    rfl
  · rintro rfl
    exact .here t

theorem leads_cons_iff : t.Leads (name :: names) found ↔
    ∃ entry ∈ t.entries, entry.1 = name ∧ entry.2.Leads names found := by
  constructor
  · rintro (_ | ⟨hentry, hrest⟩)
    exact ⟨_, hentry, rfl, hrest⟩
  · rintro ⟨entry, hentry, rfl, hrest⟩
    cases t with
    | file content => cases hentry
    | directory entries => exact .through hentry hrest

theorem leads_append_iff : t.Leads (names ++ names') found ↔
    ∃ middle, t.Leads names middle ∧ middle.Leads names' found := by
  induction names generalizing t with
  | nil => simp [leads_nil_iff]
  | cons name rest ih =>
      simp only [List.cons_append, leads_cons_iff, ih]
      constructor
      · rintro ⟨entry, hentry, hname, middle, hrest, hfound⟩
        exact ⟨middle, ⟨entry, hentry, hname, hrest⟩, hfound⟩
      · rintro ⟨middle, ⟨entry, hentry, hname, hrest⟩, hfound⟩
        exact ⟨entry, hentry, hname, middle, hrest, hfound⟩

/-- Only from a directory do names lead to something in it. -/
theorem Leads.exists_directory (h : t.Leads names (.directory entries)) :
    ∃ above, t = .directory above := by
  cases h with
  | here => exact ⟨entries, rfl⟩
  | through => exact ⟨_, rfl⟩

mutual

theorem mem_directories_iff {names : List String} : (t : FileTree) →
    (names ∈ t.directories ↔ ∃ entries, t.Leads names (.directory entries))
  | .file content => by
      cases names <;> simp [directories, leads_nil_iff, leads_cons_iff, entries]
  | .directory below => by
      rw [directories, List.mem_cons, mem_directoriesIn_iff below]
      cases names with
      | nil => simp [leads_nil_iff]
      | cons name rest =>
          simp only [leads_cons_iff, entries, List.cons.injEq, reduceCtorEq, false_or]
          constructor
          · rintro ⟨entry, hentry, _, found, ⟨rfl, rfl⟩, hrest⟩
            exact ⟨found, entry, hentry, rfl, hrest⟩
          · rintro ⟨found, entry, hentry, rfl, hrest⟩
            exact ⟨entry, hentry, rest, found, ⟨rfl, rfl⟩, hrest⟩

theorem mem_directoriesIn_iff {names : List String} : (entries : List (String × FileTree)) →
    (names ∈ directoriesIn entries ↔ ∃ entry ∈ entries, ∃ rest below,
      names = entry.1 :: rest ∧ entry.2.Leads rest (.directory below))
  | [] => by simp [directoriesIn]
  | (name, t) :: rest => by
      rw [directoriesIn, List.mem_append, mem_directoriesIn_iff rest, List.mem_map,
        List.exists_mem_cons_iff]
      refine or_congr_left ?_
      constructor
      · rintro ⟨names, hnames, rfl⟩
        obtain ⟨below, hbelow⟩ := (mem_directories_iff t).1 hnames
        exact ⟨names, below, rfl, hbelow⟩
      · rintro ⟨names, below, rfl, hbelow⟩
        exact ⟨names, (mem_directories_iff t).2 ⟨below, hbelow⟩, rfl⟩

end

theorem find_cons_eq_ok_iff (hname : ".." ≠ name) {above : List FileTree} :
    find above (.directory entries) (name :: names) = .ok found ↔
      name.utf8ByteSize ≤ maxNameBytes ∧
        ∃ t, entries.lookup name = some t ∧
          find (.directory entries :: above) t names = .ok found := by
  have hdown : (name == "..") = false := beq_false_of_ne hname.symm
  rw [find.eq_def]
  simp only [hdown, Bool.false_eq_true, if_false]
  split
  next hlong => simp [Nat.not_le.2 hlong]
  next hshort => cases hlookup : entries.lookup name <;> simp [Nat.not_lt.1 hshort]

namespace IsProper

theorem isFileName_of_leads (h : t.IsProper) (hleads : t.Leads names found) :
    ∀ name ∈ names, IsFileName name := by
  induction hleads with
  | here => simp
  | through hentry _ ih =>
      cases h with
      | directory hnames _ hbelow =>
          exact List.forall_mem_cons.2 ⟨hnames _ hentry, ih (hbelow _ hentry)⟩

theorem up_not_mem_of_leads (h : t.IsProper) (hleads : t.Leads names found) : ".." ∉ names :=
  fun hmem => (h.isFileName_of_leads hleads _ hmem).down rfl

/-- Names find what they lead to, whatever lies above. -/
theorem find_eq_ok_iff (h : t.IsProper) (hup : ".." ∉ names) (above : List FileTree) :
    find above t names = .ok found ↔ t.Leads names found := by
  induction names generalizing t above with
  | nil =>
      rw [leads_nil_iff, find.eq_def]
      simp
  | cons name rest ih =>
      rw [List.mem_cons, not_or] at hup
      rw [leads_cons_iff]
      cases h with
      | file content => simp [find, entries]
      | @directory below hnames hapart hbelow =>
          rw [find_cons_eq_ok_iff hup.1]
          constructor
          · rintro ⟨-, t, hlookup, hfound⟩
            have hentry := (Lists.lookup_eq_some_iff hapart).1 hlookup
            exact ⟨_, hentry, rfl, (ih (hbelow _ hentry) hup.2 _).1 hfound⟩
          · rintro ⟨entry, hentry, rfl, hrest⟩
            exact ⟨(hnames _ hentry).short, entry.2, (Lists.lookup_eq_some_iff hapart).2 hentry,
              (ih (hbelow _ hentry) hup.2 _).2 hrest⟩

theorem follow_eq_ok_iff (h : t.IsProper) {path : Path} (hup : ".." ∉ path.parts) :
    t.follow path = .ok found ↔ t.Leads path.parts found :=
  h.find_eq_ok_iff hup []

theorem eq_of_leads (h : t.IsProper) {found' : FileTree} (hleads : t.Leads names found)
    (hleads' : t.Leads names found') : found = found' := by
  have hup := h.up_not_mem_of_leads hleads
  rw [← h.find_eq_ok_iff hup []] at hleads hleads'
  exact Except.ok.inj (hleads.symm.trans hleads')

end IsProper

/-! ## Files and directories -/

variable {path : Path}

theorem isFile_eq_true_iff : t.isFile path = .ok true ↔
    ∃ content, t.follow path = .ok (.file content) := by
  rw [isFile]
  split <;> simp_all

theorem isDirectory_eq_true_iff : t.isDirectory path = .ok true ↔
    ∃ entries, t.follow path = .ok (.directory entries) := by
  rw [isDirectory]
  split <;> simp_all

/-- Whether what a path leads to is a file can always be told. -/
theorem exists_isFile_of_follow (h : t.follow path = .ok found) :
    ∃ answer, t.isFile path = .ok answer := by
  cases found with
  | file content => exact ⟨true, isFile_eq_true_iff.2 ⟨content, h⟩⟩
  | directory entries => exact ⟨false, by rw [isFile, h]⟩

end FileTree

end Continuity
