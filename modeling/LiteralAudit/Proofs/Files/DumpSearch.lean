import LiteralAudit.Files.Search
import LiteralAudit.Proofs.Files.PathOrder
import Mathlib.Data.List.Nodup
import Mathlib.Data.List.Sort
import Mathlib.Data.List.TakeWhile

/-!
# Dumps below a folder

A file below a folder is found when its extension is `json` and no folder between the two is
hidden. The search lists the names that lead to such files, each list of names once, and puts the
paths in the order of these lists, so that the order in which folders list their entries does not
matter.
-/

namespace LiteralAudit

namespace Path

/-! ## Extensions -/

theorem bne_dot_of_notMem {ending : List Char} (dotless : '.' ∉ ending) :
    ∀ character ∈ ending.reverse, (character != '.') = true := by
  intro character member
  rw [bne_iff_ne]
  rintro rfl
  exact dotless (List.mem_reverse.mp member)

theorem nameExtension?_of_notMem {name : List Char} (dotless : '.' ∉ name) :
    nameExtension? name = none := by
  have found : (name.reverse.takeWhile (· != '.')).reverse = name := by
    rw [List.takeWhile_eq_self_iff.mpr (bne_dot_of_notMem dotless), List.reverse_reverse]
  rw [nameExtension?, found, Nat.sub_self]
  rfl

theorem nameExtension?_append (stem : List Char) {ending : List Char} (dotless : '.' ∉ ending) :
    nameExtension? (stem ++ '.' :: ending) = if stem = [] then none else some ending := by
  have found : ((stem ++ '.' :: ending).reverse.takeWhile (· != '.')).reverse = ending := by
    rw [List.reverse_append, List.reverse_cons, List.append_assoc,
      List.takeWhile_append_of_pos (bne_dot_of_notMem dotless)]
    simp
  have front : (stem ++ '.' :: ending).take ((stem ++ '.' :: ending).length - ending.length) =
      stem ++ ['.'] := by
    rw [List.append_cons, List.length_append, Nat.add_sub_cancel, List.take_left]
  rw [nameExtension?]
  simp only [found, front]
  split
  · rename_i isEmpty
    simp at isEmpty
  · rename_i single
    rw [if_pos (by simpa using single)]
  · rename_i notSingle
    rw [if_neg]
    rintro rfl
    exact notSingle rfl

/-- An extension is what follows the last dot of a name, where something stands before that dot. -/
theorem nameExtension?_eq_some_iff (name ending : List Char) :
    nameExtension? name = some ending ↔
      '.' ∉ ending ∧ ∃ stem, stem ≠ [] ∧ name = stem ++ '.' :: ending := by
  constructor
  · intro found
    by_cases dotted : '.' ∈ name
    · obtain ⟨back, front, split, dotless⟩ :=
        List.eq_append_cons_of_mem (List.mem_reverse.mpr dotted)
      have order : name = front.reverse ++ '.' :: back.reverse := by
        rw [← List.reverse_reverse name, split]
        simp
      have endingDotless : '.' ∉ back.reverse := by
        rwa [List.mem_reverse]
      rw [order, nameExtension?_append _ endingDotless] at found
      split at found
      · cases found
      · rename_i nonempty
        cases found
        exact ⟨endingDotless, front.reverse, nonempty, order⟩
    · rw [nameExtension?_of_notMem dotted] at found
      cases found
  · rintro ⟨dotless, stem, nonempty, rfl⟩
    rw [nameExtension?_append stem dotless, if_neg nonempty]

end Path

namespace Entry

/-! ## Folders -/

/-- Induction over the entries of a folder and of the folders among them. -/
@[elab_as_elim]
theorem entries_induction {motive : List (String × Entry) → Prop}
    (nil : motive [])
    (file : ∀ name content further, motive further → motive ((name, .file content) :: further))
    (folder : ∀ name inner further, motive inner → motive further →
      motive ((name, .folder inner) :: further)) :
    ∀ entries, motive entries
  | [] => nil
  | (name, .file content) :: further =>
      file name content further (entries_induction nil file folder further)
  | (name, .folder inner) :: further =>
      folder name inner further (entries_induction nil file folder inner)
        (entries_induction nil file folder further)

/-- Entries have names, and no two entries of one folder have the same name. -/
@[simp]
def AreProper : List (String × Entry) → Prop
  | [] => True
  | (name, .file _) :: further =>
      Path.IsName name ∧ name ∉ further.map (·.1) ∧ AreProper further
  | (name, .folder inner) :: further =>
      Path.IsName name ∧ name ∉ further.map (·.1) ∧ AreProper inner ∧ AreProper further

/-- The same entries listed in another order, in the folder and in the folders below it. -/
inductive Relisted : List (String × Entry) → List (String × Entry) → Prop where
  | nil : Relisted [] []
  | file (name : String) (content : List UInt8) {further others : List (String × Entry)}
      (rest : Relisted further others) :
      Relisted ((name, .file content) :: further) ((name, .file content) :: others)
  | folder (name : String) {inner otherInner further others : List (String × Entry)}
      (below : Relisted inner otherInner) (rest : Relisted further others) :
      Relisted ((name, .folder inner) :: further) ((name, .folder otherInner) :: others)
  | swap (first second : String × Entry) (further : List (String × Entry)) :
      Relisted (first :: second :: further) (second :: first :: further)
  | trans {entries others last : List (String × Entry)} (before : Relisted entries others)
      (after : Relisted others last) : Relisted entries last

/-- Names that lead from a folder to a file with the extension `json`, through folders that are not
hidden. -/
def LeadsToDump (entries : List (String × Entry)) (names : List String) : Prop :=
  ∃ folders stem content, stem ≠ "" ∧ names = folders ++ [stem ++ ".json"] ∧
    (folder entries).below? names = some (.file content) ∧
    ∀ name ∈ folders, name.toList.head? ≠ some '.'

/-! ## The names of a search -/

/-- The name of a dump is more than its ending. -/
theorem isDumpName_iff (name : String) :
    isDumpName name = true ↔ ∃ stem, stem ≠ "" ∧ name = stem ++ ".json" := by
  rw [isDumpName, beq_iff_eq, Path.nameExtension?_eq_some_iff]
  constructor
  · rintro ⟨-, stem, nonempty, order⟩
    refine ⟨String.ofList stem, by simpa using nonempty, ?_⟩
    rw [← String.toList_inj, order, String.toList_append, @String.toList_ofList stem]
    rfl
  · rintro ⟨stem, nonempty, rfl⟩
    refine ⟨by decide, stem.toList, by simpa using nonempty, ?_⟩
    rw [String.toList_append]
    rfl

theorem isHiddenName_iff (name : String) :
    isHiddenName name = true ↔ name.toList.head? = some '.' :=
  beq_iff_eq

/-- The names that lead to the dumps among the entries of a folder. -/
@[simp]
def dumpNames : List (String × Entry) → List (List String)
  | [] => []
  | (name, .file _) :: further =>
      (if isDumpName name then [[name]] else []) ++ dumpNames further
  | (name, .folder inner) :: further =>
      (if isHiddenName name then [] else (dumpNames inner).map (name :: ·)) ++ dumpNames further

theorem dumpsAmong_eq_map (path : String) (entries : List (String × Entry)) :
    dumpsAmong path entries = (dumpNames entries).map (Path.below path) := by
  induction entries using entries_induction generalizing path with
  | nil => simp [dumpsAmong]
  | file name content further furtherHypothesis =>
      rw [dumpsAmong, dumpsAt, dumpNames, furtherHypothesis, List.map_append]
      split
      · rfl
      · rfl
  | folder name inner further innerHypothesis furtherHypothesis =>
      rw [dumpsAmong, dumpsAt, dumpNames, furtherHypothesis, List.map_append]
      split
      · rfl
      · rw [innerHypothesis, List.map_map]
        rfl

theorem mem_dumpNames_file (name : String) (content : List UInt8)
    (further : List (String × Entry)) (names : List String) :
    names ∈ dumpNames ((name, .file content) :: further) ↔
      (isDumpName name = true ∧ names = [name]) ∨ names ∈ dumpNames further := by
  rw [dumpNames, List.mem_append]
  split
  · simp [*]
  · simp [*]

theorem mem_dumpNames_folder (name : String) (inner further : List (String × Entry))
    (names : List String) :
    names ∈ dumpNames ((name, .folder inner) :: further) ↔
      (isHiddenName name = false ∧ ∃ rest ∈ dumpNames inner, names = name :: rest) ∨
        names ∈ dumpNames further := by
  rw [dumpNames, List.mem_append]
  split
  · simp [*]
  · simp [*, eq_comm]

/-- Names that are found start with the name of an entry. -/
theorem head_of_mem_dumpNames {entries : List (String × Entry)} {names : List String}
    (member : names ∈ dumpNames entries) :
    ∃ name ∈ entries.map (·.1), names.head? = some name := by
  induction entries using entries_induction generalizing names with
  | nil => simp at member
  | file name content further furtherHypothesis =>
      rcases (mem_dumpNames_file name content further names).mp member with ⟨-, rfl⟩ | there
      · exact ⟨name, List.mem_cons_self, rfl⟩
      · obtain ⟨found, listed, head⟩ := furtherHypothesis there
        exact ⟨found, List.mem_cons_of_mem name listed, head⟩
  | folder name inner further innerHypothesis furtherHypothesis =>
      rcases (mem_dumpNames_folder name inner further names).mp member with
        ⟨-, rest, -, rfl⟩ | there
      · exact ⟨name, List.mem_cons_self, rfl⟩
      · obtain ⟨found, listed, head⟩ := furtherHypothesis there
        exact ⟨found, List.mem_cons_of_mem name listed, head⟩

theorem notMem_dumpNames {name : String} {further : List (String × Entry)}
    (fresh : name ∉ further.map (·.1)) (rest : List String) :
    name :: rest ∉ dumpNames further := by
  intro member
  obtain ⟨found, listed, head⟩ := head_of_mem_dumpNames member
  cases head
  exact fresh listed

theorem dumpNames_nodup {entries : List (String × Entry)} (proper : AreProper entries) :
    (dumpNames entries).Nodup := by
  induction entries using entries_induction with
  | nil => simp
  | file name content further furtherHypothesis =>
      rw [AreProper] at proper
      obtain ⟨-, fresh, furtherProper⟩ := proper
      rw [dumpNames, List.nodup_append']
      refine ⟨?_, furtherHypothesis furtherProper, ?_⟩
      · split
        · exact List.nodup_singleton [name]
        · exact List.nodup_nil
      · split
        · rw [List.singleton_disjoint]
          exact notMem_dumpNames fresh []
        · exact List.disjoint_nil_left _
  | folder name inner further innerHypothesis furtherHypothesis =>
      rw [AreProper] at proper
      obtain ⟨-, fresh, innerProper, furtherProper⟩ := proper
      rw [dumpNames, List.nodup_append']
      refine ⟨?_, furtherHypothesis furtherProper, ?_⟩
      · split
        · exact List.nodup_nil
        · exact (innerHypothesis innerProper).map (List.cons_injective (a := name))
      · split
        · exact List.disjoint_nil_left _
        · intro names here there
          obtain ⟨rest, -, rfl⟩ := List.mem_map.mp here
          exact notMem_dumpNames fresh rest there

theorem isName_of_mem_dumpNames {entries : List (String × Entry)} (proper : AreProper entries)
    {names : List String} (member : names ∈ dumpNames entries) :
    ∀ name ∈ names, Path.IsName name := by
  induction entries using entries_induction generalizing names with
  | nil => simp at member
  | file name content further furtherHypothesis =>
      rw [AreProper] at proper
      obtain ⟨isName, -, furtherProper⟩ := proper
      rcases (mem_dumpNames_file name content further names).mp member with ⟨-, rfl⟩ | there
      · exact List.forall_mem_singleton.mpr isName
      · exact furtherHypothesis furtherProper there
  | folder name inner further innerHypothesis furtherHypothesis =>
      rw [AreProper] at proper
      obtain ⟨isName, -, innerProper, furtherProper⟩ := proper
      rcases (mem_dumpNames_folder name inner further names).mp member with
        ⟨-, rest, below, rfl⟩ | there
      · exact List.forall_mem_cons.mpr ⟨isName, innerHypothesis innerProper below⟩
      · exact furtherHypothesis furtherProper there

/-- Listing folders in another order finds the same dumps. -/
theorem Relisted.dumpNames_perm {entries others : List (String × Entry)}
    (relisted : Relisted entries others) : (dumpNames entries).Perm (dumpNames others) := by
  induction relisted with
  | nil => exact List.Perm.refl _
  | file name content rest restHypothesis =>
      rw [dumpNames, dumpNames]
      exact restHypothesis.append_left _
  | folder name below rest belowHypothesis restHypothesis =>
      rw [dumpNames, dumpNames]
      refine List.Perm.append ?_ restHypothesis
      split
      · exact List.Perm.refl _
      · exact belowHypothesis.map _
  | swap first second further =>
      have split (entry : String × Entry) (rest : List (String × Entry)) :
          dumpNames (entry :: rest) = dumpNames [entry] ++ dumpNames rest := by
        obtain ⟨name, content | inner⟩ := entry
        · simp
        · simp
      rw [split first (second :: further), split second further, split second (first :: further),
        split first further, ← List.append_assoc, ← List.append_assoc]
      exact List.perm_append_comm.append_right _
  | trans before after beforeHypothesis afterHypothesis =>
      exact beforeHypothesis.trans afterHypothesis

/-! ## What the names lead to -/

theorem below?_cons (name : String) (entry : Entry) (further : List (String × Entry))
    (first : String) (rest : List String) :
    (folder ((name, entry) :: further)).below? (first :: rest) =
      if name = first then entry.below? rest else (folder further).below? (first :: rest) := by
  rw [below?, below?, child?, child?, entries, entries, List.find?_cons]
  by_cases same : name = first
  · simp [same]
  · simp [same, beq_false_of_ne same]

theorem below?_singleton {name : String} {entry found : Entry} {first : String}
    {rest : List String} (leads : (folder [(name, entry)]).below? (first :: rest) = some found) :
    name = first ∧ entry.below? rest = some found := by
  rw [below?_cons] at leads
  split at leads
  · exact ⟨‹name = first›, leads⟩
  · cases leads

theorem below?_eq_none {entries : List (String × Entry)} {first : String}
    (unlisted : first ∉ entries.map (·.1)) (rest : List String) :
    (folder entries).below? (first :: rest) = none := by
  induction entries with
  | nil => rfl
  | cons entry further inductionHypothesis =>
      rw [List.map_cons, List.mem_cons, not_or] at unlisted
      rw [below?_cons, if_neg (Ne.symm unlisted.1), inductionHypothesis unlisted.2]

theorem leadsToDump_congr {entries others : List (String × Entry)} {names : List String}
    (same : (folder entries).below? names = (folder others).below? names) :
    LeadsToDump entries names ↔ LeadsToDump others names := by
  rw [LeadsToDump, same]
  rfl

theorem not_leadsToDump {entries : List (String × Entry)} {names : List String}
    (nothing : (folder entries).below? names = none) : ¬ LeadsToDump entries names := by
  rintro ⟨folders, stem, content, -, -, found, -⟩
  rw [nothing] at found
  cases found

theorem LeadsToDump.exists_cons {entries : List (String × Entry)} {names : List String}
    (leads : LeadsToDump entries names) : ∃ first rest, names = first :: rest := by
  obtain ⟨folders, stem, content, -, rfl, -, -⟩ := leads
  apply List.exists_cons_of_ne_nil
  exact List.append_ne_nil_of_right_ne_nil folders (List.cons_ne_nil _ _)

theorem leadsToDump_cons_iff {name : String} {entry : Entry} {further : List (String × Entry)}
    (fresh : name ∉ further.map (·.1)) (names : List String) :
    LeadsToDump ((name, entry) :: further) names ↔
      LeadsToDump [(name, entry)] names ∨ LeadsToDump further names := by
  cases names with
  | nil =>
      have noNames (entries : List (String × Entry)) : ¬ LeadsToDump entries [] := by
        intro leads
        obtain ⟨first, rest, order⟩ := leads.exists_cons
        cases order
      simp [noNames]
  | cons first rest =>
      by_cases same : name = first
      · subst same
        have notFurther : ¬ LeadsToDump further (name :: rest) :=
          not_leadsToDump (below?_eq_none fresh rest)
        rw [or_iff_left notFurther]
        apply leadsToDump_congr
        rw [below?_cons, below?_cons, if_pos rfl, if_pos rfl]
      · have notHere : ¬ LeadsToDump [(name, entry)] (first :: rest) := by
          apply not_leadsToDump
          apply below?_eq_none
          simpa using Ne.symm same
        rw [or_iff_right notHere]
        apply leadsToDump_congr
        rw [below?_cons, if_neg same]

theorem leadsToDump_file_iff (name : String) (content : List UInt8) (names : List String) :
    LeadsToDump [(name, .file content)] names ↔ isDumpName name = true ∧ names = [name] := by
  rw [isDumpName_iff]
  constructor
  · rintro ⟨folders, stem, found, nonempty, rfl, leads, -⟩
    cases folders with
    | nil =>
        obtain ⟨rfl, -⟩ := below?_singleton leads
        exact ⟨⟨stem, nonempty, rfl⟩, rfl⟩
    | cons first further =>
        -- A file has no entries, so that nothing is below it.
        obtain ⟨-, belowFile⟩ := below?_singleton leads
        cases further with
        | nil => cases belowFile
        | cons second others => cases belowFile
  · rintro ⟨⟨stem, nonempty, rfl⟩, rfl⟩
    refine ⟨[], stem, content, nonempty, rfl, ?_, by simp⟩
    rw [below?_cons, if_pos rfl]
    rfl

/-- Names lead into a folder unless it is hidden. -/
theorem leadsToDump_folder_iff (name : String) (inner : List (String × Entry))
    (names : List String) :
    LeadsToDump [(name, .folder inner)] names ↔
      isHiddenName name = false ∧ ∃ rest, LeadsToDump inner rest ∧ names = name :: rest := by
  rw [← Bool.not_eq_true, isHiddenName_iff]
  constructor
  · rintro ⟨folders, stem, content, nonempty, rfl, leads, shown⟩
    cases folders with
    | nil =>
        -- The last name leads to a file, which a folder is not.
        obtain ⟨-, notFile⟩ := below?_singleton leads
        cases notFile
    | cons first further =>
        obtain ⟨rfl, leadsFurther⟩ := below?_singleton leads
        rw [List.forall_mem_cons] at shown
        exact ⟨shown.1, further ++ [stem ++ ".json"],
          ⟨further, stem, content, nonempty, rfl, leadsFurther, shown.2⟩, rfl⟩
  · rintro ⟨shown, rest, ⟨folders, stem, content, nonempty, rfl, found, allShown⟩, rfl⟩
    refine ⟨name :: folders, stem, content, nonempty, rfl, ?_,
      List.forall_mem_cons.mpr ⟨shown, allShown⟩⟩
    rw [below?_cons, if_pos rfl, found]

/-- The search finds just the names that lead to dumps. -/
theorem mem_dumpNames_iff {entries : List (String × Entry)} (proper : AreProper entries)
    (names : List String) : names ∈ dumpNames entries ↔ LeadsToDump entries names := by
  induction entries using entries_induction generalizing names with
  | nil =>
      refine iff_of_false (by simp) ?_
      intro leads
      obtain ⟨first, rest, rfl⟩ := leads.exists_cons
      exact not_leadsToDump rfl leads
  | file name content further furtherHypothesis =>
      rw [AreProper] at proper
      obtain ⟨-, fresh, furtherProper⟩ := proper
      rw [mem_dumpNames_file, leadsToDump_cons_iff fresh, leadsToDump_file_iff,
        furtherHypothesis furtherProper]
  | folder name inner further innerHypothesis furtherHypothesis =>
      rw [AreProper] at proper
      obtain ⟨-, fresh, innerProper, furtherProper⟩ := proper
      rw [mem_dumpNames_folder, leadsToDump_cons_iff fresh, leadsToDump_folder_iff,
        furtherHypothesis furtherProper]
      simp only [innerHypothesis innerProper]

/-! ## The order of a search -/

def sortedDumpNames (entries : List (String × Entry)) : List (List String) :=
  (dumpNames entries).mergeSort

theorem mem_sortedDumpNames (entries : List (String × Entry)) (names : List String) :
    names ∈ sortedDumpNames entries ↔ names ∈ dumpNames entries :=
  List.mem_mergeSort

theorem sortedDumpNames_pairwise {entries : List (String × Entry)} (proper : AreProper entries) :
    (sortedDumpNames entries).Pairwise (· < ·) := by
  have sorted : (sortedDumpNames entries).Pairwise (· ≤ ·) := List.pairwise_mergeSort' _ _
  have distinct : (sortedDumpNames entries).Nodup :=
    (List.mergeSort_perm _ _).nodup_iff.mpr (dumpNames_nodup proper)
  exact (sorted.and distinct).imp fun both => lt_of_le_of_ne both.1 both.2

/-- The order in which folders are listed is lost in sorting. -/
theorem Relisted.sortedDumpNames_eq {entries others : List (String × Entry)}
    (relisted : Relisted entries others) : sortedDumpNames entries = sortedDumpNames others := by
  have sameNames : (sortedDumpNames entries).Perm (sortedDumpNames others) :=
    (List.mergeSort_perm _ _).trans
      (relisted.dumpNames_perm.trans (List.mergeSort_perm _ _).symm)
  exact sameNames.eq_of_pairwise' (List.pairwise_mergeSort' _ _) (List.pairwise_mergeSort' _ _)

/-- Paths below a folder are ordered as the names that lead to them. -/
theorem sort_dumpsAmong {path : String} {entries : List (String × Entry)} (nonempty : path ≠ "")
    (areNames : ∀ names ∈ dumpNames entries, ∀ name ∈ names, Path.IsName name) :
    (dumpsAmong path entries).mergeSort Path.le =
      (sortedDumpNames entries).map (Path.below path) := by
  rw [dumpsAmong_eq_map, sortedDumpNames]
  refine (List.map_mergeSort ?_).symm
  intro left leftMember right rightMember
  rw [Bool.eq_iff_iff, decide_eq_true_iff,
    Path.le_below_iff nonempty (areNames left leftMember) (areNames right rightMember), not_lt]

theorem sortedDumpNames_below_nodup {path : String} {entries : List (String × Entry)}
    (nonempty : path ≠ "") (proper : AreProper entries) :
    ((sortedDumpNames entries).map (Path.below path)).Nodup := by
  apply List.Nodup.map_on
  · intro left leftMember right rightMember samePath
    rw [mem_sortedDumpNames] at leftMember rightMember
    exact Path.below_inj nonempty (isName_of_mem_dumpNames proper leftMember)
      (isName_of_mem_dumpNames proper rightMember) samePath
  · exact (sortedDumpNames_pairwise proper).imp ne_of_lt

end Entry

namespace FileTree

theorem ne_empty_of_entryAt {tree : FileTree} {path : String} {entry : Entry}
    (found : tree.entryAt path = .ok entry) : path ≠ "" := by
  rintro rfl
  cases found

theorem dumps_eq_sortedDumpNames {tree : FileTree} {path : String}
    {entries : List (String × Entry)} (found : tree.entryAt path = .ok (.folder entries))
    (areNames : ∀ names ∈ Entry.dumpNames entries, ∀ name ∈ names, Path.IsName name) :
    tree.dumps path = .ok ((Entry.sortedDumpNames entries).map (Path.below path)) := by
  rw [dumps, found]
  exact congrArg Except.ok (Entry.sort_dumpsAmong (ne_empty_of_entryAt found) areNames)

/-- A search of a folder finds the paths of the files with the extension `json` that no hidden
folder holds, each one once, and in the order of the names that lead to them from the folder. The
order in which the folders list their entries does not matter. -/
theorem dumps_of_folder {tree : FileTree} {path : String} {entries : List (String × Entry)}
    (found : tree.entryAt path = .ok (.folder entries)) (proper : Entry.AreProper entries) :
    ∃ files : List (List String),
      tree.dumps path = .ok (files.map (Path.below path)) ∧
      (∀ names, names ∈ files ↔ Entry.LeadsToDump entries names) ∧
      files.Pairwise (· < ·) ∧
      (files.map (Path.below path)).Nodup ∧
      ∀ (other : FileTree) (others : List (String × Entry)),
        other.entryAt path = .ok (.folder others) → Entry.Relisted entries others →
        other.dumps path = tree.dumps path := by
  have areNames : ∀ names ∈ Entry.dumpNames entries, ∀ name ∈ names, Path.IsName name :=
    fun names member => Entry.isName_of_mem_dumpNames proper member
  refine ⟨Entry.sortedDumpNames entries, dumps_eq_sortedDumpNames found areNames, ?_,
    Entry.sortedDumpNames_pairwise proper,
    Entry.sortedDumpNames_below_nodup (ne_empty_of_entryAt found) proper, ?_⟩
  · intro names
    rw [Entry.mem_sortedDumpNames, Entry.mem_dumpNames_iff proper]
  · intro other others otherFound relisted
    have otherNames : ∀ names ∈ Entry.dumpNames others, ∀ name ∈ names, Path.IsName name := by
      intro names member
      exact areNames names (relisted.dumpNames_perm.mem_iff.mpr member)
    rw [dumps_eq_sortedDumpNames found areNames, dumps_eq_sortedDumpNames otherFound otherNames,
      relisted.sortedDumpNames_eq]

/-- A folder that is hidden itself, with a hidden file, a name that is only an extension, a hidden
folder, a folder with the name of a dump, and a folder whose name is the start of that of a file. -/
def hiddenProject : List (String × Entry) :=
  [("a-b.json", .file []), (".json", .file []), (".shown.json", .file []),
    ("a", .folder [("z.json", .file [])]), (".cache", .folder [("c.json", .file [])]),
    ("x.json", .folder [("notes.txt", .file []), ("d.json", .file [])])]

def hiddenProjectTree : FileTree where
  root := .folder [(".project", .folder hiddenProject)]
  here := []

theorem areProper_hiddenProject : Entry.AreProper hiddenProject := by
  simp only [hiddenProject, Entry.AreProper]
  decide

/-- The names that lead to the dumps of `hiddenProject`, in their order. -/
def hiddenProjectNames : List (List String) :=
  [[".shown.json"], ["a", "z.json"], ["a-b.json"], ["x.json", "d.json"]]

theorem leadsToDump_hiddenProject_iff (names : List String) :
    Entry.LeadsToDump hiddenProject names ↔ names ∈ hiddenProjectNames := by
  have found : (Entry.dumpNames hiddenProject).Perm hiddenProjectNames := by
    simp only [hiddenProject, Entry.dumpNames]
    decide
  rw [← Entry.mem_dumpNames_iff areProper_hiddenProject, found.mem_iff]

/-- A folder that is itself hidden, with a hidden folder in it, and names around the ending of
dumps. -/
theorem dumps_hiddenProjectTree :
    hiddenProjectTree.entryAt "/.project" = .ok (.folder hiddenProject) ∧
      Entry.AreProper hiddenProject ∧
      hiddenProjectTree.dumps "/.project" =
        .ok ["/.project/.shown.json", "/.project/a/z.json", "/.project/a-b.json",
          "/.project/x.json/d.json"] := by
  have entryFound : hiddenProjectTree.entryAt "/.project" = .ok (.folder hiddenProject) := rfl
  obtain ⟨files, dumpsFound, members, sorted, -, -⟩ :=
    dumps_of_folder entryFound areProper_hiddenProject
  have namesSorted : hiddenProjectNames.Pairwise (· < ·) := by
    decide
  have sameFiles : files = hiddenProjectNames := by
    have sameMembers : files.Perm hiddenProjectNames := by
      rw [List.perm_ext_iff_of_nodup (sorted.imp ne_of_lt) (namesSorted.imp ne_of_lt)]
      intro names
      rw [members, leadsToDump_hiddenProject_iff]
    exact sameMembers.eq_of_pairwise' sorted namesSorted
  refine ⟨entryFound, areProper_hiddenProject, ?_⟩
  rw [dumpsFound, sameFiles]
  rfl

end FileTree

end LiteralAudit
