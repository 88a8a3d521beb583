import DiskPrep.Machine.Host
import DiskPrep.Proofs.Run.Told
import DiskPrep.Proofs.Text.Words

/-!
The checks before a run. A tool is found when some entry of the search path has it as a file that
may be executed (`isSome_findTool?_iff`); whatever else the entries before have under its name is
passed over (`findTool?_append`). The search through the tools stops at the first that is missing
(`exists_firstMissing_or_allInstalled`), and only behind the last of them the rights are asked for
(`check_firstMissing`, `check_allInstalled`).
-/
namespace DiskPrep.Preflight

open Workflow

/-- An entry of a search path: between colons or ends of the path, and not empty. -/
def IsEntry (searchPath directory : Text) : Prop :=
  directory ≠ [] ∧ ':' ∉ directory ∧ ∃ front back, searchPath = front ++ directory ++ back ∧
    (∀ c ∈ front.getLast?, c = ':') ∧ ∀ c ∈ back.head?, c = ':'

/-- A regular file is there, and its owner, its group or everybody may execute it. -/
def IsExecutable (files : FileView) (path : Path) : Prop :=
  ∃ status, files path = some status ∧ status.isRegular = true ∧
    ∃ bit ∈ [6, 3, 0], status.mode.testBit bit = true

/-- Some entry of the search path has the tool. -/
def IsInstalled (files : FileView) (searchPath tool : Text) : Prop :=
  ∃ directory, IsEntry searchPath directory ∧ IsExecutable files (Path.join directory tool)

def AllInstalled (files : FileView) (settings : Settings) : Prop :=
  ∀ tool ∈ settings.tools, IsInstalled files settings.searchPath tool

/-- The first tool that is not installed, behind those that were found. -/
structure FirstMissing (files : FileView) (settings : Settings) (found : List Text)
    (tool : Text) : Prop where
  begins : found ++ [tool] <+: settings.tools
  installed : ∀ other ∈ found, IsInstalled files settings.searchPath other
  missing : ¬ IsInstalled files settings.searchPath tool

def foundLine (tool : Text) : LogLine := ⟨.debug, "found ".toList ++ tool⟩

theorem mem_directories_iff {searchPath directory : Text} :
    directory ∈ directories searchPath ↔ IsEntry searchPath directory := by
  rw [directories, List.mem_filter, Text.mem_splitOn_iff, and_comm, IsEntry]
  simp

/-- What stands on either side of a colon has its entries apart. -/
theorem directories_append (earlier later : Text) :
    directories (earlier ++ ':' :: later) = directories earlier ++ directories later := by
  rw [directories, List.splitOn_append_cons_self, List.filter_append, directories, directories]

/-- The mask holds the three bits of execution and no other. -/
theorem testBit_executeMask {bit : Nat} : (0o111 : Nat).testBit bit = true ↔ bit ∈ [6, 3, 0] := by
  have low : ∀ bit < 7, (0o111 : Nat).testBit bit = true ↔ bit ∈ [6, 3, 0] := by decide
  by_cases small : bit < 7
  · exact low bit small
  · have large : 0o111 < 2 ^ bit :=
      Nat.lt_of_lt_of_le (by decide) (Nat.pow_le_pow_right (by decide) (Nat.le_of_not_lt small))
    rw [Nat.testBit_lt_two_pow large]
    refine iff_of_false Bool.false_ne_true ?_
    simp only [List.mem_cons, List.not_mem_nil, or_false]
    omega

theorem and_executeMask_ne_zero_iff {mode : Nat} :
    mode &&& 0o111 ≠ 0 ↔ ∃ bit ∈ [6, 3, 0], mode.testBit bit = true := by
  constructor
  · intro nonzero
    obtain ⟨bit, set⟩ := Nat.exists_testBit_of_ne_zero nonzero
    rw [Nat.testBit_and, Bool.and_eq_true] at set
    exact ⟨bit, testBit_executeMask.mp set.2, set.1⟩
  · rintro ⟨bit, member, set⟩ zero
    have both : (mode &&& 0o111).testBit bit = true := by
      rw [Nat.testBit_and, set, testBit_executeMask.mpr member]
      rfl
    rw [zero, Nat.zero_testBit] at both
    cases both

theorem any_isExecutable_iff {files : FileView} {path : Path} :
    (files path).any FileStatus.isExecutable = true ↔ IsExecutable files path := by
  simp only [Option.any_eq_true, FileStatus.isExecutable, Bool.and_eq_true, bne_iff_ne,
    and_executeMask_ne_zero_iff, IsExecutable]

theorem isSome_findTool?_iff {files : FileView} {searchPath tool : Text} :
    (findTool? files searchPath tool).isSome = true ↔ IsInstalled files searchPath tool := by
  simp only [findTool?, List.find?_isSome, List.mem_map, IsInstalled, ← mem_directories_iff,
    ← any_isExecutable_iff]
  constructor
  · rintro ⟨_, ⟨directory, entry, rfl⟩, executable⟩
    exact ⟨directory, entry, executable⟩
  · rintro ⟨directory, entry, executable⟩
    exact ⟨_, ⟨directory, entry, rfl⟩, executable⟩

instance (files : FileView) (searchPath tool : Text) :
    Decidable (IsInstalled files searchPath tool) :=
  decidable_of_iff _ isSome_findTool?_iff

instance (files : FileView) (settings : Settings) : Decidable (AllInstalled files settings) :=
  inferInstanceAs (Decidable (∀ tool ∈ settings.tools, _))

/-- Later entries are searched when the earlier ones do not have the tool. -/
theorem findTool?_append (files : FileView) (earlier later tool : Text) :
    findTool? files (earlier ++ ':' :: later) tool =
      (findTool? files earlier tool).or (findTool? files later tool) := by
  rw [findTool?, directories_append, List.map_append, List.find?_append, findTool?, findTool?]

section check

variable {files : FileView} {settings : Settings} {searchPath tool : Text} {found rest : List Text}

/-- Tools that are installed are told of, and the search goes on behind them. -/
theorem checkTools_append (installed : ∀ other ∈ found, IsInstalled files searchPath other) :
    checkTools files searchPath (found ++ rest) =
      (tellEach (found.map .toolFound)).bind fun _ => checkTools files searchPath rest := by
  induction found with
  | nil => rfl
  | cons first others ih =>
    obtain ⟨here, later⟩ := List.forall_mem_cons.mp installed
    rw [List.cons_append, checkTools, if_pos (isSome_findTool?_iff.mpr here), ih later]
    rfl

/-- A tool that is missing ends the search. -/
theorem checkTools_missing (missing : ¬ IsInstalled files searchPath tool) :
    checkTools files searchPath (tool :: rest) = done (.error (.noTools tool)) := by
  rw [checkTools, if_neg (mt isSome_findTool?_iff.mp missing)]
  rfl

theorem check_firstMissing (first : FirstMissing files settings found tool) :
    check files settings =
      (tellEach (found.map .toolFound)).bind fun _ => done (.error (.noTools tool)) := by
  obtain ⟨rest, tools⟩ := first.begins
  rw [check, ← tools, List.append_assoc, checkTools_append first.installed,
    List.singleton_append, checkTools_missing first.missing, bind_eq, bind_assoc]
  rfl

theorem check_allInstalled (all : AllInstalled files settings) :
    check files settings =
      (tellEach (settings.tools.map .toolFound)).bind fun _ =>
        ask .isRoot fun root => done (if root then .ok () else .error .noPermissions) := by
  rw [check, ← List.append_nil settings.tools, checkTools_append all, List.append_nil, bind_eq,
    bind_assoc]
  refine congrArg _ (funext fun _ => congrArg (ask .isRoot) (funext fun root => ?_))
  cases root <;> rfl

theorem exists_firstMissing_or_allInstalled (files : FileView) (settings : Settings) :
    (∃ found tool, FirstMissing files settings found tool) ∨ AllInstalled files settings := by
  cases search : settings.tools.find? fun tool =>
      !decide (IsInstalled files settings.searchPath tool) with
  | none => exact Or.inr fun tool member => by simpa using List.find?_eq_none.mp search tool member
  | some tool =>
    obtain ⟨missing, found, rest, tools, installed⟩ := List.find?_eq_some_iff_append.mp search
    refine Or.inl ⟨found, tool, ⟨rest, ?_⟩, ?_, by simpa using missing⟩
    · rw [tools, List.append_assoc, List.singleton_append]
    · exact fun other member => by simpa using installed other member

end check

section run

variable {files : FileView} {settings : Settings} {σ : Type} {host : Host σ} {state : σ}

theorem run_check_firstMissing {found : List Text} {tool : Text}
    (first : FirstMissing files settings found tool) :
    let run := (check files settings).run host state
    run.value = .error (.noTools tool) ∧ run.log = found.map foundLine ∧ run.calls = [] := by
  intro run
  obtain ⟨value, log, calls⟩ := run_tellEach_bind host state (found.map .toolFound)
    fun _ => done (.error (.noTools tool) : Except Failure Unit)
  rw [← check_firstMissing first] at value log calls
  refine ⟨value, ?_, calls⟩
  rw [log, List.map_map]
  exact List.append_nil _

theorem run_check_allInstalled (all : AllInstalled files settings) :
    let run := (check files settings).run host state
    let rights := host.answer .isRoot state
    run.value = (if rights.reply then .ok () else .error .noPermissions) ∧
      run.log = settings.tools.map foundLine ++ rights.lines ∧ run.calls = [.isRoot] := by
  intro run rights
  obtain ⟨value, log, calls⟩ := run_tellEach_bind host state (settings.tools.map .toolFound)
    fun _ => ask .isRoot fun root => done
      (if root then .ok () else .error .noPermissions : Except Failure Unit)
  rw [← check_allInstalled all] at value log calls
  refine ⟨value, ?_, calls.trans (run_calls _ _ _)⟩
  rw [log, List.map_map, log_ask]
  exact congrArg _ (List.append_nil _)

theorem value_check_noTools_iff {tool : Text} :
    ((check files settings).run host state).value = .error (.noTools tool) ↔
      ∃ found, FirstMissing files settings found tool := by
  constructor
  · intro refused
    rcases exists_firstMissing_or_allInstalled files settings with ⟨found, other, first⟩ | all
    · cases refused.symm.trans (run_check_firstMissing first).1
      exact ⟨found, first⟩
    · have value := refused.symm.trans (run_check_allInstalled all).1
      split at value <;> cases value
  · rintro ⟨found, first⟩
    exact (run_check_firstMissing first).1

/-- The rights decide exactly when no tool is missing. -/
theorem value_check_rights_iff (root : Bool) :
    ((check files settings).run host state).value =
        (if root then .ok () else .error .noPermissions) ↔
      AllInstalled files settings ∧ (host.answer .isRoot state).reply = root := by
  constructor
  · intro decided
    rcases exists_firstMissing_or_allInstalled files settings with ⟨found, tool, first⟩ | all
    · have value := (run_check_firstMissing first).1.symm.trans decided
      split at value <;> cases value
    · refine ⟨all, ?_⟩
      have value := (run_check_allInstalled all).1.symm.trans decided
      generalize (host.answer .isRoot state).reply = reply at value ⊢
      cases reply <;> cases root
      case false.false | true.true => rfl
      case false.true | true.false => cases value
  · rintro ⟨all, rfl⟩
    exact (run_check_allInstalled all).1

end run

/-- The checks refuse with the first tool that no entry of the search path has as a file that may be
executed, and only when there is none do they ask for the rights, on which the answer then depends.
The tools before the first that is missing are told of, in order, and nothing else is said or asked.
Entries that do not have the tool hide nothing that stands behind them. -/
theorem first_missing_tool_then_rights (files : FileView) (settings : Settings) {σ : Type}
    (host : Host σ) (state : σ) :
    let run := (check files settings).run host state
    let rights := host.answer .isRoot state
    (∀ tool, run.value = .error (.noTools tool) ↔ ∃ found, FirstMissing files settings found tool) ∧
    (run.value = .error .noPermissions ↔
      AllInstalled files settings ∧ rights.reply = false) ∧
    (run.value = .ok () ↔ AllInstalled files settings ∧ rights.reply = true) ∧
    (∀ found tool, FirstMissing files settings found tool →
      run.log = found.map foundLine ∧ run.calls = []) ∧
    (AllInstalled files settings →
      run.log = settings.tools.map foundLine ++ rights.lines ∧ run.calls = [.isRoot]) ∧
    ∀ earlier later tool, ¬ IsInstalled files earlier tool →
      findTool? files (earlier ++ ':' :: later) tool = findTool? files later tool := by
  intro run rights
  refine ⟨fun tool => value_check_noTools_iff, value_check_rights_iff false,
    value_check_rights_iff true, ?_, ?_, ?_⟩
  · exact fun found tool first => (run_check_firstMissing first).2
  · exact fun all => (run_check_allInstalled all).2
  · intro earlier later tool absent
    have nothing : findTool? files earlier tool = none :=
      Option.not_isSome_iff_eq_none.mp (mt isSome_findTool?_iff.mp absent)
    rw [findTool?_append, nothing, Option.none_or]

/-- In front of the directory with the tool stand one with a directory of its name, an empty entry,
one with a file that nobody may execute and one that leads nowhere. The other tool is missing: its
file may not be executed either. -/
theorem tool_behind_directory_found :
    let bin (name : String) : Machine.Location := [name.toList]
    let tree : Machine.FileTree := ⟨[
      (bin "a", .directory 0o755), (bin "a" ++ [partedProgram], .directory 0o755),
      (bin "b", .directory 0o755), (bin "b" ++ [partedProgram], .file [] 0o644),
      (bin "b" ++ [formatProgram], .file [] 0o666),
      (bin "c", .directory 0o755), (bin "c" ++ [partedProgram], .file [] 0o010)]⟩
    let machine : Machine := { tree := tree, partitions := [], mounts := [], root := false }
    let earlier := "/a::/b:/gone".toList
    let settings := Settings.standard (earlier ++ ':' :: "/c".toList)
    let lesser := { settings with tools := [partedProgram] }
    let run := (check machine.fileView settings).run onMachine machine
    FirstMissing machine.fileView settings [partedProgram] formatProgram ∧
      run.value = .error (.noTools formatProgram) ∧
      run.log = [⟨.debug, "found parted".toList⟩] ∧ run.calls = [] ∧
      AllInstalled machine.fileView lesser ∧
      ((check machine.fileView lesser).run onMachine machine).value = .error .noPermissions ∧
      ¬ IsInstalled machine.fileView earlier partedProgram ∧
      findTool? machine.fileView settings.searchPath partedProgram =
        some ⟨"/c/parted".toList⟩ := by
  intro bin tree machine earlier settings lesser run
  have first : FirstMissing machine.fileView settings [partedProgram] formatProgram :=
    ⟨⟨[], by decide⟩, by decide, by decide⟩
  have all : AllInstalled machine.fileView lesser := by decide
  have absent : ¬ IsInstalled machine.fileView earlier partedProgram := by decide
  obtain ⟨missing, -, -, told, -, behind⟩ :=
    first_missing_tool_then_rights machine.fileView settings onMachine machine
  obtain ⟨-, denied, -⟩ :=
    first_missing_tool_then_rights machine.fileView lesser onMachine machine
  obtain ⟨log, calls⟩ := told _ _ first
  exact ⟨first, (missing _).mpr ⟨_, first⟩, log, calls, all, denied.mpr ⟨all, rfl⟩, absent,
    (behind earlier _ _ absent).trans (by decide)⟩

end DiskPrep.Preflight
