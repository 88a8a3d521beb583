import DiskPrep.Parted
import DiskPrep.Proofs.Text.Words

/-!
The argument vector of a run, read back. A keyword says how many of the words behind it are its
arguments, so an argument is never taken for a keyword, whatever it looks like, and no command
begins as the choice of a unit does. Reading therefore accepts exactly what is written
(`ofArguments?_eq_some_iff`), and no two runs have the same argument vector.
-/
namespace DiskPrep.Parted

def Mode.ofFlag? (flag : Text) : Option Mode :=
  if flag = "-s".toList then some script else if flag = "-m".toList then some machine else none

theorem Mode.ofFlag?_eq_some_iff {flag : Text} {mode : Mode} :
    ofFlag? flag = some mode ↔ flag = mode.flag := by
  unfold ofFlag?
  constructor
  · intro selected
    split at selected
    next same =>
      cases selected
      exact same
    next =>
      split at selected
      next same =>
        cases selected
        exact same
      next => cases selected
  · rintro rfl
    cases mode <;> decide

namespace Command

/-- The commands that words are made of, in order. -/
def ofWords? : List Text → Option (List Command)
  | [] => some []
  | keyword :: rest =>
    if keyword = "mklabel".toList then
      match rest with
      | label :: rest => (ofWords? rest).map (makeLabel label :: ·)
      | [] => none
    else if keyword = "mkpart".toList then
      match rest with
      | kind :: start :: finish :: rest =>
        (ofWords? rest).map (makePartition kind start finish :: ·)
      | _ => none
    else if keyword = "print".toList then (ofWords? rest).map (print :: ·)
    else none

/-- The words of a command are read as this command, whatever stands behind them. -/
theorem ofWords?_append (command : Command) (rest : List Text) :
    ofWords? (command.words ++ rest) = (ofWords? rest).map (command :: ·) := by
  -- The equation for all words at once: those by shape would ask for the shape of `rest`.
  cases command with
  | makeLabel label =>
    rw [ofWords?.eq_def]
    exact if_pos rfl
  | makePartition kind start finish =>
    rw [ofWords?.eq_def]
    exact (if_neg (by decide)).trans (if_pos rfl)
  | print =>
    rw [ofWords?.eq_def]
    exact (if_neg (by decide)).trans ((if_neg (by decide)).trans (if_pos rfl))

theorem ofWords?_words (commands : List Command) :
    ofWords? (commands.flatMap words) = some commands := by
  induction commands with
  | nil => rw [List.flatMap_nil, ofWords?]
  | cons command rest ih =>
    rw [List.flatMap_cons, ofWords?_append, ih]
    rfl

theorem eq_of_ofWords? {texts : List Text} {commands : List Command}
    (read : ofWords? texts = some commands) : texts = commands.flatMap words := by
  fun_induction ofWords? texts generalizing commands with
  | case1 =>
    cases read
    rfl
  | case2 label rest ih =>
    obtain ⟨others, behind, rfl⟩ := Option.map_eq_some_iff.mp read
    rw [ih behind]
    rfl
  | case4 kind start finish rest _ ih =>
    obtain ⟨others, behind, rfl⟩ := Option.map_eq_some_iff.mp read
    rw [ih behind]
    rfl
  | case6 rest _ _ ih =>
    obtain ⟨others, behind, rfl⟩ := Option.map_eq_some_iff.mp read
    rw [ih behind]
    rfl
  | case3 | case5 | case7 => cases read

theorem ofWords?_eq_some_iff {texts : List Text} {commands : List Command} :
    ofWords? texts = some commands ↔ texts = commands.flatMap words := by
  constructor
  · exact eq_of_ofWords?
  · rintro rfl
    exact ofWords?_words commands

end Command

namespace Script

theorem isQuery_iff {s : Script} :
    s.isQuery = true ↔ ∀ command ∈ s.commands, command = .print := by
  have prints (command : Command) : command.isPrint = true ↔ command = .print := by
    cases command <;> simp [Command.isPrint]
  simp only [isQuery, List.all_eq_true, prints]

/-- The unit that words begin with, when they choose one, and the words behind it. -/
def takeUnit : List Text → Option Text × List Text
  | keyword :: unit :: rest =>
    if keyword = "unit".toList then (some unit, rest) else (none, keyword :: unit :: rest)
  | words => (none, words)

/-- Nothing is lost where a unit is taken. -/
theorem unitWords_takeUnit (words : List Text) :
    unitWords (takeUnit words).1 ++ (takeUnit words).2 = words := by
  unfold takeUnit
  split
  next keyword unit rest =>
    split
    next same =>
      rw [same]
      rfl
    next => rfl
  next => rfl

/-- Commands choose no unit. -/
theorem takeUnit_commands (commands : List Command) :
    takeUnit (commands.flatMap Command.words) = (none, commands.flatMap Command.words) := by
  have other {keyword : Text} (differs : keyword ≠ "unit".toList) (rest : List Text) :
      takeUnit (keyword :: rest) = (none, keyword :: rest) := by
    cases rest with
    | nil => rfl
    | cons unit rest => rw [takeUnit, if_neg differs]
  cases commands with
  | nil => rfl
  | cons command rest => cases command <;> exact other (by decide) _

theorem takeUnit_unitWords (unit : Option Text) (commands : List Command) :
    takeUnit (unitWords unit ++ commands.flatMap Command.words) =
      (unit, commands.flatMap Command.words) := by
  cases unit with
  | none => exact takeUnit_commands commands
  | some unit =>
    rw [takeUnit.eq_def]
    exact if_pos rfl

/-- The disk and the run that an argument vector is for. -/
def ofArguments? : List Text → Option (Path × Script)
  | flag :: disk :: words =>
    (Mode.ofFlag? flag).bind fun mode =>
      (Command.ofWords? (takeUnit words).2).map fun commands =>
        (⟨disk⟩, ⟨mode, (takeUnit words).1, commands⟩)
  | _ => none

theorem ofArguments?_eq_some_iff {arguments : List Text} {disk : Path} {s : Script} :
    ofArguments? arguments = some (disk, s) ↔ arguments = s.arguments disk := by
  constructor
  · intro read
    unfold ofArguments? at read
    split at read
    next flag disk words =>
      obtain ⟨mode, selected, read⟩ := Option.bind_eq_some_iff.mp read
      obtain ⟨commands, behind, same⟩ := Option.map_eq_some_iff.mp read
      cases same
      rw [Script.arguments, Script.words, ← Mode.ofFlag?_eq_some_iff.mp selected,
        ← Command.ofWords?_eq_some_iff.mp behind, unitWords_takeUnit]
    next => cases read
  · rintro rfl
    simp only [Script.arguments, Script.words, ofArguments?, Mode.ofFlag?_eq_some_iff.mpr rfl,
      Option.bind_some, takeUnit_unitWords, Command.ofWords?_words, Option.map_some]

theorem words_eq_nil_iff {s : Script} : s.words = [] ↔ s.unit = none ∧ s.commands = [] := by
  obtain ⟨mode, unit, commands⟩ := s
  rw [words, List.append_eq_nil_iff]
  refine and_congr ?_ ?_
  · cases unit <;> simp [unitWords]
  · cases commands with
    | nil => simp
    | cons command rest => cases command <;> simp [Command.words]

/-- The arguments on one line end with the run as it is shown, when there is anything to show. -/
theorem spaced_arguments {s : Script} (nonempty : s.words ≠ []) (disk : Path) :
    Text.spaced (s.arguments disk) = s.mode.flag ++ ' ' :: (disk.text ++ ' ' :: s.text) := by
  obtain ⟨first, rest, split⟩ := List.exists_cons_of_ne_nil nonempty
  rw [arguments, text, split, Text.spaced_cons_cons, Text.spaced_cons_cons]

/-- Of a run without a unit and without commands there is nothing to show, so no space stands
behind the disk. -/
theorem spaced_arguments_bare {s : Script} (bare : s.words = []) (disk : Path) :
    Text.spaced (s.arguments disk) = s.mode.flag ++ ' ' :: disk.text := by
  rw [arguments, bare, Text.spaced_cons_cons]
  simp [Text.spaced, Text.joined]

/-- An argument vector determines its run: a reader gets back the disk, the mode, the unit and the
commands, and it reads nothing else, so that equal vectors are of equal runs. The vector on one
line is the flag, the disk and the run as it is shown exactly when the run chooses a unit or has a
command. -/
theorem arguments_determine_run (disk : Path) (s : Script) :
    (∀ arguments, ofArguments? arguments = some (disk, s) ↔ arguments = s.arguments disk) ∧
      (∀ other t, s.arguments disk = t.arguments other → disk = other ∧ s = t) ∧
      (Text.spaced (s.arguments disk) = s.mode.flag ++ ' ' :: (disk.text ++ ' ' :: s.text) ↔
        s.unit ≠ none ∨ s.commands ≠ []) := by
  refine ⟨fun arguments => ofArguments?_eq_some_iff, ?_, ?_⟩
  · intro other t same
    have read := ofArguments?_eq_some_iff.mpr same
    rw [ofArguments?_eq_some_iff.mpr rfl] at read
    exact Prod.mk.inj (Option.some.inj read)
  · rw [← Decidable.not_and_iff_not_or_not, ← words_eq_nil_iff]
    constructor
    · intro shown bare
      rw [spaced_arguments_bare bare] at shown
      simpa using congrArg List.length shown
    · exact fun nonempty => spaced_arguments nonempty disk

/-- A unit, a label and the arguments of a partition that all look like keywords. -/
theorem keywords_as_arguments :
    let disk : Path := ⟨"/dev/sda".toList⟩
    let s : Script := ⟨.script, some "print".toList,
      [.makeLabel "mkpart".toList, .makePartition "unit".toList "print".toList "mklabel".toList]⟩
    let arguments := ["-s", "/dev/sda", "unit", "print", "mklabel", "mkpart", "mkpart", "unit",
      "print", "mklabel"].map String.toList
    ofArguments? arguments = some (disk, s) ∧
      (∀ t : Script, arguments = t.arguments disk → s = t) ∧
      Text.spaced arguments =
        "-s /dev/sda unit print mklabel mkpart mkpart unit print mklabel".toList := by
  intro disk s arguments
  have written : arguments = s.arguments disk := rfl
  obtain ⟨read, determined, shown⟩ := arguments_determine_run disk s
  refine ⟨(read arguments).mpr written, ?_, ?_⟩
  · intro t same
    exact (determined disk t (written.symm.trans same)).2
  · rw [written, shown.mpr (Or.inr (List.cons_ne_nil _ _))]
    decide

end Script

end DiskPrep.Parted
