import DiskPrep.Proofs.Session.PartitionTrace

/-!
A request that partitions a disk keeps to the disk that it names. The disk is derived anew in
each stage: a wipe goes to the path without the digits at its end, the partitioning tool is run
on the path as it was given, and the format goes to the path with a `1` behind it. The tool is
run only behind a check that leaves no digits to take away (`whole_of_disk_tool`), so all three
are of one disk.
-/
namespace DiskPrep

open Workflow

/-- The request runs the partitioning tool or makes a file system. -/
def Call.runsDiskTool : Call → Bool
  | parted .. | formatExt4 .. => true
  | _ => false

/-- The request, if it modifies a disk, modifies the one that the path leads to, and its arguments
say so. -/
def Call.KeepsTo (path : Path) : Call → Prop
  | wipeBootSector disk => disk.IsStem path ∧ isWholeDisk disk = true
  | parted disk script => disk = path ∧ (script.arguments disk)[1]? = some path.text
  | formatExt4 device force =>
    device.text = path.text ++ ['1'] ∧
      (formatArguments device force).getLast? = some (path.text ++ ['1'])
  | _ => True

namespace Call

variable {path : Path}

theorem keepsTo_of_reads {call : Call} (reads : call.isInvocation = false) :
    call.KeepsTo path := by
  cases call <;> trivial

theorem not_disk_tool_of_reads {call : Call} (reads : call.isInvocation = false) :
    call.runsDiskTool = false := by
  cases call <;> first | rfl | cases reads

theorem keepsTo_parted (script : Parted.Script) : (parted path script).KeepsTo path :=
  ⟨rfl, rfl⟩

theorem keepsTo_format (force : Bool) :
    (formatExt4 (partitionPath path Step.systemPartition) force).KeepsTo path := by
  have first : decimal Step.systemPartition = ['1'] := by decide
  have device : (partitionPath path Step.systemPartition).text = path.text ++ ['1'] := by
    rw [partitionPath, first]
  refine ⟨device, ?_⟩
  rw [formatArguments, List.getLast?_concat, device]

end Call

namespace Session

section anyHost

variable {σ : Type} {host : Host σ} {state : σ} {settings : Settings} {path : Path}
  {request : CommandLine.Request} {m : Moment σ}

/-- A reformat of a path wipes the disk of the path, and lays nothing out. -/
theorem keepsTo_of_mem_reformat {dryRun : Bool}
    (member : m ∈ (Reformat.reformat (some path) dryRun).history host state) :
    m.call.KeepsTo path ∧ m.call.runsDiskTool = false := by
  rcases Reformat.stage_of_mem_reformat member with looking | ⟨disk, found, wiping⟩
  · have reads := Reformat.mem_target looking
    exact ⟨Call.keepsTo_of_reads reads, Call.not_disk_tool_of_reads reads⟩
  · rcases Reformat.mem_wipe wiping with call | ⟨-, ⟨point, call⟩ | call⟩
    · rw [call]
      exact ⟨trivial, rfl⟩
    · rw [call]
      exact ⟨trivial, rfl⟩
    · rw [call]
      rcases Reformat.target_found found with ⟨other, same, rfl, whole⟩ | ⟨missing, -⟩
      · cases same
        exact ⟨⟨path.stem_isStem, whole⟩, rfl⟩
      · cases missing

/-- The partitioning of a disk is on the path that was given, and only behind the check that it is
a whole disk. -/
theorem keepsTo_of_mem_partitionDisk {flags : RunFlags}
    (member : m ∈ (partitionDisk settings path flags).history host state) :
    m.call.KeepsTo path ∧ (m.call.runsDiskTool = true → isWholeDisk path = true) := by
  have asks := asks_of_mem_partitionDisk member
  generalize m.call = call at asks
  cases asks with
  | query whole => exact ⟨Call.keepsTo_parted _, fun _ => whole⟩
  | write whole live script => exact ⟨Call.keepsTo_parted script, fun _ => whole⟩
  | format whole live => exact ⟨Call.keepsTo_format flags.force, fun _ => whole⟩
  | _ => exact ⟨trivial, fun runs => Bool.noConfusion runs⟩

variable (chosen : request.selected = .partition path)

include chosen

/-- A request is made by the reformat of the path or by its partitioning. -/
theorem stage_of_mem_chosen (member : m ∈ (dispatch settings request).history host state) :
    m ∈ (Reformat.reformat (some path) request.dryRun).history host state ∨
      ∃ flags after, m ∈ (partitionDisk settings path flags).history host after := by
  rcases mem_dispatch member with reformatting | ⟨flags, -, performing⟩
  · have named : request.disk = some path := CommandLine.Request.disk_of_selected chosen
    rw [← named]
    exact Or.inl (mem_reformat_of_reformatFirst reformatting).2
  · rw [chosen, perform, bind_eq, history_bind, pure_eq, history_done, List.append_nil] at performing
    exact Or.inr ⟨flags, _, performing⟩

theorem keepsTo_of_mem_dispatch (member : m ∈ (dispatch settings request).history host state) :
    m.call.KeepsTo path := by
  rcases stage_of_mem_chosen chosen member with reformatting | ⟨flags, after, partitioning⟩
  · exact (keepsTo_of_mem_reformat reformatting).1
  · exact (keepsTo_of_mem_partitionDisk partitioning).1

/-- A tool is run on the disk only where its path has no digits at its end. -/
theorem whole_of_disk_tool (member : m ∈ (dispatch settings request).history host state)
    (runs : m.call.runsDiskTool = true) : isWholeDisk path = true := by
  rcases stage_of_mem_chosen chosen member with reformatting | ⟨flags, after, partitioning⟩
  · have := (keepsTo_of_mem_reformat reformatting).2
    rw [this] at runs
    cases runs
  · exact (keepsTo_of_mem_partitionDisk partitioning).2 runs

end anyHost

/-- Modifications stay on the chosen disk. -/
theorem stays_on_chosen_disk (settings : Settings) (request : CommandLine.Request) (path : Path)
    (chosen : request.selected = .partition path) {σ : Type} (host : Host σ) (state : σ) :
    (∀ m ∈ (dispatch settings request).history host state, m.call.KeepsTo path) ∧
    ((∃ m ∈ (dispatch settings request).history host state, m.call.runsDiskTool = true) →
      path.Unnumbered ∧
        ∀ m ∈ (dispatch settings request).history host state,
          ∀ disk, m.call = .wipeBootSector disk → disk = path) := by
  refine ⟨fun m member => keepsTo_of_mem_dispatch chosen member, ?_⟩
  rintro ⟨m, member, runs⟩
  have unnumbered : path.Unnumbered :=
    unnumbered_of_isWholeDisk (whole_of_disk_tool chosen member runs)
  refine ⟨unnumbered, ?_⟩
  intro other wiping disk call
  have keeps := keepsTo_of_mem_dispatch chosen wiping
  rw [call] at keeps
  exact keeps.1.eq_of_unnumbered unnumbered

/-- A wiped disk gets its new layout, and all of it goes to the one disk. -/
theorem first_disk_alone :
    let request : CommandLine.Request :=
      { CommandLine.Request.empty with disk := some ScriptedHost.firstDisk, reformat := true }
    let history := (dispatch (Settings.standard []) request).history scripted
      (ScriptedHost.oneDisk [])
    (∀ m ∈ history, m.call.KeepsTo ScriptedHost.firstDisk) ∧
      (∃ m ∈ history, m.call = .wipeBootSector ScriptedHost.firstDisk) ∧
      ∃ m ∈ history, m.call = .formatExt4 ⟨"/dev/sda1".toList⟩ true := by
  intro request history
  have chosen : request.selected = .partition ScriptedHost.firstDisk := rfl
  have calls : [.wipeBootSector ScriptedHost.firstDisk, .formatExt4 ⟨"/dev/sda1".toList⟩ true] ⊆
      history.map Moment.call := by
    decide +kernel
  obtain ⟨wiping, wipes, wiped⟩ := List.mem_map.mp (calls List.mem_cons_self)
  obtain ⟨formatting, formats, formatted⟩ :=
    List.mem_map.mp (calls (List.mem_cons_of_mem _ List.mem_cons_self))
  exact ⟨(stays_on_chosen_disk _ request _ chosen scripted _).1, ⟨wiping, wipes, wiped⟩,
    ⟨formatting, formats, formatted⟩⟩

end Session

end DiskPrep
