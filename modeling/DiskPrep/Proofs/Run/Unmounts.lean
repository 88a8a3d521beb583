import DiskPrep.Proofs.Run.ReplyQueue

/-!
Releases on a scripted host. Whether they succeed is settled by the script, for all of them alike.
One that succeeds filters the entries of the table, and one that fails leaves its text as it was
(`answer_unmount_entries`); a run of them filters by all of its targets at once
(`entries_after_releases`). So it matters only which targets there are, not in which order or how
often (`entries_after_releases_congr`).
-/
namespace DiskPrep

theorem MountEntry.isReleasedBy_iff {target : Path} {entry : MountEntry} :
    entry.isReleasedBy target = true ↔
      entry.mountPoint.components = target.components ∨ entry.source = target.text := by
  rw [isReleasedBy, Bool.or_eq_true, Path.same_iff, beq_iff_eq, eq_comm]

namespace ScriptedHost

open MountEntry

def releases (targets : List Path) : List Action := targets.map fun target => .ask (.unmount target)

variable {host : ScriptedHost}

theorem answer_unmount_entries (target : Path) :
    (answer (.unmount target) host).state.entries =
      if host.failures.unmount = none then
        host.entries.filter fun entry => !entry.isReleasedBy target
      else host.entries := by
  split
  next works =>
    rw [entries, answer_unmount_ok ((answer_unmount_works target).mpr works),
      parseTable_tableWithout]
    rfl
  next fails =>
    cases reply : (answer (.unmount target) host).reply with
    | ok _ => exact absurd ((answer_unmount_works target).mp reply) fails
    | error cause => rw [entries, answer_unmount_error reply, entries]

/-- The entries that a run of releases leaves are those that none of its targets releases. -/
theorem entries_after_releases (targets : List Path) :
    (host.after (releases targets)).entries =
      if host.failures.unmount = none then
        host.entries.filter fun entry => targets.all fun target => !entry.isReleasedBy target
      else host.entries := by
  induction targets generalizing host with
  | nil =>
    have all_kept : (host.entries.filter fun _ => true) = host.entries :=
      List.filter_eq_self.mpr fun _ _ => rfl
    split
    · exact all_kept.symm
    · rfl
  | cons target rest ih =>
    have first : (host.after (releases (target :: rest))).entries =
        ((answer (.unmount target) host).state.after (releases rest)).entries := rfl
    rw [first, ih, answer_failures, answer_unmount_entries]
    split
    · rw [List.filter_filter]
      simp only [List.all_cons, Bool.and_comm]
    · rfl

/-- Neither the order of the releases nor a repeat of one makes a difference. -/
theorem entries_after_releases_congr {first second : List Path}
    (same : ∀ target, target ∈ first ↔ target ∈ second) :
    (host.after (releases first)).entries = (host.after (releases second)).entries := by
  have alike (entry : MountEntry) : (first.all fun target => !entry.isReleasedBy target) =
      second.all fun target => !entry.isReleasedBy target := by
    rw [Bool.eq_iff_iff, List.all_eq_true, List.all_eq_true]
    simp only [same]
  rw [entries_after_releases, entries_after_releases, funext alike]

/-- A release filters the table of mounts. If it succeeds, the table reads as before without the
entries that are mounted at the target or have its text as their source, the others in order; if it
fails, the text of the table is as it was. So a second release of the same target takes nothing
more, and two releases leave the same entries in either order. -/
theorem unmount_filters_entries (host : ScriptedHost) (target other : Path) :
    let released := answer (.unmount target) host
    let crossed := answer (.unmount other) host
    (match released.reply with
      | .ok () => parseTable released.state.mounts = (parseTable host.mounts).filter fun entry =>
          ¬ (entry.mountPoint.components = target.components ∨ entry.source = target.text)
      | .error _ => released.state.mounts = host.mounts) ∧
    (released.reply = .ok () ↔ host.failures.unmount = none) ∧
    parseTable (answer (.unmount target) released.state).state.mounts =
      parseTable released.state.mounts ∧
    parseTable (answer (.unmount other) released.state).state.mounts =
      parseTable (answer (.unmount target) crossed.state).state.mounts := by
  intro released crossed
  refine ⟨?_, answer_unmount_works target, ?_, ?_⟩
  · cases reply : released.reply with
    | error cause => exact answer_unmount_error reply
    | ok _ =>
      have kept (entry : MountEntry) : (!entry.isReleasedBy target) = decide
          (¬ (entry.mountPoint.components = target.components ∨ entry.source = target.text)) := by
        rw [decide_not, Bool.not_inj_iff, Bool.eq_iff_iff, isReleasedBy_iff, decide_eq_true_iff]
      rw [answer_unmount_ok reply, parseTable_tableWithout, funext kept]
  · have repeated : ∀ path, path ∈ [target, target] ↔ path ∈ [target] := by simp
    exact entries_after_releases_congr repeated
  · have swapped : ∀ path, path ∈ [target, other] ↔ path ∈ [other, target] := by
      simp [or_comm]
    exact entries_after_releases_congr swapped

/-- One entry is mounted at the target in another spelling and one has it as its source. A line of
one word is no entry, and a longer name is another mount point. -/
theorem unmount_removes_point_and_source :
    let table := ("/dev/sda1 /mnt//a/ ext4\r\n\n/mnt/a\n/mnt/a /srv none\n" ++
      "/dev/sdb1 /mnt/a\\040b ext4\r\n").toList
    let host := { empty with mounts := table }
    let stuck := { host with failures := ⟨none, none, some "busy".toList, none⟩ }
    let target : Path := ⟨"/mnt/a".toList⟩
    (answer (.unmount target) host).reply = .ok () ∧
      parseTable (answer (.unmount target) host).state.mounts =
        [⟨"/dev/sdb1".toList, ⟨"/mnt/a b".toList⟩⟩] ∧
      (answer (.unmount target) stuck).state.mounts = table := by
  intro table host stuck target
  obtain ⟨filtered, works, -, -⟩ := unmount_filters_entries host target target
  obtain ⟨unchanged, -, -, -⟩ := unmount_filters_entries stuck target target
  have released : (answer (.unmount target) host).reply = .ok () := works.mpr rfl
  rw [released] at filtered
  exact ⟨released, filtered.trans (by decide +kernel), unchanged⟩

end ScriptedHost

end DiskPrep
