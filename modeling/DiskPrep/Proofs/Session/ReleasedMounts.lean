import DiskPrep.Proofs.Session.LiveMounts

/-!
Whose mounts a wipe releases. All that belong to the disk are released before its sector is
written. What is released is chosen by how the text of a source begins, so another disk's
mount is taken along with them when its source begins with the disk's text
(`released_own_iff`).
-/
namespace DiskPrep

open Workflow

namespace MountEntry

/-- The source is the disk or one of its partitions. -/
def BelongsTo (disk : Path) (entry : MountEntry) : Prop :=
  entry.source = disk.text ∨ IsNumbered disk.text entry.source

theorem BelongsTo.begins {disk : Path} {entry : MountEntry} (own : entry.BelongsTo disk) :
    disk.text <+: entry.source := by
  rcases own with same | ⟨number, source, -⟩
  · rw [same]
  · rw [source]
    exact List.prefix_append disk.text number

/-- The table has the disk or one of its partitions mounted at the point. -/
def MountedAt (disk : Path) (table : Text) (point : Path) : Prop :=
  ∃ entry ∈ parseTable table, entry.BelongsTo disk ∧ entry.mountPoint.components = point.components

end MountEntry

open MountEntry Reformat

/-- Before a wipe writes the sector it releases every mount point of the disk. That it
releases no other holds exactly when each source of the table that begins with the disk's
text is mounted where the disk or one of its partitions is. -/
theorem Reformat.released_own_iff (disk : Path) (table : Text) :
    (∀ (σ : Type) (host : Host σ) (state : σ), (host.answer .readMounts state).reply = .ok table →
      ∀ earlier m later, (wipe disk false).history host state = earlier ++ m :: later →
        m.call.isWipe = true → ∀ entry ∈ parseTable table, entry.BelongsTo disk →
          ∃ point, point.components = entry.mountPoint.components ∧
            Answered earlier (.unmount point) (.ok ())) ∧
    ((∀ (σ : Type) (host : Host σ) (state : σ),
        (host.answer .readMounts state).reply = .ok table →
        ∀ m ∈ (wipe disk false).history host state, ∀ point, m.call = .unmount point →
          MountedAt disk table point) ↔
      ∀ entry ∈ parseTable table, disk.text <+: entry.source →
        MountedAt disk table entry.mountPoint) := by
  refine ⟨?_, ?_, ?_⟩
  · intro σ host state read earlier m later split wipes entry listed own
    obtain ⟨point, found, same⟩ := covered_pointsUnder disk table entry listed own.begins
    exact ⟨point, same.symm, wipe_released read split wipes found⟩
  · intro only_own entry listed begins
    -- On a host where every release succeeds, the entry's mount point is among the released.
    have success : ((wipe disk false).run scripted (.oneDisk table)).value = .ok () :=
      wipe_works rfl
    obtain ⟨w, asked, call⟩ := wipe_asked success
    obtain ⟨earlier, later, split⟩ := List.append_of_mem asked
    obtain ⟨point, found, same⟩ := covered_pointsUnder disk table entry listed begins
    obtain ⟨met, released⟩ := wipe_released rfl split (by rw [call]; rfl) found
    have member : ⟨met, .unmount point, .ok ()⟩ ∈
        (wipe disk false).history scripted (.oneDisk table) := by
      rw [split]
      exact List.mem_append_left _ released
    obtain ⟨own, here, belongs, mounted⟩ := only_own _ scripted (.oneDisk table) rfl _ member point rfl
    exact ⟨own, here, belongs, mounted.trans same.symm⟩
  · intro all_own σ host state read m member point call
    have found : point ∈ pointsUnder (parseTable table) disk := point_of_mem_wipe read member call
    obtain ⟨entry, listed, begins, rfl⟩ := exists_entry_of_mem_pointsUnder found
    exact all_own entry listed begins

/-- A disk with two mounted partitions beside another disk: what is released is its own. -/
theorem Reformat.partitions_released :
    let table := "/dev/sda1 /mnt ext4
/dev/sda2 /mnt/data ext4
/dev/sdb1 /srv ext4
".toList
    let disk := ScriptedHost.firstDisk
    ∀ (σ : Type) (host : Host σ) (state : σ), (host.answer .readMounts state).reply = .ok table →
      ∀ m ∈ (wipe disk false).history host state, ∀ point, m.call = .unmount point →
        MountedAt disk table point := by
  intro table disk
  refine (released_own_iff disk table).2.mpr ?_
  have entries : parseTable table =
      [⟨"/dev/sda1".toList, ⟨"/mnt".toList⟩⟩, ⟨"/dev/sda2".toList, ⟨"/mnt/data".toList⟩⟩,
        ⟨"/dev/sdb1".toList, ⟨"/srv".toList⟩⟩] := by
    decide +kernel
  intro entry listed begins
  refine ⟨entry, listed, ?_, rfl⟩
  rw [entries] at listed
  simp only [List.mem_cons, List.not_mem_nil, or_false] at listed
  rcases listed with rfl | rfl | rfl
  · exact Or.inr ⟨['1'], rfl, by decide, List.forall_mem_singleton.mpr rfl⟩
  · exact Or.inr ⟨['2'], rfl, by decide, List.forall_mem_singleton.mpr rfl⟩
  · exact absurd begins (by decide)

/-- A mount of another disk, whose name only begins like the disk's, is released as well. -/
theorem Reformat.longer_named_disk_released :
    let table := "/dev/sdaa1 /srv ext4 rw 0 0\n".toList
    let disk := ScriptedHost.firstDisk
    let host := ScriptedHost.oneDisk table
    isWholeDisk disk = true ∧
      ¬ ∀ m ∈ (wipe disk false).history scripted host, ∀ point, m.call = .unmount point →
        MountedAt disk table point := by
  intro table disk host
  refine ⟨by decide, ?_⟩
  intro only_own
  have released : Call.unmount ⟨"/srv".toList⟩ ∈
      ((wipe disk false).history scripted host).map Moment.call := by
    decide +kernel
  obtain ⟨m, member, call⟩ := List.mem_map.mp released
  obtain ⟨entry, listed, belongs, -⟩ := only_own m member _ call
  have entries : parseTable table = [⟨"/dev/sdaa1".toList, ⟨"/srv".toList⟩⟩] := by
    decide +kernel
  rw [entries, List.mem_singleton] at listed
  rw [listed] at belongs
  rcases belongs with same | numbered
  · exact absurd same (by decide)
  · exact absurd (isPartitionOf_iff.mpr numbered) (by decide)

end DiskPrep
