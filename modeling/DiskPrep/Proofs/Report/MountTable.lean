import DiskPrep.Host.Scripted
import DiskPrep.Proofs.Text.Lines

/-!
The table of mounts while mounts are released. A release removes entries and changes
none (`parseTable_tableWithout`). The mount points to release are computed once, from
the table as it was; `Covered` is what ties that list to the table as it is by now: it
holds at the start, each release keeps it for the points that remain, and when none
remains no watched entry is left.
-/
namespace DiskPrep

theorem Path.same_iff {p q : Path} : p.same q = true ↔ p.components = q.components := by
  simp [Path.same]

namespace MountEntry

/-- The release of a target removes the entry: it is mounted there, or its source is
the text of the target. -/
def isReleasedBy (target : Path) (entry : MountEntry) : Bool :=
  entry.mountPoint.same target || entry.source == target.text

theorem ofLine?_withoutReturn (line : Text) : ofLine? (Text.withoutReturn line) = ofLine? line := by
  simp only [ofLine?, Text.words_withoutReturn]

theorem ofLine?_nil : ofLine? [] = none := rfl

/-- A table without the entries of a target has all the other entries, in order. -/
theorem parseTable_tableWithout (target : Path) (table : Text) :
    parseTable (ScriptedHost.tableWithout target table) =
      (parseTable table).filter fun entry => !entry.isReleasedBy target := by
  have kept_whole : ∀ line ∈ (Text.lines table).filter
      (fun line => !ScriptedHost.isReleased target line), '\n' ∉ line :=
    fun line member => Text.lineFeed_not_mem_line (List.mem_filter.mp member).1
  rw [parseTable, ScriptedHost.tableWithout,
    Text.filterMap_lines_joined ofLine? ofLine?_withoutReturn ofLine?_nil kept_whole,
    List.filterMap_filter, parseTable, List.filter_filterMap]
  congr 1
  funext line
  cases read : ofLine? line with
  | none => simp [ScriptedHost.isReleased, read]
  | some entry => simp [ScriptedHost.isReleased, read, isReleasedBy, Option.filter]

/-- Every entry that is watched is mounted at one of the points. -/
def Covered (watched : MountEntry → Prop) (points : List Path) (table : Text) : Prop :=
  ∀ entry ∈ parseTable table, watched entry →
    ∃ point ∈ points, entry.mountPoint.components = point.components

namespace Covered

variable {watched : MountEntry → Prop} {points : List Path} {table : Text}

/-- The release of the first point leaves the others to cover what is left. -/
theorem release {point : Path} (covered : Covered watched (point :: points) table) :
    Covered watched points (ScriptedHost.tableWithout point table) := by
  intro entry member isWatched
  rw [parseTable_tableWithout, List.mem_filter] at member
  obtain ⟨here, kept⟩ := member
  obtain ⟨other, listed, same⟩ := covered entry here isWatched
  rcases List.mem_cons.mp listed with rfl | listed
  · simp [isReleasedBy, Path.same_iff.mpr same] at kept
  · exact ⟨other, listed, same⟩

theorem none_left (covered : Covered watched [] table) :
    ∀ entry ∈ parseTable table, ¬ watched entry := by
  intro entry member isWatched
  obtain ⟨point, listed, -⟩ := covered entry member isWatched
  exact absurd listed List.not_mem_nil

end Covered

/-- A path is dropped only for one with its components that is kept. -/
theorem exists_same_mem_withoutRepeatsAfter (last : Path) (paths : List Path) {p : Path}
    (member : p ∈ paths) :
    p.components = last.components ∨
      ∃ q ∈ withoutRepeatsAfter last paths, p.components = q.components := by
  induction paths generalizing last with
  | nil => exact absurd member List.not_mem_nil
  | cons head rest ih =>
    rw [withoutRepeatsAfter]
    split
    next repeated =>
      rcases List.mem_cons.mp member with rfl | member
      · exact Or.inl (Path.same_iff.mp repeated).symm
      · exact ih last member
    next =>
      rcases List.mem_cons.mp member with rfl | member
      · exact Or.inr ⟨p, List.mem_cons_self, rfl⟩
      · rcases ih head member with same | ⟨q, kept, same⟩
        · exact Or.inr ⟨head, List.mem_cons_self, same⟩
        · exact Or.inr ⟨q, List.mem_cons_of_mem _ kept, same⟩

theorem exists_same_mem_withoutRepeats {paths : List Path} {p : Path} (member : p ∈ paths) :
    ∃ q ∈ withoutRepeats paths, p.components = q.components := by
  cases paths with
  | nil => exact absurd member List.not_mem_nil
  | cons head rest =>
    rcases List.mem_cons.mp member with rfl | member
    · exact ⟨p, List.mem_cons_self, rfl⟩
    · rcases exists_same_mem_withoutRepeatsAfter head rest member with same | ⟨q, kept, same⟩
      · exact ⟨head, List.mem_cons_self, same⟩
      · exact ⟨q, List.mem_cons_of_mem _ kept, same⟩

theorem withoutRepeatsAfter_sublist (last : Path) (paths : List Path) :
    (withoutRepeatsAfter last paths).Sublist paths := by
  induction paths generalizing last with
  | nil => exact List.Sublist.refl []
  | cons head rest ih =>
    rw [withoutRepeatsAfter]
    split
    · exact (ih last).cons head
    · exact (ih head).cons_cons head

theorem withoutRepeats_sublist (paths : List Path) : (withoutRepeats paths).Sublist paths := by
  cases paths with
  | nil => exact List.Sublist.refl []
  | cons head rest => exact (withoutRepeatsAfter_sublist head rest).cons_cons head

@[simp]
theorem mem_ascending {paths : List Path} {p : Path} : p ∈ ascending paths ↔ p ∈ paths :=
  List.mem_mergeSort

@[simp]
theorem mem_deepestFirst {paths : List Path} {p : Path} : p ∈ deepestFirst paths ↔ p ∈ paths :=
  List.mem_mergeSort

theorem deepestFirst_eq_nil_iff {paths : List Path} : deepestFirst paths = [] ↔ paths = [] := by
  rw [deepestFirst, ← List.length_eq_zero_iff, List.length_mergeSort, List.length_eq_zero_iff]

theorem mem_pointsOf_iff {entries : List MountEntry} {device point : Path} :
    point ∈ pointsOf entries device ↔
      ∃ entry ∈ entries, entry.source = device.text ∧ entry.mountPoint = point := by
  simp [pointsOf, and_assoc]

theorem pointsOf_eq_nil_iff {entries : List MountEntry} {device : Path} :
    pointsOf entries device = [] ↔ ∀ entry ∈ entries, entry.source ≠ device.text := by
  simp [pointsOf, List.filter_eq_nil_iff]

/-- A point to release before a wipe is where a source that begins with the device is mounted. -/
theorem exists_entry_of_mem_pointsUnder {entries : List MountEntry} {device point : Path}
    (member : point ∈ pointsUnder entries device) :
    ∃ entry ∈ entries, device.text <+: entry.source ∧ entry.mountPoint = point := by
  have listed : point ∈ ascending
      ((entries.filter fun entry => device.text.isPrefixOf entry.source).map mountPoint) :=
    (withoutRepeats_sublist _).subset (mem_deepestFirst.mp member)
  obtain ⟨entry, selected, mounted⟩ := List.mem_map.mp (mem_ascending.mp listed)
  obtain ⟨here, begins⟩ := List.mem_filter.mp selected
  exact ⟨entry, here, List.isPrefixOf_iff_prefix.mp begins, mounted⟩

/-- Where a source that begins with the device is mounted, there is a point to release before a
wipe. -/
theorem exists_mem_pointsUnder {entries : List MountEntry} {device : Path} {entry : MountEntry}
    (member : entry ∈ entries) (begins : device.text <+: entry.source) :
    ∃ point ∈ pointsUnder entries device, entry.mountPoint.components = point.components := by
  have selected : entry.mountPoint ∈ ascending
      ((entries.filter fun entry => device.text.isPrefixOf entry.source).map mountPoint) :=
    mem_ascending.mpr (List.mem_map_of_mem
      (List.mem_filter.mpr ⟨member, List.isPrefixOf_iff_prefix.mpr begins⟩))
  obtain ⟨point, kept, same⟩ := exists_same_mem_withoutRepeats selected
  exact ⟨point, mem_deepestFirst.mpr kept, same⟩

/-- The points to release before a wipe cover every source that begins with the device. -/
theorem covered_pointsUnder (device : Path) (table : Text) :
    Covered (fun entry => device.text <+: entry.source)
      (pointsUnder (parseTable table) device) table :=
  fun _ member begins => exists_mem_pointsUnder member begins

/-- The points to release before a format cover every entry of the device. -/
theorem covered_pointsOf (device : Path) (table : Text) :
    Covered (fun entry => entry.source = device.text)
      (deepestFirst (pointsOf (parseTable table) device)) table := by
  intro entry member source
  have selected : entry.mountPoint ∈ pointsOf (parseTable table) device :=
    mem_pointsOf_iff.mpr ⟨entry, member, source, rfl⟩
  exact ⟨entry.mountPoint, mem_deepestFirst.mpr selected, rfl⟩

end MountEntry

end DiskPrep
