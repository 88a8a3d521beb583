import DiskPrep.Proofs.Path.Order
import DiskPrep.Proofs.Report.MountTable
import Mathlib.Data.List.Permutation
import Mathlib.Data.List.Sort

/-!
The order in which mounts are released. Sorting by depth keeps the order of paths of one depth
(`filter_depth_deepestFirst`), so the points to release before a wipe, which come into it in the
order of their components and each once, are in a linear order of their own
(`pairwise_pointsUnder`). A list in such an order is determined by its members, so the order of
the table makes no difference.
-/
namespace DiskPrep

/-- The components of the first path are those of a directory above the second. -/
def Path.Above (p q : Path) : Prop := p.components <+: q.components ∧ p.components ≠ q.components

theorem Path.Above.depth_lt {p q : Path} (above : p.Above q) : p.depth < q.depth := by
  obtain ⟨begins, differs⟩ := above
  refine lt_of_le_of_ne begins.length_le ?_
  intro same
  exact differs (begins.eq_of_length same)

/-- What paths to release are ordered by: the deeper come first, and those of one depth are in
the order of components. -/
def Path.releaseKey (p : Path) : ℕᵒᵈ ×ₗ List (ℕ ×ₗ List Char) :=
  toLex (OrderDual.toDual p.depth, p.keys)

theorem Path.releaseKey_lt_iff {p q : Path} :
    p.releaseKey < q.releaseKey ↔ q.depth ≤ p.depth ∧ (p.depth = q.depth → p.Before q) := by
  rw [releaseKey, releaseKey, Prod.Lex.toLex_lt_toLex, OrderDual.toDual_lt_toDual,
    EmbeddingLike.apply_eq_iff_eq]
  constructor
  · rintro (deeper | ⟨same, before⟩)
    · exact ⟨deeper.le, fun same => absurd same deeper.ne'⟩
    · exact ⟨same.ge, fun _ => before⟩
  · rintro ⟨atLeast, before⟩
    rcases atLeast.lt_or_eq with deeper | same
    · exact Or.inl deeper
    · exact Or.inr ⟨same.symm, before same.symm⟩

theorem Path.releaseKey_eq_iff {p q : Path} :
    p.releaseKey = q.releaseKey ↔ p.components = q.components := by
  rw [← keys_eq_iff]
  constructor
  · intro same
    exact congrArg (fun key => (ofLex key).2) same
  · intro same
    have depths : p.depth = q.depth := congrArg List.length (keys_eq_iff.mp same)
    rw [releaseKey, releaseKey, depths, same]

namespace MountEntry

section sorting

variable {paths : List Path}

theorem pairwise_ascending : (ascending paths).Pairwise fun p q => p.keys ≤ q.keys := by
  refine (List.pairwise_mergeSort ?_ ?_ paths).imp Path.atMost_iff.mp
  · intro a b c
    simp only [Path.atMost_iff]
    exact le_trans
  · intro a b
    simp only [Bool.or_eq_true, Path.atMost_iff]
    exact le_total a.keys b.keys

/-- In an ascending list what repeats a path stands right behind it, so none is left. -/
theorem pairwise_withoutRepeatsAfter {last : Path}
    (sorted : (last :: paths).Pairwise fun p q => p.keys ≤ q.keys) :
    (last :: withoutRepeatsAfter last paths).Pairwise Path.Before := by
  induction paths generalizing last with
  | nil => exact List.pairwise_singleton _ last
  | cons head rest ih =>
    rw [withoutRepeatsAfter]
    split
    next => exact ih (sorted.sublist ((List.sublist_cons_self head rest).cons_cons last))
    next differs =>
      obtain ⟨least, sorted⟩ := List.pairwise_cons.mp sorted
      have first : last.Before head := by
        refine lt_of_le_of_ne (least head List.mem_cons_self) ?_
        intro same
        exact differs (Path.same_iff.mpr (Path.keys_eq_iff.mp same))
      have later := ih sorted
      refine List.pairwise_cons.mpr ⟨?_, later⟩
      intro p member
      rcases List.mem_cons.mp member with rfl | member
      · exact first
      · exact lt_trans first ((List.pairwise_cons.mp later).1 p member)

theorem pairwise_withoutRepeats (sorted : paths.Pairwise fun p q => p.keys ≤ q.keys) :
    (withoutRepeats paths).Pairwise Path.Before := by
  cases paths with
  | nil => exact List.Pairwise.nil
  | cons head rest => exact pairwise_withoutRepeatsAfter sorted

theorem deepestFirst_perm (paths : List Path) : (deepestFirst paths).Perm paths :=
  List.mergeSort_perm paths _

theorem deeper_trans (p q r : Path) (first : decide (q.depth ≤ p.depth) = true)
    (second : decide (r.depth ≤ q.depth) = true) : decide (r.depth ≤ p.depth) = true := by
  simp only [decide_eq_true_eq] at *
  omega

theorem deeper_total (p q : Path) : (decide (q.depth ≤ p.depth) || decide (p.depth ≤ q.depth)) := by
  simp only [Bool.or_eq_true, decide_eq_true_eq]
  omega

theorem pairwise_deepestFirst : (deepestFirst paths).Pairwise fun p q => q.depth ≤ p.depth :=
  (List.pairwise_mergeSort deeper_trans deeper_total paths).imp of_decide_eq_true

/-- No path comes before one that lies below it. -/
theorem not_above_deepestFirst : (deepestFirst paths).Pairwise fun p q => ¬ p.Above q := by
  refine pairwise_deepestFirst.imp ?_
  intro p q deeper above
  exact absurd above.depth_lt (Nat.not_lt.mpr deeper)

/-- The paths of one depth stay in their order. -/
theorem filter_depth_deepestFirst (depth : Nat) :
    (deepestFirst paths).filter (·.depth = depth) = paths.filter (·.depth = depth) := by
  have level : (paths.filter (·.depth = depth)).Pairwise
      fun p q => decide (q.depth ≤ p.depth) = true := by
    refine List.pairwise_of_forall_mem_list ?_
    intro p here q there
    have := of_decide_eq_true (List.mem_filter.mp here).2
    have := of_decide_eq_true (List.mem_filter.mp there).2
    exact decide_eq_true (by omega)
  have kept : (paths.filter (·.depth = depth)).Sublist (deepestFirst paths) :=
    List.sublist_mergeSort deeper_trans deeper_total level List.filter_sublist
  have within := kept.filter (·.depth = depth)
  simp only [List.filter_filter, Bool.and_self] at within
  refine (within.eq_of_length ?_).symm
  exact (((deepestFirst_perm paths).filter _).length_eq).symm

/-- Two paths of one depth are in the order that they had. -/
theorem pair_sublist_of_deepestFirst {p q : Path} (pair : [p, q].Sublist (deepestFirst paths))
    (level : p.depth = q.depth) : [p, q].Sublist paths := by
  have kept := pair.filter (·.depth = q.depth)
  rw [filter_depth_deepestFirst, List.filter_eq_self.mpr (by simp [level])] at kept
  exact kept.trans List.filter_sublist

end sorting

section pointsUnder

variable {entries : List MountEntry} {device : Path}

/-- The points to release before a wipe are in the linear order of releases. -/
theorem pairwise_pointsUnder :
    (pointsUnder entries device).Pairwise fun p q => p.releaseKey < q.releaseKey := by
  rw [pointsUnder, List.pairwise_iff_forall_sublist]
  intro p q pair
  have deeper := List.pairwise_iff_forall_sublist.mp pairwise_deepestFirst pair
  refine Path.releaseKey_lt_iff.mpr ⟨deeper, ?_⟩
  intro level
  have earlier := pair_sublist_of_deepestFirst pair level
  exact List.pairwise_iff_forall_sublist.mp (pairwise_withoutRepeats pairwise_ascending) earlier

/-- They are where a source that begins with the device is mounted, and all of these places are
among them. -/
theorem mem_pointsUnder_iff {components : List Path.Component} :
    (∃ p ∈ pointsUnder entries device, p.components = components) ↔
      ∃ entry ∈ entries, device.text <+: entry.source ∧
        entry.mountPoint.components = components := by
  constructor
  · rintro ⟨p, member, rfl⟩
    obtain ⟨entry, listed, begins, rfl⟩ := exists_entry_of_mem_pointsUnder member
    exact ⟨entry, listed, begins, rfl⟩
  · rintro ⟨entry, listed, begins, rfl⟩
    obtain ⟨point, kept, same⟩ := exists_mem_pointsUnder listed begins
    exact ⟨point, kept, same.symm⟩

/-- A list in the order of releases is determined by its members. -/
theorem components_eq_of_releaseKeys {points others : List Path}
    (sorted : points.Pairwise fun p q => p.releaseKey < q.releaseKey)
    (sorted' : others.Pairwise fun p q => p.releaseKey < q.releaseKey)
    (same : ∀ components, (∃ p ∈ points, p.components = components) ↔
      ∃ q ∈ others, q.components = components) :
    points.map Path.components = others.map Path.components := by
  have keys : points.map Path.releaseKey = others.map Path.releaseKey := by
    refine (List.pairwise_map.mpr sorted).eq_of_mem_iff (List.pairwise_map.mpr sorted') ?_
    intro key
    simp only [List.mem_map]
    constructor
    · rintro ⟨p, member, rfl⟩
      obtain ⟨q, there, alike⟩ := (same p.components).mp ⟨p, member, rfl⟩
      exact ⟨q, there, Path.releaseKey_eq_iff.mpr alike⟩
    · rintro ⟨q, member, rfl⟩
      obtain ⟨p, there, alike⟩ := (same q.components).mpr ⟨q, member, rfl⟩
      exact ⟨p, there, Path.releaseKey_eq_iff.mpr alike⟩
  rw [← List.forall₂_eq_eq_eq, List.forall₂_map_left_iff, List.forall₂_map_right_iff] at keys ⊢
  exact keys.imp fun _ _ => Path.releaseKey_eq_iff.mp

/-- The points to release before a wipe, of any entries and any device. No two have the same
components; they are the places where a source is mounted whose text begins with the device's;
none comes before one below it; they are the deepest first, and in the order of components at
one depth; and the order of the entries makes no difference to their components. -/
theorem pointsUnder_in_order (entries : List MountEntry) (device : Path) :
    let points := pointsUnder entries device
    points.Pairwise (fun p q => p.components ≠ q.components) ∧
    (∀ path : Path, (∃ p ∈ points, p.components = path.components) ↔
      ∃ entry ∈ entries, device.text <+: entry.source ∧
        entry.mountPoint.components = path.components) ∧
    points.Pairwise (fun p q => ¬ p.Above q) ∧
    points.Pairwise (fun p q => q.depth ≤ p.depth ∧ (p.depth = q.depth → p.Before q)) ∧
    ∀ others, others.Perm entries →
      (pointsUnder others device).map Path.components = points.map Path.components := by
  intro points
  have sorted : points.Pairwise fun p q => p.releaseKey < q.releaseKey := pairwise_pointsUnder
  refine ⟨?_, fun path => mem_pointsUnder_iff, not_above_deepestFirst, ?_, ?_⟩
  · refine sorted.imp ?_
    intro p q first same
    exact first.ne (Path.releaseKey_eq_iff.mpr same)
  · exact sorted.imp Path.releaseKey_lt_iff.mp
  · intro others rearranged
    refine components_eq_of_releaseKeys pairwise_pointsUnder sorted ?_
    intro components
    rw [mem_pointsUnder_iff, mem_pointsUnder_iff]
    simp only [rearranged.mem_iff]

/-- A mount point in two spellings is released once, in the spelling that the table has first;
tables in another order lead to the same places. -/
theorem two_spellings_in_order :
    let entries : List MountEntry := [⟨"/dev/sda2".toList, ⟨"/mnt//b/c".toList⟩⟩,
      ⟨"/dev/sda1".toList, ⟨"/mnt".toList⟩⟩, ⟨"/dev/sdb1".toList, ⟨"/srv".toList⟩⟩,
      ⟨"/dev/sda".toList, ⟨"/mnt/".toList⟩⟩, ⟨"/dev/sda3".toList, ⟨"/mnt/a/c".toList⟩⟩]
    let device : Path := ⟨"/dev/sda".toList⟩
    pointsUnder entries device =
        [⟨"/mnt/a/c".toList⟩, ⟨"/mnt//b/c".toList⟩, ⟨"/mnt".toList⟩] ∧
      entries.reverse.Perm entries ∧
      (pointsUnder entries.reverse device).map Path.components =
        (pointsUnder entries device).map Path.components := by
  intro entries device
  have rearranged : entries.reverse.Perm entries := List.reverse_perm entries
  refine ⟨by decide_cbv, rearranged, ?_⟩
  obtain ⟨-, -, -, -, any_order⟩ := pointsUnder_in_order entries device
  exact any_order entries.reverse rearranged

end pointsUnder

end MountEntry

end DiskPrep
