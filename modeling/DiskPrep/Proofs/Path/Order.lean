import DiskPrep.Path
import Mathlib.Data.Char
import Mathlib.Data.List.Lex
import Mathlib.Data.Prod.Lex

/-!
The order of paths. A component is ordered by its kind and a name by its characters, a path by
its components from the root on (`Path.Before`). The comparison of the library decides this
order (`atMost_iff`), which is linear on lists of components, however the paths are spelled.
-/
namespace DiskPrep.Path

/-- What components are ordered by: the root, `.` and `..` come in this order before names, and
names are in the order of their characters. -/
def Component.key : Component → ℕ ×ₗ List Char
  | .root => toLex (0, [])
  | .here => toLex (1, [])
  | .up => toLex (2, [])
  | .name text => toLex (3, text)

def keys (p : Path) : List (ℕ ×ₗ List Char) := p.components.map Component.key

/-- The path comes first in the order of components. -/
def Before (p q : Path) : Prop := p.keys < q.keys

theorem Component.key_injective : Function.Injective key := by
  intro a b same
  cases a <;> cases b <;> simp_all [key]

theorem keys_eq_iff {p q : Path} : p.keys = q.keys ↔ p.components = q.components :=
  (List.map_injective_iff.mpr Component.key_injective).eq_iff

theorem textLess_iff {s t : Text} : textLess s t = true ↔ s < t := by
  induction s generalizing t with
  | nil => cases t <;> simp [textLess]
  | cons a as ih =>
    cases t with
    | nil => simp [textLess]
    | cons b bs =>
      have code_points : a.toNat < b.toNat ↔ a < b := Iff.rfl
      simp [textLess, List.cons_lt_cons_iff, ih, code_points]

theorem Component.less_iff {a b : Component} : a.less b = true ↔ a.key < b.key := by
  cases a <;> cases b <;> simp [less, rank, key, Prod.Lex.toLex_lt_toLex, textLess_iff]

theorem componentsLess_iff {as bs : List Component} :
    componentsLess as bs = true ↔ as.map Component.key < bs.map Component.key := by
  induction as generalizing bs with
  | nil => cases bs <;> simp [componentsLess]
  | cons a as ih =>
    cases bs with
    | nil => simp [componentsLess]
    | cons b bs =>
      simp [componentsLess, List.cons_lt_cons_iff, ih, Component.less_iff,
        Component.key_injective.eq_iff]

theorem atMost_iff {p q : Path} : p.atMost q = true ↔ p.keys ≤ q.keys := by
  rw [atMost, Bool.not_eq_true', ← Bool.not_eq_true]
  exact componentsLess_iff.not.trans not_lt

end DiskPrep.Path
