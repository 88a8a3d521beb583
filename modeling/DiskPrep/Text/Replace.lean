import DiskPrep.Text.Basic

/-!
Replacing every occurrence of a word in a text, from left to right and without
overlap. What has been put in is never looked at again by the same pass.
-/
namespace DiskPrep.Text

/-- Copies the text, with `skip` characters still to be left out because the
occurrence they belong to has already been replaced. -/
def replaceFrom (word replacement : Text) : Nat → Text → Text
  | _, [] => []
  | skip + 1, _ :: rest => replaceFrom word replacement skip rest
  | 0, c :: rest =>
    if word.isPrefixOf (c :: rest) then
      replacement ++ replaceFrom word replacement (word.length - 1) rest
    else c :: replaceFrom word replacement 0 rest

/-- The text with every occurrence of a word, which is not empty, replaced. -/
def replaceAll (word replacement t : Text) : Text :=
  replaceFrom word replacement 0 t

end DiskPrep.Text
