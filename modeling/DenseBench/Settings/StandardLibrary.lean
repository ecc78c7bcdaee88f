import DenseBench.Settings.Conversion
import DenseBench.Settings.Environment
import DenseBench.Settings.File
import DenseBench.Settings.Layer

/-!
# The standard library of settings

The library that the program goes by.  Its files are written in one of three formats, the keys of
tables may be in any case, and a table does not replace another table but is added to it.
-/

namespace DenseBench
namespace Settings

/-- The library whose values are settings that know their origin. -/
def Library.standard : Library Setting LoadError where
  ofText text := .scalar none (.text text)
  ofInt n := .scalar none (.int n)
  ofTexts texts := .list none (texts.map fun text => .scalar none (.text text))
  read := File.read
  file := File.layer
  valueOf := Environment.setting
  environment := Environment.layer
  combine layers := (Settings.combine layers).asTable.2
  toText := Settings.toText
  toCount := Settings.toCount
  toPolicy := Settings.toPolicy
  toTexts := Settings.toTexts
  missing := .missing
  unknownDataset := .unknownDataset
  message := LoadError.message

end Settings
end DenseBench
