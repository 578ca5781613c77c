/-!
# Process id expansion

`$$` in a word stands for the shell's process id. Pairs are taken from the left and do not overlap,
so an odd dollar sign at the end of a run stays.
-/

namespace JobShell.Text

/-- Replaces each pair of dollar signs, taken from the left, by `value`. -/
def expandPairs (value : List Char) : List Char → List Char
  | '$' :: '$' :: cs => value ++ expandPairs value cs
  | c :: cs => c :: expandPairs value cs
  | [] => []

/-- `$$` replaced by the decimal text of `pid`. -/
def expandPid (pid : Int) (word : String) : String :=
  String.ofList (expandPairs (toString pid).toList word.toList)

/-- Every occurrence of `pattern`, taken from the left without overlap, replaced by `value`. The
counter `skip` is the number of characters of the last occurrence that are still to be passed. -/
def replaceFrom (pattern value : List Char) : Nat → List Char → List Char
  | _, [] => []
  | skip + 1, _ :: cs => replaceFrom pattern value skip cs
  | 0, c :: cs =>
    if pattern.isPrefixOf (c :: cs) then
      value ++ replaceFrom pattern value (pattern.length - 1) cs
    else c :: replaceFrom pattern value 0 cs

/-- `text` with every occurrence of the non-empty `pattern` replaced by `value`. -/
def replaceAll (pattern value text : String) : String :=
  String.ofList (replaceFrom pattern.toList value.toList 0 text.toList)

end JobShell.Text
