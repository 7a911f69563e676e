import NovelScript.Script.Summary
import NovelScript.Yaml.Scalar

/-!
The layout report of a script as a YAML document.
-/

namespace NovelScript.Yaml

def numberEntry (key : String) (n : Nat) : Text :=
  key.toList ++ ": ".toList ++ Numeral.decimal n ++ ['\n']

def functionItem (f : FunctionSummary) : Text :=
  "- ".toList ++ writeEntry 2 "name" f.name ++
    [("pos", f.pos), ("size", f.size), ("num_params", f.params), ("num_locals", f.locals)].flatMap
      fun (key, n) => blanks 2 ++ numberEntry key n.toNat

def document (s : ScriptSummary) : Text :=
  writeEntry 0 "name" s.name ++ writeEntry 0 "nls" s.charset.tag.toList ++
    numberEntry "code_size" s.codeSize.toNat ++ numberEntry "num_strings" s.stringCount ++
    numberEntry "strings_size" s.stringsSize.toNat ++
    if s.functions = [] then "functions: []\n".toList
    else "functions:\n".toList ++ s.functions.flatMap functionItem

end NovelScript.Yaml
