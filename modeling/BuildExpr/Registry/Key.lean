import BuildExpr.Fault
import BuildExpr.Text.Blank
import BuildExpr.Text.Case
import BuildExpr.Text.Search

/-!
# Registry keys and views

A key is a path from a hive, with `/` or `\` between its parts. The normal form spells the hive
in full, is in lower case and has no separator at the end. A view selects which of the layers
of a registry is read.
-/

namespace BuildExpr

/-- The layers of a registry. -/
inductive RegistryView
  | default
  | registry32
  | registry64
  deriving DecidableEq, Inhabited

namespace RegistryView

/-- The name of a view without the name of its type in front. -/
def bareName (name : List Char) : List Char :=
  match Chars.cutLast? '.' name with
  | some (type, bare) =>
    let type := Text.foldAscii (String.ofList type)
    if type == "registryview" || type == "microsoft.win32.registryview" then bare else name
  | none => name

/-- Reads a view by name. -/
def parse (s : String) : Except Fault RegistryView :=
  match Text.foldAscii (String.ofList (bareName (Chars.trim s.toList))) with
  | "default" => .ok default
  | "registry32" => .ok registry32
  | "registry64" => .ok registry64
  | _ => .error (.registryView s)

end RegistryView

namespace RegistryKey

/-- The hives, by full and short name in lower case. -/
def hives : List (String × String) :=
  [("hkey_local_machine", "hklm"), ("hkey_current_user", "hkcu"),
    ("hkey_classes_root", "hkcr"), ("hkey_users", "hku"),
    ("hkey_current_config", "hkcc"), ("hkey_performance_data", "hkpd")]

/-- The full name of the hive with a name. -/
def hive? (name : List Char) : Option String :=
  let name := Text.foldAscii (String.ofList name)
  (hives.find? fun (long, short) => name == long || name == short).map Prod.fst

/-- Whether a character separates the parts of a key. -/
def isSeparator (c : Char) : Bool := c == '\\'

/-- The normal form of a key. -/
def normalize (key : String) : Except Fault String :=
  let key := (Chars.trim key.toList).map fun c => if c == '/' then '\\' else c
  let (name, path) := (Chars.cut? '\\' key).getD (key, [])
  match hive? name with
  | none => .error (.hive (String.ofList key))
  | some hive =>
    let path := Chars.dropEndWhile isSeparator (path.dropWhile isSeparator)
    let path := path.map Char.toLower
    .ok (if path.isEmpty then hive else hive ++ String.ofList ('\\' :: path))

/-- The key and the name of the value in `Key@Name`, split at the first `@`. -/
def splitValueName (spec : String) : String × String :=
  match Chars.cut? '@' spec.toList with
  | some (key, name) => (String.ofList key, String.ofList name)
  | none => (spec, "")

end RegistryKey

end BuildExpr
