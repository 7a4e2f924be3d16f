import BuildExpr.Registry.Key
import BuildExpr.NameMap
import BuildExpr.Surroundings.World
import BuildExpr.Value

/-!
# Registries

A registry maps views and keys to named values. A value of the default view is seen from every
view that has none of its own. The registry without keys finds nothing.
-/

namespace BuildExpr

/-- A value of a registry. -/
inductive RegistryValue
  | text (s : String)
  /-- A text with references `%NAME%` to environment variables. -/
  | expandable (s : String)
  | texts (list : List String)
  | bytes (list : List UInt8)
  | word32 (n : UInt32)
  | word64 (n : UInt64)
  deriving DecidableEq

namespace RegistryValue

/-- The plain text of a value. -/
def display (vars : Variables) : RegistryValue → String
  | text s => s
  | expandable s => vars.expand s
  | texts list => Text.join ";" list
  | bytes list => Text.join ";" (list.map fun b => String.ofList (Numeral.decimal b.toNat))
  | word32 n => String.ofList (Numeral.decimal n.toNat)
  | word64 n => String.ofList (Numeral.decimal n.toNat)

/-- The text in escaped form, in which the texts of a list are separate entries. -/
def escaped (vars : Variables) : RegistryValue → String
  | texts list => Text.join ";" (list.map Text.escape)
  | v => Text.escape (v.display vars)

/-- The value that expressions see. The elements of a list of texts or bytes become an array,
and a number beyond 64 bits with sign becomes text. -/
def toValue (vars : Variables) : RegistryValue → Value
  | text s => .text s
  | expandable s => .text (vars.expand s)
  | texts list => .ofTexts list
  | bytes list => .array (list.map fun b => .ofInt b.toNat)
  | word32 n => .ofInt n.toNat
  | word64 n =>
    match Integer.fit? n.toNat with
    | some i => .int i
    | none => .text (String.ofList (Numeral.decimal n.toNat))

end RegistryValue

/-- A registry: the values of the keys of each view. Keys are in normal form. -/
structure Registry where
  keys : List ((RegistryView × String) × NameMap RegistryValue) := []
  deriving DecidableEq, Inhabited

namespace Registry

/-- The values of a key in normal form. -/
def values? (r : Registry) (view : RegistryView) (key : String) :
    Option (NameMap RegistryValue) :=
  (r.keys.find? fun (place, _) => place == (view, key)).map Prod.snd

/-- A value of a key in normal form, in one view alone. -/
def lookup? (r : Registry) (view : RegistryView) (key name : String) : Option RegistryValue :=
  (r.values? view key).bind fun values => values.get? name

/-- The value with a name. The default view answers for views that have no such value. -/
def get? (r : Registry) (view : RegistryView) (key name : String) :
    Except Fault (Option RegistryValue) := do
  let key ← RegistryKey.normalize key
  return r.lookup? view key name <|> r.lookup? .default key name

/-- Sets a value in a view. -/
def set (r : Registry) (view : RegistryView) (key name : String) (value : RegistryValue) :
    Except Fault Registry := do
  let key ← RegistryKey.normalize key
  let values := ((r.values? view key).getD {}).insert name value
  let others := r.keys.filter fun (place, _) => place != (view, key)
  return { r with keys := others ++ [((view, key), values)] }

/-- Removes a key from a view. The answer says whether it was there. -/
def remove (r : Registry) (view : RegistryView) (key : String) :
    Except Fault (Bool × Registry) := do
  let key ← RegistryKey.normalize key
  return ((r.values? view key).isSome,
    { r with keys := r.keys.filter fun (place, _) => place != (view, key) })

/-- The registry without its keys. -/
def clear (_ : Registry) : Registry := {}

/-- The number of pairs of a view and a key. -/
def size (r : Registry) : Nat := r.keys.length

/-- Whether there is no key. -/
def isEmpty (r : Registry) : Bool := r.keys.isEmpty

/-- The value that expressions see, and no object when there is none. -/
def read (r : Registry) (vars : Variables) (view : RegistryView) (key name : String) :
    Except Fault Value := do
  return match ← r.get? view key name with
    | some v => v.toValue vars
    | none => .null

end Registry

/-- The answer where there is no registry: no value, for every valid key. -/
def NoRegistry.get? (_ : RegistryView) (key _ : String) : Except Fault (Option RegistryValue) := do
  let _ ← RegistryKey.normalize key
  return none

end BuildExpr
