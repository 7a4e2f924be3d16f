import BuildExpr.Text.Case

/-!
# Maps from names

Names are equal when they differ only in the case of the letters A to Z. A map lists its
entries in the order in which the names were first set; setting a name again keeps its place
and takes the new spelling.
-/

namespace BuildExpr

/-- A map from names in order of insertion. -/
structure NameMap (α : Type) where
  entries : List (String × α) := []
  deriving DecidableEq, Inhabited

namespace NameMap

variable {α : Type}

/-- The entry of a name, with the name as it was spelled last. -/
def entry? (m : NameMap α) (name : String) : Option (String × α) :=
  m.entries.find? fun (n, _) => Text.eqIgnoreCase n name

/-- The value of a name. -/
def get? (m : NameMap α) (name : String) : Option α := (m.entry? name).map Prod.snd

/-- Whether a name is set. -/
def contains (m : NameMap α) (name : String) : Bool := (m.entry? name).isSome

/-- Sets a name in a list of entries. -/
def insertEntry (name : String) (a : α) : List (String × α) → List (String × α)
  | [] => [(name, a)]
  | (n, b) :: rest =>
    if Text.eqIgnoreCase n name then (name, a) :: rest else (n, b) :: insertEntry name a rest

/-- Sets a name. -/
def insert (m : NameMap α) (name : String) (a : α) : NameMap α := ⟨insertEntry name a m.entries⟩

/-- Removes a name. -/
def erase (m : NameMap α) (name : String) : NameMap α :=
  ⟨m.entries.filter fun (n, _) => !Text.eqIgnoreCase n name⟩

/-- The map with no name set. -/
def empty : NameMap α := ⟨[]⟩

/-- The map that results from setting names in turn. -/
def ofList (entries : List (String × α)) : NameMap α :=
  entries.foldl (fun m (name, a) => m.insert name a) empty

@[simp] theorem get?_empty (name : String) : (empty : NameMap α).get? name = none := rfl

theorem eqIgnoreCase_trans {a b c : String} (h : Text.eqIgnoreCase a b = true) :
    Text.eqIgnoreCase a c = Text.eqIgnoreCase b c := by
  simp only [Text.eqIgnoreCase, beq_iff_eq] at h
  simp [Text.eqIgnoreCase, h]

end NameMap

end BuildExpr
