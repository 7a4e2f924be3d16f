import BuildExpr.Proofs.Evaluation.Result
import BuildExpr.Proofs.Expression.Everywhere
import BuildExpr.Proofs.Expression.Mentions

/-!
# Evaluating under another lookup

A tree looks at its lookup for what it names and for the metadata item, and for nothing else, so it
has the same value under any lookup that agrees on those (`Setting.related_withLookup`). A tree
without item lists looks at no item (`evalExpression_relookup`).
-/

namespace BuildExpr

open TreeNode

/-- Two lookups that have the same property of a name, or the same items of a type. -/
def Lookup.Agree (lookup other : Lookup) : Mention → Prop
  | .property name => lookup.property? name = other.property? name
  | .items itemType => lookup.items itemType = other.items itemType

instance (lookup other : Lookup) : DecidablePred (lookup.Agree other)
  | .property name => inferInstanceAs (Decidable (lookup.property? name = other.property? name))
  | .items itemType => inferInstanceAs (Decidable (lookup.items itemType = other.items itemType))

/-- Whether a lookup has the properties and the metadata item of another. Its items may differ. -/
structure Lookup.SameBesideItems (lookup other : Lookup) : Prop where
  property : ∀ name, lookup.property? name = other.property? name
  metadataItem : lookup.metadataItem = other.metadataItem

theorem Lookup.SameBesideItems.agree {lookup other : Lookup} (h : lookup.SameBesideItems other)
    {n : TreeNode} (hflat : n.isItems = false) :
    ∀ m, n.mention? = some m → lookup.Agree other m := by
  intro m hm
  cases m with
  | property name => exact h.property name
  | items itemType =>
    cases n <;> simp [mention?, isItems] at hm hflat

/-- The setting with another lookup. -/
def Setting.withLookup (s : Setting) (lookup : Lookup) : Setting := { s with lookup }

variable {s : Setting} {lookup : Lookup}

theorem property_withLookup {name : String} (h : lookup.property? name = s.lookup.property? name) :
    (s.withLookup lookup).property name = s.property name := by
  simp only [Setting.property, Setting.withLookup, h]

theorem entries_withLookup {itemType : String}
    (h : lookup.items itemType = s.lookup.items itemType) :
    (s.withLookup lookup).entries itemType = s.entries itemType := by
  simp only [Setting.entries, Setting.withLookup, h]

theorem metadataValue_withLookup (h : lookup.metadataItem = s.lookup.metadataItem)
    (item : Option Item) (ref : MetadataRef) :
    (s.withLookup lookup).metadataValue item ref = s.metadataValue item ref := by
  simp only [Setting.metadataValue, Setting.withLookup, h]

theorem registryValue_withLookup (expression spec : String) :
    (s.withLookup lookup).registryValue expression spec = s.registryValue expression spec := by
  simp only [Setting.registryValue, Setting.withLookup]

theorem callStatic_withLookup (expression type member : String) (args : List Value) :
    (s.withLookup lookup).callStatic expression type member args =
      s.callStatic expression type member args := rfl

theorem callMember_withLookup (expression : String) (receiver : Value) (member : String)
    (args : List Value) :
    (s.withLookup lookup).callMember expression receiver member args =
      s.callMember expression receiver member args := rfl

theorem run_withLookup (call : ItemCall) (w : World) (args : List Value) (entries : List Entry) :
    call.run (s.withLookup lookup) w args entries = call.run s w args entries :=
  call.run_congr rfl rfl w args entries

theorem eq_of_lookedUp? {ref : Property} {name : Span} (h : ref.lookedUp? = some name) :
    (property ref).mention? = some (.property name.text) := by
  rw [mention?, h]
  rfl

/-- All that a tree asks of its setting is the same under a lookup with the same metadata item that
agrees on what the tree names. -/
theorem Setting.related_withLookup (h : lookup.metadataItem = s.lookup.metadataItem) :
    (s.withLookup lookup).Related (fun _ f f' => f = f')
      (fun n => ∀ m, n.mention? = some m → lookup.Agree s.lookup m) s where
  pure _ := rfl
  bind hf hg := by rw [hf, funext hg]
  property hagree hname := (property_withLookup (hagree _ (eq_of_lookedUp? hname))).symm
  shownValue _ := rfl
  shownEntries _ := rfl
  entries hagree := (entries_withLookup (hagree _ rfl)).symm
  registryValue _ := registryValue_withLookup _ _
  metadataValue _ item := metadataValue_withLookup h item _
  callStatic _ := callStatic_withLookup _
  callMember _ := callMember_withLookup _
  notIndexed _ _ := rfl
  memberMissing _ _ := rfl
  run _ _ args entries := by simp only [run_withLookup]

theorem evalExpression_relookup (h : lookup.SameBesideItems s.lookup) (item : Option Item)
    (e : Expression) (hflat : (expression e).Flat) :
    evalExpression (s.withLookup lookup) item e = evalExpression s item e :=
  related_evalExpression (Setting.related_withLookup h.metadataItem) item e
    (hflat.mono fun _ => h.agree)

theorem evalArguments_relookup (h : lookup.SameBesideItems s.lookup) (item : Option Item)
    (arguments : List Argument) (hflat : ∀ a ∈ arguments, (argument a).Flat) :
    evalArguments (s.withLookup lookup) item arguments = evalArguments s item arguments :=
  related_evalArguments (Setting.related_withLookup h.metadataItem) item arguments fun a ha =>
    (hflat a ha).mono fun _ => h.agree

end BuildExpr
