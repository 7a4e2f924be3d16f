import BuildExpr.Evaluation.Expression
import BuildExpr.Proofs.Text.LetterCase

/-!
# Names in either case

Wherever something is looked up by a name, the case of the letters A to Z in the name does not
matter: properties, items, metadata and the reserved names among them, item functions, and the
types and members of functions. The refusals of names that are not found quote them, but have the
same code (`FunctionTable.resolveStatic_congr`, `FunctionTable.resolveMember_congr`).
-/

namespace BuildExpr

open Text

variable {name name' : String}

theorem NameMap.get?_congr {α : Type} (m : NameMap α) (h : SameName name name') :
    m.get? name = m.get? name' := by
  simp only [get?, NameMap.entry?, eqIgnoreCase, foldAscii_eq h]

/-! ## Properties and items -/

theorem Lookup.property?_congr (l : Lookup) (h : SameName name name') :
    l.property? name = l.property? name' := by
  simp only [property?, Scope.property?, NameMap.get?_congr _ h]

theorem Lookup.items_congr (l : Lookup) (h : SameName name name') :
    l.items name = l.items name' := by
  simp only [items, Scope.items?, NameMap.get?_congr _ h]

theorem Setting.property_congr (s : Setting) (h : SameName name name') :
    s.property name = s.property name' := by
  rw [property, property, isBlank_eq h, s.lookup.property?_congr h]

theorem Setting.entries_congr (s : Setting) (h : SameName name name') :
    s.entries name = s.entries name' := by
  rw [entries, entries, s.lookup.items_congr h]

/-! ## Metadata -/

theorem Reserved.ofName?_congr (h : SameName name name') :
    ofName? name = ofName? name' := by
  simp only [ofName?, eqIgnoreCase, foldAscii_eq h]

theorem Item.metadataValue_congr (item : Item) (w : World) (h : SameName name name') :
    item.metadataValue w name = item.metadataValue w name' := by
  simp only [metadataValue, Reserved.ofName?_congr h, customMetadata, NameMap.get?_congr _ h]

/-! ## Item functions -/

theorem ItemFunction.ofName_congr (h : SameName name name') :
    ofName name = ofName name' := by
  rw [ofName, ofName, foldAscii_eq h, Reserved.ofName?_congr h]

/-! ## Functions -/

namespace FunctionTable

variable {type type' member member' : String}

theorem typeKey_congr (h : SameName type type') : typeKey type = typeKey type' := by
  rw [typeKey, typeKey, foldAscii_eq (eqIgnoreCase_trim h)]

theorem memberKey_congr (h : SameName member member') :
    memberKey member = memberKey member' := by
  rw [memberKey, memberKey, foldAscii_eq h]

theorem accept_congr (f : Function) (type type' member member' : String) (count : Nat) :
    (accept f type member count).mapError Refusal.code =
      (accept f type' member' count).mapError Refusal.code := by
  rw [accept, accept]
  split <;> rfl

theorem resolveStatic_congr (opened : Bool) (htype : SameName type type')
    (hmember : SameName member member') (count : Nat) :
    (resolveStatic opened type member count).mapError Refusal.code =
      (resolveStatic opened type' member' count).mapError Refusal.code := by
  simp only [resolveStatic, typeKey_congr htype, memberKey_congr hmember]
  split
  · exact accept_congr _ _ _ _ _ count
  · split
    · rfl
    · split <;> rfl

theorem resolveMember_congr (receiver : Value) (hmember : SameName member member')
    (count : Nat) :
    (resolveMember receiver member count).mapError Refusal.code =
      (resolveMember receiver member' count).mapError Refusal.code := by
  simp only [resolveMember, memberKey_congr hmember]
  split
  · exact accept_congr _ _ _ _ _ count
  · rfl

/-- Two searches that refuse with the same code find the same function or refuse both. -/
theorem cases_of_mapError {x x' : Except Refusal Function}
    (h : x.mapError Refusal.code = x'.mapError Refusal.code) :
    (∃ f, x = .ok f ∧ x' = .ok f) ∨
      ∃ r r', x = .error r ∧ x' = .error r' ∧ r.code = r'.code := by
  cases x with
  | ok f =>
    cases x' with
    | ok f' => exact .inl ⟨f, rfl, congrArg Except.ok (Except.ok.inj h).symm⟩
    | error r' => cases h
  | error r =>
    cases x' with
    | ok f' => cases h
    | error r' => exact .inr ⟨r, r', rfl, rfl, Except.error.inj h⟩

theorem givesEscaped_congr (htype : SameName type type')
    (hmember : SameName member member') :
    givesEscaped type member = givesEscaped type' member' := by
  rw [givesEscaped, givesEscaped, typeKey_congr htype, memberKey_congr hmember]

end FunctionTable

theorem Outcome.ofStatic_congr {type type' member member' : String} (htype : SameName type type')
    (hmember : SameName member member') (v : Value) :
    ofStatic type member v = ofStatic type' member' v := by
  rw [ofStatic, ofStatic, FunctionTable.givesEscaped_congr htype hmember]

end BuildExpr
