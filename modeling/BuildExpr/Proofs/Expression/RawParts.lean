import BuildExpr.Expression.Parse
import BuildExpr.Proofs.Source.Within

/-!
# Where raw parts lie

The members of a chain and the parts of an item list lie within the text they are read from, and
the names and texts in them within the part that has them (`placed_of_mem_accesses`,
`placed_of_mem_stages`).
-/

namespace BuildExpr

/-- A member that lies within a text and holds its name and arguments. -/
def RawAccess.Placed (r : Rest) : RawAccess → Prop
  | .method span name arguments =>
    span.toRest.Within r ∧ name.toRest.Within span.toRest ∧ arguments.Within span.toRest
  | .member span name => span.toRest.Within r ∧ name.toRest.Within span.toRest
  | .index span argument => span.toRest.Within r ∧ argument.Within span.toRest
  | .fault _ => True

/-- A part of an item list that lies within a text and holds its name and texts. -/
def RawStage.Placed (r : Rest) : RawStage → Prop
  | .pattern span value => span.toRest.Within r ∧ value.Within span.toRest
  | .function span name arguments =>
    span.toRest.Within r ∧ name.toRest.Within span.toRest ∧ arguments.Within span.toRest
  | .separator value => value.Within r
  | .fault _ => True

theorem RawAccess.Placed.trans {a : RawAccess} {r outer : Rest} (h : a.Placed r)
    (hr : r.Within outer) : a.Placed outer := by
  cases a with
  | method span name arguments => exact ⟨h.1.trans hr, h.2⟩
  | member span name => exact ⟨h.1.trans hr, h.2⟩
  | index span argument => exact ⟨h.1.trans hr, h.2⟩
  | fault fault => trivial

theorem RawStage.Placed.trans {a : RawStage} {r outer : Rest} (h : a.Placed r)
    (hr : r.Within outer) : a.Placed outer := by
  cases a with
  | pattern span value => exact ⟨h.1.trans hr, h.2⟩
  | function span name arguments => exact ⟨h.1.trans hr, h.2⟩
  | separator value => exact Rest.Within.trans h hr
  | fault fault => trivial

namespace Rest

/-! ## Members of a chain -/

/-- A member whose name was just read between `start` and `r`. -/
theorem memberTail_placed {start at_ r after : Rest} {dash : Bool} {name : Span}
    {access : RawAccess} (hstart : at_.Tail start) (hname : at_.name? dash = some (name, r))
    (h : memberTail start name r = (access, after)) : access.Placed start ∧ after.Tail start := by
  have hr : r.Tail start := (tail_of_name? hname).trans hstart
  have hin {later : Rest} (hl : later.Tail r) :
      name.toRest.Within (start.upTo later).toRest := by
    rw [name_eq_upTo hname]
    exact within_upTo hstart (tail_of_name? hname) hl
  rw [memberTail] at h
  split at h
  · split at h
    · rename_i arguments rest hgroup
      obtain ⟨rfl, rfl⟩ := Prod.mk.inj h
      have hrest := tail_of_group? hgroup
      refine ⟨⟨upTo_within (hrest.trans hr), hin hrest, ?_⟩, hrest.trans hr⟩
      exact (inside_upTo_of_group? hgroup).within.trans (within_upTo hr hrest (Tail.refl _))
    · obtain ⟨rfl, rfl⟩ := Prod.mk.inj h
      exact ⟨trivial, hr⟩
  · obtain ⟨rfl, rfl⟩ := Prod.mk.inj h
    exact ⟨⟨upTo_within hr, hin (Tail.refl _)⟩, hr⟩

theorem access?_placed {r after : Rest} {access : RawAccess}
    (h : r.access? = some (access, after)) : access.Placed r ∧ after.Tail r := by
  rw [access?] at h
  split at h
  · cases h
  · split at h
    · rename_i name rest hname
      exact memberTail_placed (tail_next r) hname (Option.some.inj h)
    · obtain ⟨rfl, rfl⟩ := Prod.mk.inj (Option.some.inj h)
      exact ⟨trivial, Tail.refl _⟩
  · split at h
    · rename_i argument rest hgroup
      obtain ⟨rfl, rfl⟩ := Prod.mk.inj (Option.some.inj h)
      have hrest := tail_of_group? hgroup
      exact ⟨⟨upTo_within hrest, (inside_upTo_of_group? hgroup).within⟩, hrest⟩
    · obtain ⟨rfl, rfl⟩ := Prod.mk.inj (Option.some.inj h)
      exact ⟨trivial, Tail.refl _⟩
  · obtain ⟨rfl, rfl⟩ := Prod.mk.inj (Option.some.inj h)
    exact ⟨trivial, Tail.refl _⟩

theorem placed_of_mem_accessesUpTo {fuel : Nat} {r : Rest} {access : RawAccess}
    (h : access ∈ accessesUpTo fuel r) : access.Placed r := by
  induction fuel generalizing r with
  | zero => simp [accessesUpTo] at h
  | succ fuel ih =>
    rw [accessesUpTo] at h
    split at h
    · simp at h
    · rw [List.mem_singleton.1 h]
      trivial
    · rename_i first after _ hfirst
      obtain ⟨hplaced, hafter⟩ := access?_placed hfirst
      have hblanks := (tail_skipBlanks r).within
      rcases List.mem_cons.1 h with rfl | h
      · exact hplaced.trans hblanks
      · exact (ih h).trans (hafter.within.trans hblanks)

/-- The members of a chain lie within it. -/
theorem placed_of_mem_accesses {r : Rest} {access : RawAccess} (h : access ∈ r.accesses) :
    access.Placed r :=
  placed_of_mem_accessesUpTo h

/-! ## Parts of an item list -/

theorem stage?_placed {separated : Bool} {r after : Rest} {stage : RawStage}
    (h : r.stage? separated = some (stage, after)) : stage.Placed r ∧ after.Tail r := by
  have hfault {fault : SyntaxFault} (h : some (RawStage.fault fault, r) = some (stage, after)) :
      stage.Placed r ∧ after.Tail r := by
    obtain ⟨rfl, rfl⟩ := Prod.mk.inj (Option.some.inj h)
    exact ⟨trivial, Tail.refl _⟩
  rw [stage?] at h
  split at h
  · cases h
  · -- an arrow
    have hbody : (r.drop 2).skipBlanks.Tail r := (tail_skipBlanks _).trans (tail_drop r 2)
    dsimp only at h
    split at h
    · split at h
      · rename_i value rest hquoted
        obtain ⟨rfl, rfl⟩ := Prod.mk.inj (Option.some.inj h)
        have hrest := tail_of_quoted? hquoted
        exact ⟨⟨upTo_within (hrest.trans hbody), (inside_upTo_of_quoted? hquoted).within.trans
          (within_upTo hbody hrest (Tail.refl _))⟩, hrest.trans hbody⟩
      · exact hfault h
    · split at h
      · exact hfault h
      · rename_i name rest hname
        have hrest : rest.skipBlanks.Tail (r.drop 2).skipBlanks :=
          (tail_skipBlanks _).trans (tail_of_name? hname)
        split at h
        · split at h
          · rename_i arguments last hgroup
            obtain ⟨rfl, rfl⟩ := Prod.mk.inj (Option.some.inj h)
            have hlast := tail_of_group? hgroup
            have hopen := hrest.trans hbody
            refine ⟨⟨upTo_within (hlast.trans hopen), ?_, ?_⟩, hlast.trans hopen⟩
            · rw [name_eq_upTo hname]
              exact within_upTo hbody (tail_of_name? hname) (hlast.trans (tail_skipBlanks _))
            · exact (inside_upTo_of_group? hgroup).within.trans
                (within_upTo hopen hlast (Tail.refl _))
          · exact hfault h
        · exact hfault h
  · -- a comma
    split at h
    · exact hfault h
    · have hbody : r.next.skipBlanks.Tail r := (tail_skipBlanks _).trans (tail_next r)
      dsimp only at h
      split at h
      · split at h
        · rename_i value rest hquoted
          obtain ⟨rfl, rfl⟩ := Prod.mk.inj (Option.some.inj h)
          exact ⟨(inside_of_quoted? hquoted).within.trans hbody.within,
            (tail_of_quoted? hquoted).trans hbody⟩
        · exact hfault h
      · exact hfault h
  · exact hfault h

theorem placed_of_mem_stagesUpTo {separated : Bool} {fuel : Nat} {r : Rest} {stage : RawStage}
    (h : stage ∈ stagesUpTo separated fuel r) : stage.Placed r := by
  induction fuel generalizing separated r with
  | zero => simp [stagesUpTo] at h
  | succ fuel ih =>
    rw [stagesUpTo] at h
    split at h
    · simp at h
    · rw [List.mem_singleton.1 h]
      trivial
    · rename_i first after _ hfirst
      obtain ⟨hplaced, hafter⟩ := stage?_placed hfirst
      have hblanks := (tail_skipBlanks r).within
      rcases List.mem_cons.1 h with rfl | h
      · exact hplaced.trans hblanks
      · exact (ih h).trans (hafter.within.trans hblanks)

/-- The parts of an item list lie within it. -/
theorem placed_of_mem_stages {r : Rest} {stage : RawStage} (h : stage ∈ r.stages) :
    stage.Placed r :=
  placed_of_mem_stagesUpTo h

end Rest

end BuildExpr
