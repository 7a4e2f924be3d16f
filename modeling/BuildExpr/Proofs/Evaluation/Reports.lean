import BuildExpr.Proofs.Evaluation.Result
import BuildExpr.Proofs.Except

/-!
# What evaluations report

The failures of an evaluation come from the nodes of its tree: a property reference reports a
function that fails or is not found and a value that has no index (`Property.Reported`), a metadata
reference and a stage report metadata that cannot be computed, and a stage what its function refuses
(`ItemCall.Reported`). A property of diagnostics that all of these have (`TreeNode.Permits`) is one
of every report of an evaluation of the tree (`Setting.related_reports`).
-/

namespace BuildExpr

/-- A property of all that an evaluation reports. -/
def Eval.Reports {α : Type} (p : Diagnostic → Prop) (f : Eval α) : Prop :=
  ∀ w, Except.Reports p (f.result w).1

namespace Eval.Reports

variable {α β : Type} {p q : Diagnostic → Prop}

theorem pure (a : α) : Reports p (Pure.pure a) := fun _ => .ok a

theorem throw {d : Diagnostic} (h : p d) : Reports p (throw d : Eval α) := fun _ => .error h

theorem look {f : World → Except Diagnostic α} (h : ∀ w, Except.Reports p (f w)) :
    Reports p (look f) := fun w => by
  rw [result_look]
  exact h w

theorem mono {f : Eval α} (h : f.Reports p) (hpq : ∀ d, p d → q d) : f.Reports q :=
  fun w => (h w).mono hpq

theorem bind {f : Eval α} {g : α → Eval β} (hf : f.Reports p) (hg : ∀ a, (g a).Reports p) :
    (f >>= g).Reports p := by
  intro w
  rw [result_bind]
  have hw := hf w
  rcases hresult : f.result w with ⟨d | a, w'⟩
  · rw [hresult] at hw
    exact .error (hw d rfl)
  · exact hg a w'

theorem mapM {f : α → Eval β} {as : List α} (h : ∀ a ∈ as, (f a).Reports p) :
    (as.mapM f).Reports p := by
  induction as with
  | nil => exact .pure []
  | cons a as ih =>
    obtain ⟨hfirst, hmore⟩ := List.forall_mem_cons.1 h
    rw [List.mapM_cons]
    exact hfirst.bind fun _ => (ih hmore).bind fun _ => .pure _

theorem sequenced (p : Diagnostic → Prop) : Eval.Sequenced fun _ f _ => f.Reports p where
  pure a := .pure a
  bind hf hg := hf.bind hg

end Eval.Reports

open Eval

/-! ## Property references -/

/-- The reports about a property reference: of a function that fails, of one that is not found, and
of a value that has no index. -/
inductive Property.Reported (ref : Property) : Diagnostic → Prop
  | failure (function : String) (e : Failure) :
    Reported ref (Failure.diagnostic ref.span.text function e)
  | refusal (r : FunctionTable.Refusal) : Reported ref (r.diagnostic ref.span.text)
  | notIndexed (v : Value) : Reported ref (notIndexed ref.span.text v)

namespace Setting

variable {s : Setting}

theorem reports_apply {p : Diagnostic → Prop} (f : Function) (args : List Value)
    {report : Failure → Diagnostic} (hreport : ∀ e, p (report e)) :
    (s.apply f args report).Reports p := by
  intro w
  unfold apply
  rcases hrun : f.run (s.context w) args with ⟨v | e, w'⟩
  all_goals simp only [result_get_bind, result_set_bind, hrun]
  · exact .error (hreport v)
  · exact .ok e

theorem reports_callStatic (ref : Property) (type member : String) (args : List Value) :
    (s.callStatic ref.span.text type member args).Reports ref.Reported := by
  rw [callStatic]
  split
  · exact reports_apply _ _ fun e => .failure _ e
  · exact .throw (.refusal _)

theorem reports_callMember (ref : Property) (receiver : Value) (member : String)
    (args : List Value) :
    (s.callMember ref.span.text receiver member args).Reports ref.Reported := by
  rw [callMember]
  split
  · exact reports_apply _ _ fun e => .failure _ e
  · exact .throw (.refusal _)

theorem reports_registryValue (ref : Property) (spec : String) :
    (s.registryValue ref.span.text spec).Reports ref.Reported := by
  refine .look fun w => ?_
  dsimp only
  split
  · exact .ok _
  · exact .error (.failure _ _)

theorem reports_metadataValue (item : Option Item) (ref : MetadataRef) :
    (s.metadataValue item ref).Reports fun d =>
      ∃ cause, d = metadataFailed ref.span.text ref.name.text cause := by
  refine .look fun w => ?_
  split
  · exact .ok _
  · split
    · exact .ok _
    · exact .error ⟨_, rfl⟩

end Setting

/-! ## Stages of item lists -/

/-- The reports about a named stage: of the function itself, and of metadata that it reads. The way
it is written was settled before. -/
inductive ItemCall.Reported (call : ItemCall) : Diagnostic → Prop
  | failed {kind : Diagnostic.Kind} (h : kind ≠ .malformed) (detail : String) :
    Reported call (call.failed kind detail)
  | metadata (name : String) (cause : Fault) : Reported call (metadataFailed call.stage name cause)

theorem Failure.kind_ne (e : Failure) : e.kind ≠ .malformed := by
  cases e <;> simp [kind]

namespace ItemCall

variable {call : ItemCall}

theorem reports_operand {α : Type} (x : Except Fault α) :
    Except.Reports call.Reported (call.operand x) := by
  cases x with
  | ok a => exact .ok a
  | error cause => exact .error (.failed (by simp) _)

theorem reports_checkCount (args : List Value) (arity : Nat) :
    Except.Reports call.Reported (call.checkCount args arity) := by
  rw [checkCount]
  split
  · exact .ok _
  · exact .error (.failed (by simp) _)

theorem reports_metadataValue (w : World) (name : String) (e : Entry) :
    Except.Reports call.Reported (call.metadataValue w name e) := by
  rw [metadataValue]
  split
  · exact .ok _
  · exact .error (.metadata name _)

theorem reports_hasValue (w : World) (name value : String) (e : Entry) :
    Except.Reports call.Reported (call.hasValue w name value e) :=
  .bind (reports_metadataValue w name e) fun _ => .ok _

section Entries

variable {p : Diagnostic → Prop}

theorem reports_keep {test : Entry → Except Diagnostic Bool} (h : ∀ e, Except.Reports p (test e)) :
    ∀ entries, Except.Reports p (keep test entries)
  | [] => .ok _
  | e :: rest => .bind (h e) fun _ => .bind (reports_keep h rest) fun _ => .ok _

theorem reports_anyPasses {test : Entry → Except Diagnostic Bool}
    (h : ∀ e, Except.Reports p (test e)) : ∀ entries, Except.Reports p (anyPasses test entries)
  | [] => .ok _
  | e :: rest => .bind (h e) fun passes => by
    cases passes with
    | true => exact .ok _
    | false => exact reports_anyPasses h rest

theorem reports_replaceEach {f : Entry → Except Diagnostic (List Entry)}
    (h : ∀ e, Except.Reports p (f e)) : ∀ entries, Except.Reports p (replaceEach f entries)
  | [] => .ok _
  | e :: rest => .bind (h e) fun _ => .bind (reports_replaceEach h rest) fun _ => .ok _

end Entries

theorem reports_memberOf (s : Setting) (w : World) (f : Function) (args : List Value) (e : Entry) :
    Except.Reports call.Reported (call.memberOf s w f args e) := by
  rw [memberOf]
  split
  · exact .ok _
  · rename_i cause _
    exact .error (.failed cause.kind_ne _)

theorem reports_resolve (args : List Value) :
    Except.Reports call.Reported (call.resolve args) := by
  unfold resolve
  split
  · exact .ok _
  · exact .error (.failed (by simp) _)

/-- What an item function reports. -/
theorem reports_run (s : Setting) (w : World) (args : List Value) (entries : List Entry) :
    Except.Reports call.Reported (call.run s w args entries) := by
  have hcount (arity : Nat) : Except.Reports call.Reported (call.checkCount args arity) :=
    reports_checkCount args arity
  unfold run
  cases ItemFunction.ofName call.name with
  | count | reverse | combine | clearMetadata =>
    exact .bind (hcount _) fun _ => .ok _
  | distinct caseMatters =>
    exact .bind (hcount _) fun _ => by cases caseMatters <;> exact .ok _
  | metadata =>
    refine .bind (hcount _) fun _ => reports_replaceEach (fun e => ?_) _
    refine .bind (reports_metadataValue w _ e) fun value => ?_
    split <;> exact .ok _
  | directoryName =>
    exact .bind (hcount _) fun _ => reports_replaceEach (fun e =>
      .bind (reports_operand _) fun _ => .ok _) _
  | existing =>
    exact .bind (hcount _) fun _ => reports_keep (fun e =>
      .bind (reports_operand _) fun _ => .ok _) _
  | directoriesAbove =>
    refine .bind (hcount _) fun _ => .bind (reports_replaceEach (fun e => ?_) _) fun _ => .ok _
    exact .bind (reports_operand _) fun _ => .ok _
  | anyHaveMetadataValue =>
    exact .bind (hcount _) fun _ =>
      .bind (reports_anyPasses (reports_hasValue w _ _) _) fun _ => .ok _
  | hasMetadata =>
    exact .bind (hcount _) fun _ => reports_keep (fun e =>
      .bind (reports_metadataValue w _ e) fun _ => .ok _) _
  | metadataValue wanted =>
    exact .bind (hcount _) fun _ => reports_keep (fun e =>
      .bind (reports_hasValue w _ _ e) fun _ => .ok _) _
  | reserved name =>
    exact .bind (hcount _) fun _ => reports_replaceEach (fun e =>
      .bind (reports_operand _) fun _ => .ok _) _
  | member =>
    exact .bind (reports_resolve args) fun f => reports_replaceEach (reports_memberOf s w f args) _

end ItemCall

/-! ## Trees -/

/-- A property of all reports about the good nodes of a tree. -/
structure TreeNode.Permits (good : TreeNode → Prop) (p : Diagnostic → Prop) : Prop where
  property {ref : Property} : good (.property ref) → ∀ d, ref.Reported d → p d
  /-- Only reported of chains on a type that do not go on with a name. -/
  memberMissing {span type : Span} {accesses : List Access} :
    good (.property (.chain span (.type type) accesses)) →
    accesses.head?.any Access.isNamed = false → p (memberMissing span.text)
  metadata {ref : MetadataRef} : good (.metadata ref) → ∀ cause,
    p (metadataFailed ref.span.text ref.name.text cause)
  stage {list : ItemList} {span name : Span} {arguments : List Argument} : good (.items list) →
    good (.transform (.function span name arguments)) → ∀ d, (list.call span name).Reported d → p d

/-- What all reports about good nodes have in common holds of all that an evaluation reports. -/
theorem Setting.related_reports {good : TreeNode → Prop} {p : Diagnostic → Prop}
    (h : TreeNode.Permits good p) (s : Setting) :
    s.Related (fun _ f _ => f.Reports p) good s where
  toSequenced := Reports.sequenced p
  property _ _ := rfl
  shownValue _ := rfl
  shownEntries _ := rfl
  entries _ := rfl
  registryValue hgood := (reports_registryValue (.registry _ _) _).mono (h.property hgood)
  metadataValue hgood item := (reports_metadataValue item _).mono fun d hd => by
    obtain ⟨cause, rfl⟩ := hd
    exact h.metadata hgood cause
  callStatic hgood type member args := (reports_callStatic _ type member args).mono
    (h.property hgood)
  callMember hgood receiver member args := (reports_callMember _ receiver member args).mono
    (h.property hgood)
  notIndexed hgood v := .throw (h.property hgood _ (.notIndexed v))
  memberMissing hgood hmissing := .throw (h.memberMissing hgood hmissing)
  run hlist hstage args entries := .look fun w =>
    (ItemCall.reports_run s w args entries).mono (h.stage hlist hstage)

end BuildExpr
