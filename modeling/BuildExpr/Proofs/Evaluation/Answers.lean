import BuildExpr.Proofs.Evaluation.Result
import BuildExpr.Proofs.Except

/-!
# What functions answer

`FunctionTable.Answers type member args a` says that in every evaluation the call of a static
function ends with the value or the failure `a` and leaves the surroundings as they are. A function
of the closed table that depends on nothing but its arguments answers them with what it is defined
to give (`FunctionTable.answers_of_resolve`), and it has no other answer
(`FunctionTable.Answers.unique`). `FunctionTable.MemberAnswers receiver member args a` says the same
of the members of a value, which get that value as their first argument.

What an argument asks for does not depend on where it stands among the arguments
(`Arguments.flags_of_value_eq`).
-/

namespace BuildExpr

namespace FunctionTable

variable {type member : String} {receiver : Value} {args : List Value} {a : Answer Value}
  {key name : String} {least most : ℕ} {run : List Value → Answer Value}

/-- A function that depends on nothing but its arguments gives what it is defined to give. -/
theorem result_apply_pure (s : Setting) (args : List Value) (report : Failure → Diagnostic)
    (w : World) :
    (s.apply (.pure key name least most run) args report).result w =
      ((run args).mapError report, w) := by
  have hrun : (Function.pure key name least most run).run (s.context w) args = (run args, w) := rfl
  unfold Setting.apply
  simp only [Eval.result_get_bind, hrun, Eval.result_set_bind]
  cases run args <;> rfl

/-- A report of a failure is not a value. -/
theorem eq_ok_of_result_eq {b : Answer Value} {v : Value} {report : Failure → Diagnostic}
    {w : World} (h : (b.mapError report, w) = ((.ok v : Answer Value).mapError report, w)) :
    b = .ok v := by
  have hsame := congrArg Prod.fst h
  cases b with
  | ok u => exact congrArg Except.ok (Except.ok.inj hsame)
  | error e => cases hsame

/-! ## Static functions -/

/-- In every evaluation the call of a static function gives a value, or the report of a failure, and
leaves the surroundings as they are. -/
def Answers (type member : String) (args : List Value) (a : Answer Value) : Prop :=
  ∀ (s : Setting) (expression : String) (w : World),
    (s.callStatic expression type member args).result w =
      (a.mapError (Failure.diagnostic expression ("[" ++ Text.trim type ++ "]::" ++ member)), w)

theorem answers_of_resolve
    (h : resolveStatic false type member args.length = .ok (.pure key name least most run)) :
    Answers type member args (run args) := by
  intro s expression w
  rw [Setting.callStatic, resolveStatic_of_closed h]
  exact result_apply_pure s args _ w

/-- A function that is found under a type and a name of the table. -/
theorem resolveStatic_of_find {f : Function} {count : ℕ}
    (htype : typeKey type = key) (hmember : memberKey member = name)
    (hfind : find? statics key name = some f) (hcount : f.accepts count = true) :
    resolveStatic false type member count = .ok f := by
  rw [resolveStatic_eq_ok, htype, hmember]
  exact ⟨hfind, hcount⟩

/-- A call that gives a value gives no other one, and no failure. -/
theorem Answers.unique {b : Answer Value} {v : Value} (h : Answers type member args (.ok v))
    (h' : Answers type member args b) : b = .ok v := by
  have hsame := h' { lookup := default } "" World.bare
  rw [h] at hsame
  exact eq_ok_of_result_eq hsame.symm

/-! ## Members of values -/

/-- In every evaluation the call of a member of a value gives a value, or the report of a failure,
and leaves the surroundings as they are. -/
def MemberAnswers (receiver : Value) (member : String) (args : List Value) (a : Answer Value) :
    Prop :=
  ∀ (s : Setting) (expression : String) (w : World),
    (s.callMember expression receiver member args).result w =
      (a.mapError (Failure.diagnostic expression (receiver.typeName ++ "." ++ member)), w)

/-- A member that is found under the type of the value and a name of the table. -/
theorem memberAnswers_of_find (htype : Text.foldAscii receiver.typeName = key)
    (hname : memberKey member = name)
    (hfind : find? members key name = some (.pure key name least most run))
    (hcount : (Function.pure key name least most run).accepts args.length = true) :
    MemberAnswers receiver member args (run (receiver :: args)) := by
  intro s expression w
  have hfound : resolveMember receiver member args.length =
      .ok (.pure key name least most run) := by
    rw [resolveMember_eq_ok, htype, hname]
    exact ⟨hfind, hcount⟩
  rw [Setting.callMember, hfound]
  exact result_apply_pure s (receiver :: args) _ w

/-- A member that gives a value gives no other one, and no failure. -/
theorem MemberAnswers.unique {b : Answer Value} {v : Value}
    (h : MemberAnswers receiver member args (.ok v)) (h' : MemberAnswers receiver member args b) :
    b = .ok v := by
  have hsame := h' { lookup := default } "" World.bare
  rw [h] at hsame
  exact eq_ok_of_result_eq hsame.symm

/-- A member refuses the operands that it gets. -/
def MemberRefuses (receiver : Value) (member : String) (args : List Value) : Prop :=
  ∃ e : Failure, e.kind = .operand ∧ MemberAnswers receiver member args (.error e)

theorem MemberRefuses.of_refuse {cause : Fault}
    (h : MemberAnswers receiver member args (Answer.refuse cause)) :
    MemberRefuses receiver member args :=
  ⟨.fault cause, rfl, h⟩

end FunctionTable

namespace Arguments

variable {args others : List Value} {i j bits : ℕ} {n : Int64} {set : FlagSet}

theorem integer_of_integer? (h : integer? (value args i) = some n) : integer args i = .ok n := by
  rw [integer, h, wants]

theorem flags_of_value_eq (hvalue : value args i = value others j)
    (h : flags others j set = .ok bits) : flags args i set = .ok bits := by
  rw [flags] at h ⊢
  rw [hvalue]
  split at h
  · split at h
    · rename_i hbits
      rw [if_pos hbits]
      exact h
    · cases h
  · refine Except.foldlM_eq_ok_of_steps (fun b part b' hpart => ?_) h
    split at hpart
    · exact hpart
    · cases hpart
  · cases h

end Arguments

namespace TextFunctions

open Arguments

variable {args others : List Value} {i j : ℕ} {ignores : Bool}

theorem ignoreCase_of_value_eq (hi : i < args.length) (hj : j < others.length)
    (hvalue : value args i = value others j) (h : ignoreCase others j = .ok ignores) :
    ignoreCase args i = .ok ignores := by
  have hgiven {as : List Value} {k : ℕ} (hk : k < as.length) : ¬ (!isGiven as k) = true := by
    simpa [isGiven] using hk
  rw [ignoreCase, if_neg (hgiven hj)] at h
  rw [ignoreCase, if_neg (hgiven hi), hvalue]
  split at h
  · exact h
  · obtain ⟨bits, hbits, hodd⟩ := Except.bind_eq_ok.1 h
    exact Except.bind_eq_ok.2 ⟨bits, flags_of_value_eq hvalue hbits, hodd⟩

end TextFunctions

end BuildExpr
