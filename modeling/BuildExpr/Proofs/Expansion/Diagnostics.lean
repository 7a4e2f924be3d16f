import BuildExpr.Proofs.Evaluation.Reports
import BuildExpr.Proofs.Expansion.Cutter
import BuildExpr.Proofs.Expansion.Modes
import BuildExpr.Proofs.Expression.Faults

/-!
# The reports of failed expansions

However an expansion fails, its report is of one form (`Expander.diagnostic_of_run`): it is placed
where the expander is, it quotes a part of the text, and its kind is one that its code stands for.
Before it is placed, every report is `About` the text: those of texts that are not well formed and,
since all nodes of a tree are parts of its text, those of evaluations. The pieces of a text that
become items one by one are parts of it in turn (`Expander.infix_of_mem_pieces`).
-/

namespace BuildExpr

/-! ## Reports about a text -/

namespace Diagnostic

/-- The kinds of failures with the codes that they are reported under. -/
def documented : List (Kind × String) :=
  [(.malformed, "MSB4184"), (.unresolved, "MSB4184"), (.operand, "MSB4184"),
    (.unresolved, "MSB4185"), (.unresolved, "MSB4212"),
    (.malformed, "MSB4186"), (.malformed, "MSB4012"),
    (.unresolved, "MSB4198"), (.operand, "MSB4198"), (.operand, "MSB4023")]

/-- A report about a part of a text that has not been placed yet. -/
structure About (cs : List Char) (d : Diagnostic) : Prop where
  unplaced : d.location = none
  part : d.expression.toList <:+: cs
  listed : (d.kind, d.code.text) ∈ documented

/-- A report about a part of a text at a place. -/
structure AboutAt (location : Option Location) (cs : List Char) (d : Diagnostic) : Prop where
  placed : d.location = location
  part : d.expression.toList <:+: cs
  listed : (d.kind, d.code.text) ∈ documented

theorem About.at? {cs : List Char} {d : Diagnostic} (h : d.About cs) (location : Option Location) :
    (d.at? location).AboutAt location cs where
  placed := by
    rw [Diagnostic.at?, h.unplaced]
    rfl
  part := h.part
  listed := h.listed

theorem AboutAt.mono {location : Option Location} {cs cs' : List Char} {d : Diagnostic}
    (h : d.AboutAt location cs) (hcs : cs <:+: cs') : d.AboutAt location cs' :=
  { h with part := h.part.trans hcs }

end Diagnostic

open Diagnostic

/-- Failures of each kind are reported under the code of functions. -/
theorem documented_function (kind : Kind) : (kind, Code.function.text) ∈ documented := by
  cases kind <;> decide

theorem documented_staticCall : (Kind.malformed, Code.staticCall.text) ∈ documented := by decide

theorem documented_embeddedList : (Kind.malformed, Code.embeddedList.text) ∈ documented := by
  decide

theorem documented_refusal (r : FunctionTable.Refusal) :
    (Kind.unresolved, r.code.text) ∈ documented := by
  cases r with
  | noType _ => exact (by decide : (Kind.unresolved, Code.typeNotFound.text) ∈ documented)
  | unavailable _ _ => exact (by decide : (Kind.unresolved, Code.unavailable.text) ∈ documented)
  | noMember _ _ _ => exact documented_function _

theorem documented_itemFunction {kind : Kind} (h : kind ≠ .malformed) :
    (kind, Code.itemFunction.text) ∈ documented := by
  cases kind with
  | malformed => exact absurd rfl h
  | unresolved | operand => decide

theorem Malformed.about {m : Malformed} {cs : List Char} (h : m.expression.toList <:+: cs) :
    m.diagnostic.About cs := by
  rw [diagnostic]
  split
  · exact ⟨rfl, h, documented_staticCall⟩
  · exact ⟨rfl, h, documented_function _⟩

theorem Property.Reported.about {ref : Property} {cs : List Char} {d : Diagnostic}
    (hd : ref.Reported d) (h : ref.span.text.toList <:+: cs) : d.About cs := by
  cases hd with
  | failure function e => exact ⟨rfl, h, documented_function _⟩
  | refusal r => exact ⟨rfl, h, documented_refusal r⟩
  | notIndexed v => exact ⟨rfl, h, documented_function _⟩

theorem about_metadataFailed {expression : String} {cs : List Char}
    (h : expression.toList <:+: cs) (name : String) (cause : Fault) :
    (metadataFailed expression name cause).About cs :=
  ⟨rfl, h, (by decide : (Kind.operand, Code.metadata.text) ∈ documented)⟩

theorem ItemCall.Reported.about {call : ItemCall} {cs : List Char} {d : Diagnostic}
    (hd : call.Reported d) (hlist : call.list.toList <:+: cs) (hstage : call.stage.toList <:+: cs) :
    d.About cs := by
  cases hd with
  | failed hkind detail => exact ⟨rfl, hlist, documented_itemFunction hkind⟩
  | metadata name cause => exact about_metadataFailed hstage name cause

/-- Every report about nodes that are parts of a text is one about the text. -/
theorem permits_about (cs : List Char) :
    TreeNode.Permits (fun n => n.span.text.toList <:+: cs) (About cs) where
  property hpart _ hd := hd.about hpart
  memberMissing hpart _ := ⟨rfl, hpart, documented_staticCall⟩
  metadata hpart cause := about_metadataFailed hpart _ cause
  stage hlist hstage _ hd := hd.about hlist hstage

namespace Expander

open Eval

/-! ## Pieces of a text -/

theorem infix_of_mem_splitOutside (s : Cutter) (piece cs : List Char) :
    ∀ part ∈ Chars.splitOutside s.depth s.quote piece cs, part <:+: piece.reverse ++ cs := by
  induction cs generalizing s piece with
  | nil =>
    intro part hpart
    obtain rfl := List.mem_singleton.1 hpart
    exact ⟨[], [], by simp⟩
  | cons c cs ih =>
    intro part hpart
    rw [Cutter.splitOutside_cons] at hpart
    split at hpart
    · rcases List.mem_cons.1 hpart with rfl | hpart
      · exact (List.prefix_append _ _).isInfix
      · have hrest : part <:+: cs := by simpa using ih (s.step c) [] part hpart
        exact hrest.trans ⟨piece.reverse ++ [c], [], by simp⟩
    · simpa using ih (s.step c) (c :: piece) part hpart

/-- The pieces of a text are parts of it. -/
theorem infix_of_mem_pieces {text piece : String} (h : piece ∈ pieces text) :
    piece.toList <:+: text.toList := by
  obtain ⟨cs, hcs, rfl⟩ := List.mem_map.1 h
  obtain ⟨part, hpart, rfl⟩ := List.mem_map.1 (List.mem_of_mem_filter hcs)
  have htrimmed : Chars.trim part <:+: part := (Rest.within_trimmed ⟨0, part⟩).isInfix
  have hsplit : part <:+: text.toList := by
    simpa using infix_of_mem_splitOutside {} [] text.toList part hpart
  rw [String.toList_ofList]
  exact htrimmed.trans hsplit

/-! ## Expansions -/

variable {x : Expander} {options : Options} {lookup : Lookup} {text : String}

theorem reports_eval_about {α : Type} {f : Setting → Eval α}
    (h : ∀ s, (f s).Reports (About text.toList)) :
    (x.eval options lookup f).Reports (AboutAt x.location text.toList) :=
  x.reports_eval options lookup h fun _ hd => hd.at? x.location

/-- All nodes of the tree of a text are parts of the text. -/
theorem everywhere_infix_of_parse {e : Expression} (he : Expression.parse options text = .ok e) :
    (TreeNode.expression e).Everywhere fun n => n.span.text.toList <:+: text.toList := by
  obtain ⟨hroot, hplaced, -⟩ := Expression.sound_parse he
  have hwithin : e.span.toRest.Within (Rest.ofText text) := by
    rw [hroot]
    exact .refl _
  exact (TreeNode.everywhere_within hplaced hwithin).mono fun _ hn => hn.isInfix

theorem reports_value {e : Expression} (he : Expression.parse options text = .ok e) :
    (x.eval options lookup fun s => evalExpression s none e).Reports
      (AboutAt x.location text.toList) :=
  reports_eval_about fun s => related_evalExpression (s.related_reports (permits_about _)) none e
    (everywhere_infix_of_parse he)

/-- What is done with the tree of a text is done with one that was read from it. -/
theorem reports_parse_bind {α : Type} {f : Expression → Eval α}
    (h : ∀ e, Expression.parse options text = .ok e →
      (f e).Reports (AboutAt x.location text.toList)) :
    (x.parse text options >>= f).Reports (AboutAt x.location text.toList) := by
  cases he : Expression.parse options text with
  | ok e =>
    rw [x.parse_of_ok options he, pure_bind]
    exact h e he
  | error m =>
    rw [parse, he]
    exact .throw ((Malformed.about (Expression.infix_of_parse he)).at? x.location)

theorem reports_expandEscaped :
    (x.expandEscaped text options lookup).Reports (AboutAt x.location text.toList) := by
  rw [expandEscaped]
  split
  · exact .pure text
  · refine reports_parse_bind fun e he => ?_
    split
    · exact .pure text
    · exact reports_value he

theorem reports_expandTyped :
    (x.expandTyped text options lookup).Reports (AboutAt x.location text.toList) := by
  rw [expandTyped]
  split
  · exact .pure _
  · refine reports_parse_bind fun e he => reports_eval_about fun s => ?_
    exact related_evalOutcome (s.related_reports (permits_about _)) (everywhere_infix_of_parse he)

theorem reports_expandPiece (factory : ItemFactory) (piece : String) :
    (x.expandPiece piece options lookup factory).Reports (AboutAt x.location piece.toList) := by
  rw [expandPiece]
  refine reports_parse_bind fun e he => ?_
  have hasText : (if e.isLiteral then return x.itemsOfText factory piece
      else do
        return x.itemsOfText factory
          (← x.eval options lookup fun s => evalExpression s none e) : Eval (List Item)).Reports
      (AboutAt x.location piece.toList) := by
    split
    · exact .pure _
    · exact (reports_value he).bind fun _ => .pure _
  dsimp only
  split
  · rename_i list hlist
    split
    · exact hasText
    · refine (reports_eval_about fun s => ?_).bind fun _ => .pure _
      refine related_evalEntries (s.related_reports (permits_about _)) ?_
      refine (everywhere_infix_of_parse he).child ?_
      simp [TreeNode.children, Expression.eq_of_singleItems? hlist, Segment.node]
  · split
    · have habout : (embeddedList piece).About piece.toList :=
        ⟨rfl, List.infix_refl _, documented_embeddedList⟩
      exact .throw (habout.at? x.location)
    · exact hasText

theorem reports_expandItems (factory : ItemFactory) :
    (x.expandItems text options lookup factory).Reports (AboutAt x.location text.toList) := by
  refine (Eval.Reports.mapM fun piece hpiece => ?_).bind fun _ => .pure _
  exact (reports_expandPiece factory piece).mono fun _ hd => hd.mono (infix_of_mem_pieces hpiece)

theorem reports_run : ∀ mode : Mode,
    (x.run text options lookup mode).Reports (AboutAt x.location text.toList)
  | .text => reports_expandEscaped.bind fun _ => .pure _
  | .escaped => reports_expandEscaped
  | .list => reports_expandEscaped.bind fun _ => .pure _
  | .typed => reports_expandTyped
  | .items factory => reports_expandItems factory

/-- **The report of a failed expansion is well formed.** In whatever way a text is expanded, it is
placed where the expander is, quotes a part of the text, and has a kind that goes with its code. -/
theorem diagnostic_of_run {mode : Mode} {d : Diagnostic} {w w' : World}
    (h : (x.run text options lookup mode).result w = (.error d, w')) :
    d.location = x.location ∧ d.expression.toList <:+: text.toList ∧
      (d.kind, d.code.text) ∈ documented := by
  obtain ⟨hplaced, hpart, hlisted⟩ := reports_run mode w d (by rw [h])
  exact ⟨hplaced, hpart, hlisted⟩

/-- The second piece of a list fails in an argument of an argument. -/
theorem diagnostic_of_run_of_piece :
    ∃ d w', (({ location := some { file := "a.proj", line := 3 } } : Expander).run
        "x.c;$([Math]::Abs($([Nope]::F(2))))" .all {} (.items {})).result .bare = (.error d, w') ∧
      d.location = some { file := "a.proj", line := 3 } ∧
      d.expression.toList <:+: "x.c;$([Math]::Abs($([Nope]::F(2))))".toList ∧
      (d.kind, d.code.text) ∈ documented ∧
      (d.kind, d.code.text, d.expression) = (.unresolved, "MSB4212", "$([Nope]::F(2))") := by
  have hfails : (match ((({ location := some { file := "a.proj", line := 3 } } : Expander).run
      "x.c;$([Math]::Abs($([Nope]::F(2))))" .all {} (.items {})).result .bare).1 with
        | .ok _ => none
        | .error d => some (d.kind, d.code.text, d.expression)) =
      some (.unresolved, "MSB4212", "$([Nope]::F(2))") := by
    decide +kernel
  cases hresult : (({ location := some { file := "a.proj", line := 3 } } : Expander).run
      "x.c;$([Math]::Abs($([Nope]::F(2))))" .all {} (.items {})).result .bare with
  | mk answer w' =>
    rw [hresult] at hfails
    cases answer with
    | ok items => cases hfails
    | error d =>
      obtain ⟨hplaced, hpart, hlisted⟩ := diagnostic_of_run hresult
      exact ⟨d, w', rfl, hplaced, hpart, hlisted, Option.some.inj hfails⟩

end Expander

end BuildExpr
