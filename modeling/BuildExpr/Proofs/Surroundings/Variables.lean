import BuildExpr.Proofs.Evaluation.Answers
import BuildExpr.Proofs.Source.Closing

/-!
# References to environment variables

A text with references `%NAME%` is gone through once, in rounds that each end behind a reference or
behind a percent sign that begins none (`Variables.round?`). What a round puts out and what it
leaves make up the expansion as before, and every round leaves fewer percent signs
(`Variables.step_round?`), so the rounds come to an end with the expansion of the text
(`Variables.exists_rounds`).

References to variables that are set are replaced, whatever stands in the values
(`Variables.expandFrom_references`), and a text without them stays as it is
(`Variables.expandFrom_of_unset`).
-/

namespace BuildExpr

namespace Variables

variable {vars : Variables} {plain name rest : List Char}

/-! ## Parts of a text -/

/-- What stands for a reference `%NAME%`: the value of the variable, or the reference itself when
the variable is not set. -/
def written (vars : Variables) (name : List Char) : List Char :=
  match vars.get? (String.ofList name) with
  | some value => value.toList
  | none => '%' :: name ++ ['%']

/-- Text without percent signs stays as it is. -/
theorem expandFrom_plain (h : '%' ∉ plain) (rest : List Char) :
    vars.expandFrom (plain ++ rest) = plain ++ vars.expandFrom rest := by
  induction plain with
  | nil => rfl
  | cons c plain ih =>
    obtain ⟨hc, hplain⟩ := not_or.1 (mt List.mem_cons.2 h)
    rw [List.cons_append, expandFrom, if_pos (by simpa using Ne.symm hc), ih hplain,
      List.cons_append]

theorem expandFrom_of_not_mem (h : '%' ∉ plain) : vars.expandFrom plain = plain := by
  have hnil : vars.expandFrom [] = [] := by rw [expandFrom]
  simpa [hnil] using vars.expandFrom_plain h []

/-- A reference is replaced, and what follows it is gone through by itself. -/
theorem expandFrom_reference (hne : name ≠ []) (h : '%' ∉ name) (rest : List Char) :
    vars.expandFrom ('%' :: (name ++ '%' :: rest)) = vars.written name ++ vars.expandFrom rest := by
  obtain ⟨n, name, rfl⟩ := List.exists_cons_of_ne_nil hne
  rw [expandFrom, if_neg (by simp), written]
  split
  · rename_i hcut
    rw [Chars.cut?_append_of_not_mem h] at hcut
    cases hcut
  · rename_i hcut
    rw [Chars.cut?_append_of_not_mem h] at hcut
    cases hcut
  · rename_i hcut
    rw [Chars.cut?_append_of_not_mem h] at hcut
    obtain ⟨hname, rfl⟩ := Prod.mk.inj (Option.some.inj hcut)
    obtain ⟨rfl, rfl⟩ := List.cons.inj hname
    cases vars.get? (String.ofList (n :: name)) <;> simp

/-- A percent sign begins no reference when the next one follows at once or there is none. -/
def Lone (rest : List Char) : Prop := '%' ∉ rest ∨ rest.head? = some '%'

/-- A percent sign that begins no reference stays, and what follows it is gone through. -/
theorem expandFrom_lone (h : Lone rest) :
    vars.expandFrom ('%' :: rest) = '%' :: vars.expandFrom rest := by
  rw [expandFrom, if_neg (by simp)]
  split
  · rfl
  · rfl
  · rename_i n name after hcut
    rcases h with hnone | hhead
    · rw [Chars.cut?_eq_none.2 hnone] at hcut
      cases hcut
    · obtain ⟨more, rfl⟩ := List.head?_eq_some_iff.1 hhead
      simp [Chars.cut?] at hcut

/-- From a percent sign on a text is one of these. -/
theorem lone_or_reference (rest : List Char) :
    Lone rest ∨ ∃ name more, name ≠ [] ∧ '%' ∉ name ∧ rest = name ++ '%' :: more := by
  cases hcut : Chars.cut? '%' rest with
  | none => exact .inl (.inl (Chars.cut?_eq_none.1 hcut))
  | some parts =>
    obtain ⟨name, more⟩ := parts
    obtain rfl := Chars.eq_of_cut?_eq_some hcut
    by_cases hne : name = []
    · subst hne
      exact .inl (.inr rfl)
    · exact .inr ⟨name, more, hne, Chars.not_mem_of_cut?_eq_some hcut, rfl⟩

/-! ## Rounds -/

/-- How far an expansion has come: what is put out, and what is still to be gone through. -/
structure Progress where
  out : List Char
  rest : List Char

/-- One round of an expansion. Text up to the next percent sign is put out, and behind it what
stands for the reference that begins there, or the percent sign alone when none does. There is no
round when no percent sign is left. -/
def round? (vars : Variables) (p : Progress) : Option Progress :=
  (Chars.cut? '%' p.rest).map fun (plain, after) =>
    match Chars.cut? '%' after with
    | some (n :: name, more) => ⟨p.out ++ plain ++ vars.written (n :: name), more⟩
    | _ => ⟨p.out ++ plain ++ ['%'], after⟩

/-- A number of rounds that lead from one point of an expansion to another. -/
inductive Rounds (vars : Variables) : ℕ → Progress → Progress → Prop
  | none (p : Progress) : Rounds vars 0 p p
  | more {n : ℕ} {p next last : Progress} (round : vars.round? p = some next)
    (rounds : Rounds vars n next last) : Rounds vars (n + 1) p last

/-- What is put out in the end, when `p` is reached. -/
def Progress.expansion (vars : Variables) (p : Progress) : List Char :=
  p.out ++ vars.expandFrom p.rest

variable {p next last : Progress} {n : ℕ}

theorem round?_eq_none : vars.round? p = none ↔ '%' ∉ p.rest := by
  rw [round?, Option.map_eq_none_iff, Chars.cut?_eq_none]

/-- A round neither loses nor adds anything, and takes a percent sign at least. -/
theorem step_round? (h : vars.round? p = some next) :
    next.expansion vars = p.expansion vars ∧ next.rest.count '%' < p.rest.count '%' := by
  obtain ⟨⟨plain, after⟩, hcut, hnext⟩ := Option.map_eq_some_iff.1 h
  obtain ⟨out, rest⟩ := p
  obtain rfl : rest = plain ++ '%' :: after := Chars.eq_of_cut?_eq_some hcut
  have hplain := Chars.not_mem_of_cut?_eq_some hcut
  dsimp only at hnext
  rcases lone_or_reference after with hlone | ⟨name, more, hne, hname, rfl⟩
  · have hnext : (⟨out ++ plain ++ ['%'], after⟩ : Progress) = next := by
      rcases hlone with hnone | hhead
      · rwa [Chars.cut?_eq_none.2 hnone] at hnext
      · obtain ⟨more, rfl⟩ := List.head?_eq_some_iff.1 hhead
        simpa [Chars.cut?] using hnext
    subst hnext
    constructor
    · simp [Progress.expansion, expandFrom_plain hplain, expandFrom_lone hlone]
    · simp only [List.count_append, List.count_cons_self]
      omega
  · obtain ⟨c, cs, rfl⟩ := List.exists_cons_of_ne_nil hne
    rw [Chars.cut?_append_of_not_mem hname] at hnext
    subst hnext
    constructor
    · simp only [Progress.expansion, expandFrom_plain hplain, expandFrom_reference hne hname,
        List.append_assoc]
    · simp only [List.count_append, List.count_cons_self]
      omega

theorem step_rounds (h : vars.Rounds n p last) :
    last.expansion vars = p.expansion vars ∧ n + last.rest.count '%' ≤ p.rest.count '%' := by
  induction h with
  | none p => exact ⟨rfl, by omega⟩
  | more round _ ih =>
    obtain ⟨hround, hfewer⟩ := step_round? round
    obtain ⟨hrounds, hcount⟩ := ih
    exact ⟨hrounds.trans hround, by omega⟩

/-- The rounds come to an end. -/
theorem exists_rounds (vars : Variables) (p : Progress) :
    ∃ n last, vars.Rounds n p last ∧ vars.round? last = none := by
  induction hcount : p.rest.count '%' using Nat.strongRecOn generalizing p with
  | ind count ih =>
    cases hround : vars.round? p with
    | none => exact ⟨0, p, .none p, hround⟩
    | some next =>
      obtain ⟨n, last, hrounds, hend⟩ := ih _ (hcount ▸ (step_round? hround).2) next rfl
      exact ⟨n + 1, last, .more hround hrounds, hend⟩

/-- At the end everything is put out. -/
theorem expansion_of_round?_eq_none (h : vars.round? last = none) :
    last.expansion vars = last.out ++ last.rest := by
  rw [Progress.expansion, expandFrom_of_not_mem (round?_eq_none.1 h)]

/-! ## Texts with and without references -/

/-- Whether no text between a percent sign and the next one is the name of a variable. -/
def Unset (vars : Variables) (cs : List Char) : Prop :=
  ∀ before name after, cs = before ++ '%' :: name ++ '%' :: after → name ≠ [] → '%' ∉ name →
    vars.get? (String.ofList name) = none

theorem Unset.of_append (front : List Char) {cs : List Char} (h : vars.Unset (front ++ cs)) :
    vars.Unset cs := by
  rintro before name after rfl
  exact h (front ++ before) name after (by simp)

/-- Without references to variables that are set a text stays as it is. -/
theorem expandFrom_of_unset {cs : List Char} (h : vars.Unset cs) : vars.expandFrom cs = cs := by
  induction hlength : cs.length using Nat.strongRecOn generalizing cs with
  | ind length ih =>
    by_cases hmem : '%' ∈ cs
    · obtain ⟨plain, after, rfl, hplain⟩ := List.eq_append_cons_of_mem hmem
      rw [expandFrom_plain hplain]
      congr 1
      rcases lone_or_reference after with hlone | ⟨name, more, hne, hname, rfl⟩
      · have hafter : vars.Unset after := .of_append (plain ++ ['%']) (by simpa using h)
        rw [expandFrom_lone hlone, ih after.length (by simp [← hlength]; omega) hafter rfl]
      · have hunset : vars.get? (String.ofList name) = none :=
          h plain name more (by simp) hne hname
        have hmore : vars.Unset more :=
          .of_append (plain ++ '%' :: name ++ ['%']) (by simpa using h)
        rw [expandFrom_reference hne hname,
          ih more.length (by simp [← hlength]; omega) hmore rfl, written, hunset]
        simp
    · exact expandFrom_of_not_mem hmem

/-- A reference to a variable that is set, with the text up to the next one. -/
structure Reference (vars : Variables) where
  name : List Char
  value : String
  more : List Char
  name_ne_nil : name ≠ []
  percent_not_mem_name : '%' ∉ name
  set : vars.get? (String.ofList name) = some value
  percent_not_mem_more : '%' ∉ more

namespace Reference

/-- A reference as it is written. -/
def text (r : vars.Reference) : List Char := '%' :: (r.name ++ '%' :: r.more)

/-- A reference with the value in its place. -/
def replaced (r : vars.Reference) : List Char := r.value.toList ++ r.more

end Reference

/-- The values stand in the place of references, and all between them stays. -/
theorem expandFrom_references (h : '%' ∉ plain) (refs : List vars.Reference) :
    vars.expandFrom (plain ++ refs.flatMap Reference.text) =
      plain ++ refs.flatMap Reference.replaced := by
  induction refs generalizing plain with
  | nil => simpa using expandFrom_of_not_mem h
  | cons r refs ih =>
    have htext : (r :: refs).flatMap Reference.text =
        '%' :: (r.name ++ '%' :: (r.more ++ refs.flatMap Reference.text)) := by
      simp [Reference.text]
    rw [htext, expandFrom_plain h, expandFrom_reference r.name_ne_nil r.percent_not_mem_name,
      ih r.percent_not_mem_more, written, r.set]
    simp [Reference.replaced]

/-! ## The function -/

/-- The function on a text gives its expansion by the variables of the surroundings. -/
theorem result_expandEnvironmentVariables (s : Setting) (expression text : String) (w : World) :
    (s.callStatic expression "System.Environment" "ExpandEnvironmentVariables"
      [.text text]).result w = (.ok (.text (w.vars.expand text)), w) := by
  have hfound : FunctionTable.resolveStatic false "System.Environment"
      "ExpandEnvironmentVariables" 1 = .ok (.reading "system.environment"
        "expandenvironmentvariables" 1 1 EnvironmentFunctions.expandVariables) :=
    FunctionTable.resolveStatic_of_find (by rfl : _ = "system.environment")
      (by rfl : _ = "expandenvironmentvariables") rfl rfl
  have hrun : (Function.reading "system.environment" "expandenvironmentvariables" 1 1
      EnvironmentFunctions.expandVariables).run (s.context w) [.text text] =
        (.ok (.text (w.vars.expand text)), w) := rfl
  rw [Setting.callStatic, List.length_singleton, FunctionTable.resolveStatic_of_closed hfound]
  simp only [Setting.apply, Eval.result_get_bind, hrun, Eval.result_set_bind]
  rfl

/-- An expansion comes to an end on every text, after one round at most for each percent sign. It
leaves a text as it is in which no text from a percent sign to the next one is the name of a
variable. References to variables that are set, with any text between them that has no percent
signs, are replaced by the values, which are not gone through again. -/
theorem references_replaced (vars : Variables) :
    (∀ text : String, ∃ n last, n ≤ text.toList.count '%' ∧
      vars.Rounds n ⟨[], text.toList⟩ last ∧ vars.round? last = none ∧
      vars.expand text = String.ofList (last.out ++ last.rest)) ∧
    (∀ text : String, vars.Unset text.toList → vars.expand text = text) ∧
    (∀ (first : List Char) (refs : List vars.Reference), '%' ∉ first →
      vars.expand (String.ofList (first ++ refs.flatMap Reference.text)) =
        String.ofList (first ++ refs.flatMap Reference.replaced)) ∧
    ∀ (s : Setting) (expression text : String) (w : World), w.vars = vars →
      (s.callStatic expression "System.Environment" "ExpandEnvironmentVariables"
        [.text text]).result w = (.ok (.text (vars.expand text)), w) := by
  refine ⟨fun text => ?_, fun text hunset => ?_, fun first refs hfirst => ?_, ?_⟩
  · obtain ⟨n, last, hrounds, hend⟩ := vars.exists_rounds ⟨[], text.toList⟩
    obtain ⟨hexpansion, hcount⟩ := step_rounds hrounds
    have hexpanded : last.out ++ last.rest = vars.expandFrom text.toList := by
      rw [← expansion_of_round?_eq_none hend, hexpansion]
      rfl
    exact ⟨n, last, Nat.le_of_add_right_le hcount, hrounds, hend, by rw [expand, hexpanded]⟩
  · rw [expand, expandFrom_of_unset hunset, String.ofList_toList]
  · rw [expand, String.toList_ofList, expandFrom_references hfirst]
  · rintro s expression text w rfl
    exact result_expandEnvironmentVariables s expression text w

/-- A value with a reference in it is put in as it is, next to references, lone percent signs and a
name that is not set. -/
theorem references_replaced_of_percent_signs :
    let vars : Variables := [("A", "x%B%"), ("B", "y")]
    vars.expand "a%A%%B%b" = "ax%B%yb" ∧ vars.expand "50%%, %C% %" = "50%%, %C% %" ∧
      (∃ n last, n ≤ 4 ∧ vars.Rounds n ⟨[], "%%A%C%".toList⟩ last ∧ vars.round? last = none ∧
        vars.expand "%%A%C%" = String.ofList (last.out ++ last.rest)) ∧
      ∀ (s : Setting) (w : World), w.vars = vars →
        (s.callStatic "" "System.Environment" "ExpandEnvironmentVariables"
          [.text "a%A%%B%b"]).result w = (.ok (.text "ax%B%yb"), w) := by
  intro vars
  obtain ⟨hrounds, hunset, hreplaced, hcall⟩ := references_replaced vars
  let refs : List vars.Reference :=
    [⟨['A'], "x%B%", [], by decide, by decide, rfl, by decide⟩,
      ⟨['B'], "y", ['b'], by decide, by decide, rfl, by decide⟩]
  have htext : vars.expand "a%A%%B%b" = "ax%B%yb" := by
    have hwritten : String.ofList (['a'] ++ refs.flatMap Reference.text) = "a%A%%B%b" := by decide
    have hvalues : String.ofList (['a'] ++ refs.flatMap Reference.replaced) = "ax%B%yb" := by decide
    rw [← hwritten, ← hvalues]
    exact hreplaced ['a'] refs (by decide)
  refine ⟨htext, hunset _ ?_, hrounds "%%A%C%", fun s w hw => ?_⟩
  · intro before name after htext hne _
    have hmem : ∀ c ∈ name, c ∈ "50%%, %C% %".toList := fun c hc => by simp [htext, hc]
    have hnames : ∀ entry ∈ vars, ∃ c ∈ entry.1.toList, c ∉ "50%%, %C% %".toList := by
      intro entry hentry
      rcases List.mem_pair.1 hentry with rfl | rfl
      · exact ⟨'A', by decide, by decide⟩
      · exact ⟨'B', by decide, by decide⟩
    rw [get?, Option.map_eq_none_iff, List.find?_eq_none]
    intro entry hentry heq
    obtain ⟨c, hc, hnot⟩ := hnames entry hentry
    rw [beq_iff_eq.1 heq, String.toList_ofList] at hc
    exact hnot (hmem c hc)
  · rw [hcall s "" "a%A%%B%b" w hw, htext]

end Variables

end BuildExpr
