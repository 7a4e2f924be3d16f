import BuildExpr.Surroundings.Files

/-!
# Surroundings

All that an expression can see beside its text, properties and items: environment variables,
the current directory, files, the clock and the machine. Only functions of the extended table
change any of it.
-/

namespace BuildExpr

/-- Environment variables; no name is set twice. -/
abbrev Variables := List (String × String)

namespace Variables

/-- The value of a variable. -/
def get? (vars : Variables) (name : String) : Option String :=
  (vars.find? fun (n, _) => n == name).map Prod.snd

/-- The variables without one. -/
def unset (vars : Variables) (name : String) : Variables := vars.filter fun (n, _) => n != name

/-- The variables with one set. -/
def set (vars : Variables) (name value : String) : Variables := vars.unset name ++ [(name, value)]

/-- Replaces `%NAME%` by the value of the variable. A name that is not set stays as it is
written, and values are not looked through again. -/
def expandFrom (vars : Variables) (cs : List Char) : List Char :=
  match cs with
  | [] => []
  | c :: rest =>
    if c != '%' then c :: expandFrom vars rest
    else
      match _h : Chars.cut? '%' rest with
      | none => c :: expandFrom vars rest
      | some ([], _) => c :: expandFrom vars rest
      | some (n :: name, after) =>
        match vars.get? (String.ofList (n :: name)) with
        | some value => value.toList ++ expandFrom vars after
        | none => '%' :: n :: name ++ '%' :: expandFrom vars after
  termination_by cs.length
  decreasing_by
    · simp
    · simp
    · simp
    · have := congrArg List.length (Chars.eq_of_cut?_eq_some _h)
      simp at this ⊢
      omega
    · have := congrArg List.length (Chars.eq_of_cut?_eq_some _h)
      simp at this ⊢
      omega

/-- A text with the references `%NAME%` to variables replaced. -/
def expand (vars : Variables) (s : String) : String := String.ofList (vars.expandFrom s.toList)

end Variables

/-- The surroundings. -/
structure World where
  vars : Variables := []
  /-- The current directory. -/
  current : List Char
  files : FileSystem
  /-- The number of processors. -/
  processors : Nat := 1
  /-- What a new identifier looks like. -/
  identifier : String := "00000000-0000-4000-8000-000000000000"

/-- The present time, in UTC. -/
def World.now (w : World) : DateTime := w.files.now

end BuildExpr
