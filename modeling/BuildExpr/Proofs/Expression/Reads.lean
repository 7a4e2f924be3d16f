import BuildExpr.Proofs.Except
import BuildExpr.Proofs.Expression.RawParts

/-!
# How a text is read

A reading function succeeds in a few ways, one for each form that its text may have. The ways of
each are the rules of a relation (`parseArgument_eq_ok`, `parseStatic_eq_ok`, `parseProperty_eq_ok`).
What is shown of a tree that was read, or of a text that is read like another, goes by these rules
and does not depend on how the functions find out which form a text has.
-/

namespace BuildExpr

/-- The members of a type lie within the text they are read from. -/
theorem Rest.placed_of_static {body type after last : Rest} {name : Span}
    (hgroup : body.group? '[' ']' = some (type, after))
    (hname : (after.skipBlanks.drop 2).skipBlanks.name? false = some (name, last)) :
    (memberTail after.skipBlanks name last).1.Placed body ∧
      (memberTail after.skipBlanks name last).2.Within body := by
  have hcolons : after.skipBlanks.Tail body :=
    (tail_skipBlanks _).trans (tail_of_group? hgroup)
  have hstart : (after.skipBlanks.drop 2).skipBlanks.Tail after.skipBlanks :=
    (tail_skipBlanks _).trans (tail_drop _ _)
  obtain ⟨hplaced, hrest⟩ := memberTail_placed hstart hname rfl
  exact ⟨hplaced.trans hcolons.within, hrest.within.trans hcolons.within⟩

namespace Expression

variable {read : Reader} {options : Options} {ref : Span}

/-! ## Arguments -/

/-- An argument is a quoted run, the word `null` or any other text. -/
inductive ReadsArgument (read : Reader) (options : Options) (piece : Rest) : Argument → Prop
  | quoted {inside : Rest} {e : Expression} (whole : piece.trimmed.quotedWhole? = some inside)
    (value : read (argumentOptions options) inside = .ok e) :
    ReadsArgument read options piece (.quoted e)
  | null (whole : piece.trimmed.quotedWhole? = none) (word : piece.trimmed.span.text = "null") :
    ReadsArgument read options piece (.null piece.trimmed.span)
  | bare {e : Expression} (whole : piece.trimmed.quotedWhole? = none)
    (word : piece.trimmed.span.text ≠ "null")
    (value : read (argumentOptions options) piece.trimmed = .ok e) :
    ReadsArgument read options piece (.bare e)

theorem parseArgument_of_whole {piece inside : Rest}
    (whole : piece.trimmed.quotedWhole? = some inside) :
    parseArgument read options piece =
      (do return .quoted (← read (argumentOptions options) inside)) := by
  rw [parseArgument]
  split
  · rename_i other hother
    obtain rfl : inside = other := Option.some.inj (whole.symm.trans hother)
    rfl
  · rename_i hnone
    cases whole.symm.trans hnone

theorem parseArgument_of_not_whole {piece : Rest}
    (whole : piece.trimmed.quotedWhole? = none) :
    parseArgument read options piece =
      if piece.trimmed.span.text = "null" then .ok (.null piece.trimmed.span)
      else (do return .bare (← read (argumentOptions options) piece.trimmed)) := by
  rw [parseArgument]
  split
  · rename_i other hother
    cases whole.symm.trans hother
  · simp only [beq_iff_eq]
    rfl

theorem parseArgument_eq_ok {piece : Rest} {a : Argument} :
    parseArgument read options piece = .ok a ↔ ReadsArgument read options piece a := by
  constructor
  · intro h
    cases whole : piece.trimmed.quotedWhole? with
    | some inside =>
      rw [parseArgument_of_whole whole] at h
      obtain ⟨e, value, h⟩ := Except.bind_eq_ok.1 h
      obtain rfl := Except.ok.inj h
      exact .quoted whole value
    | none =>
      rw [parseArgument_of_not_whole whole] at h
      split at h
      · rename_i word
        obtain rfl := Except.ok.inj h
        exact .null whole word
      · rename_i word
        obtain ⟨e, value, h⟩ := Except.bind_eq_ok.1 h
        obtain rfl := Except.ok.inj h
        exact .bare whole word value
  · rintro (⟨whole, value⟩ | ⟨whole, word⟩ | ⟨whole, word, value⟩)
    · rw [parseArgument_of_whole whole]
      exact Except.bind_eq_ok.2 ⟨_, value, rfl⟩
    · rw [parseArgument_of_not_whole whole, if_pos word]
    · rw [parseArgument_of_not_whole whole, if_neg word]
      exact Except.bind_eq_ok.2 ⟨_, value, rfl⟩

/-! ## Property references -/

/-- Members of a type are the type in brackets, two colons and the name of the first member, behind
which the others may follow. -/
inductive ReadsStatic (read : Reader) (options : Options) (ref : Span) (body : Rest) :
    Property → Prop
  | intro {type after last : Rest} {name : Span} {a : Access} {accesses : List Access}
    (group : body.group? '[' ']' = some (type, after)) (filled : type.trimmed.isEmpty = false)
    (colons : after.skipBlanks.chars.take 2 = [':', ':'])
    (named : (after.skipBlanks.drop 2).skipBlanks.name? false = some (name, last))
    (first : parseAccess read options ref (Rest.memberTail after.skipBlanks name last).1 = .ok a)
    (others : (Rest.memberTail after.skipBlanks name last).2.accesses.mapM
      (parseAccess read options ref) = .ok accesses) :
    ReadsStatic read options ref body (.chain ref (.type type.trimmed.span) (a :: accesses))

theorem parseStatic_eq_ok {body : Rest} {p : Property} :
    parseStatic read options ref body = .ok p ↔ ReadsStatic read options ref body p := by
  rw [parseStatic]
  constructor
  · intro h
    split at h
    · cases h
    · rename_i type after group
      split at h
      · cases h
      · rename_i filled
        dsimp only at h
        split at h
        · cases h
        · rename_i colons
          split at h
          · cases h
          · rename_i name last named
            obtain ⟨a, first, h⟩ := Except.bind_eq_ok.1 h
            obtain ⟨accesses, others, h⟩ := Except.bind_eq_ok.1 h
            obtain rfl := Except.ok.inj h
            exact .intro group (by simpa using filled) (by simpa using colons) named first others
  · rintro ⟨group, filled, colons, named, first, others⟩
    simp only [group, filled, Bool.false_eq_true, if_false, colons, bne_self_eq_false, named]
    exact Except.bind_eq_ok.2 ⟨_, first, Except.bind_eq_ok.2 ⟨_, others, rfl⟩⟩

/-- The characters that members of a name begin with. -/
def beginsMember (c : Char) : Bool := c == '.' || c == '[' || c == '('

/-- A property reference is a registry key behind its mark, members of a type, a registry path, the
name of a property, or such a name with members. -/
inductive ReadsProperty (read : Reader) (options : Options) (ref : Span) (body : Rest) :
    Property → Prop
  | registry (mark : startsWithIgnoreCase body.chars registryMark = true) :
    ReadsProperty read options ref body (.registry ref (body.drop registryMark.length).span)
  | static {p : Property} (mark : startsWithIgnoreCase body.chars registryMark = false)
    (type : body.trimmed.peek? = some '[') (members : ReadsStatic read options ref body.trimmed p) :
    ReadsProperty read options ref body p
  | bareRegistry (mark : startsWithIgnoreCase body.chars registryMark = false)
    (type : body.trimmed.peek? ≠ some '[') (slash : body.chars.contains '\\' = true)
    (path : isBareRegistry body.trimmed.chars = true) :
    ReadsProperty read options ref body (.bareRegistry ref body.trimmed.span)
  | named (mark : startsWithIgnoreCase body.chars registryMark = false)
    (type : body.trimmed.peek? ≠ some '[') (slash : body.chars.contains '\\' = false)
    (members : body.chars.any beginsMember = false) :
    ReadsProperty read options ref body (.named ref body.span)
  | chain {name : Span} {after : Rest} {accesses : List Access}
    (mark : startsWithIgnoreCase body.chars registryMark = false)
    (type : body.trimmed.peek? ≠ some '[')
    (path : (body.chars.contains '\\' && isBareRegistry body.trimmed.chars) = false)
    (members : body.chars.any beginsMember = true)
    (receiver : body.trimmed.name? true = some (name, after))
    (others : after.accesses.mapM (parseAccess read options ref) = .ok accesses) :
    ReadsProperty read options ref body (.chain ref (.property name) accesses)

theorem parseProperty_eq_ok {body : Rest} {p : Property} :
    parseProperty read options ref body = .ok p ↔ ReadsProperty read options ref body p := by
  have hmembers : (body.chars.any fun c => c == '.' || c == '[' || c == '(') =
      body.chars.any beginsMember := rfl
  rw [parseProperty, hmembers]
  constructor
  · intro h
    split at h
    · rename_i mark
      obtain rfl := Except.ok.inj h
      exact .registry mark
    · rename_i mark
      have mark := Bool.eq_false_iff.2 mark
      split at h
      · rename_i type
        exact .static mark (beq_iff_eq.1 type) (parseStatic_eq_ok.1 h)
      · rename_i type
        have type := mt beq_iff_eq.2 type
        split at h
        · rename_i path
          obtain ⟨slash, path⟩ := (Bool.and_eq_true _ _).mp path
          obtain rfl := Except.ok.inj h
          exact .bareRegistry mark type slash path
        · rename_i path
          split at h
          · rename_i members
            split at h
            · cases h
            · rename_i slash
              obtain rfl := Except.ok.inj h
              exact .named mark type (Bool.eq_false_iff.2 slash) ((Bool.not_eq_true' _).mp members)
          · rename_i members
            split at h
            · cases h
            · rename_i name after receiver
              obtain ⟨accesses, others, h⟩ := Except.bind_eq_ok.1 h
              obtain rfl := Except.ok.inj h
              have members := (Bool.not_eq_false _).mp (mt (Bool.not_eq_true' _).mpr members)
              exact .chain mark type (Bool.eq_false_iff.2 path) members receiver others
  · rintro (mark | ⟨mark, type, members⟩ | ⟨mark, type, slash, path⟩ |
      ⟨mark, type, slash, members⟩ | ⟨mark, type, path, members, receiver, others⟩)
    · rw [if_pos mark]
      rfl
    · rw [if_neg (ne_true_of_eq_false mark), if_pos (beq_iff_eq.2 type)]
      exact parseStatic_eq_ok.2 members
    · rw [if_neg (ne_true_of_eq_false mark), if_neg (mt beq_iff_eq.1 type), slash, path]
      rfl
    · rw [if_neg (ne_true_of_eq_false mark), if_neg (mt beq_iff_eq.1 type), slash,
        Bool.false_and, if_neg Bool.false_ne_true, if_pos ((Bool.not_eq_true' _).mpr members)]
      rfl
    · have members := (Bool.not_eq_false' _).mpr members
      rw [if_neg (ne_true_of_eq_false mark), if_neg (mt beq_iff_eq.1 type),
        if_neg (ne_true_of_eq_false path), if_neg (ne_true_of_eq_false members), receiver]
      exact Except.bind_eq_ok.2 ⟨_, others, rfl⟩

/-! ## Item lists -/

/-- An item list is its type and the stages and the separator behind it. -/
theorem parseItems_eq_ok {body : Rest} {list : ItemList} :
    parseItems read options ref body = .ok list ↔
      ∃ itemType after parts, body.skipBlanks.name? true = some (itemType, after) ∧
        after.stages.foldlM (parseStage read options ref) ([], none) = .ok parts ∧
        list = .mk ref itemType parts.1 parts.2 := by
  rw [parseItems]
  constructor
  · intro h
    split at h
    · cases h
    · rename_i itemType after named
      obtain ⟨parts, stages, h⟩ := Except.bind_eq_ok.1 h
      exact ⟨itemType, after, parts, named, stages, (Except.ok.inj h).symm⟩
  · rintro ⟨itemType, after, parts, named, stages, rfl⟩
    rw [named]
    exact Except.bind_eq_ok.2 ⟨parts, stages, rfl⟩

end Expression

end BuildExpr
