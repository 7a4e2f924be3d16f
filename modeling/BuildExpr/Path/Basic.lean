import BuildExpr.Fault
import BuildExpr.Text.Blank
import BuildExpr.Text.Search

/-!
# Paths

A path is a text of segments between separators. Both `/` and `\` separate; every function here
first writes all separators as `/`. A path that begins with one is rooted.
-/

namespace BuildExpr

namespace Path

/-- Whether a character separates segments. -/
def isSeparator (c : Char) : Bool := c == '/' || c == '\\'

/-- A path with every separator written as `/`. -/
def slashed (p : List Char) : List Char := p.map fun c => if c == '\\' then '/' else c

/-- Refuses a path that holds a zero character or is too long. -/
def validate (p : List Char) : Except Fault Unit :=
  if p.contains '\x00' then .error (.illegalPath (String.ofList p))
  else if pathLimit ≤ Chars.byteLength p then .error .longPath
  else .ok ()

/-- Whether a path begins with a separator. -/
def isRooted : List Char → Bool
  | c :: _ => isSeparator c
  | [] => false

/-- The root of a path: one separator or nothing. -/
def root (p : List Char) : List Char := if isRooted p then ['/'] else []

/-- Whether a path ends with a separator. -/
def endsWithSeparator (p : List Char) : Bool :=
  match p.getLast? with
  | some c => isSeparator c
  | none => false

/-- A path read from a base directory. A rooted path does not need the base. -/
def combine (base rest : List Char) : List Char :=
  let base := slashed base
  let rest := slashed rest
  if rest.isEmpty then base
  else if base.isEmpty || isRooted rest then rest
  else if endsWithSeparator base then base ++ rest
  else base ++ '/' :: rest

/-- A path with a separator at its end, unless it is empty. -/
def withTrailingSlash (p : List Char) : List Char :=
  let p := slashed p
  if p.isEmpty || endsWithSeparator p then p else p ++ ['/']

/-- The directory part of a path: nothing for the root and the empty path, and the empty path
when there is no directory. -/
def directoryName? (p : List Char) : Option (List Char) :=
  let p := slashed p
  if p.isEmpty || p == ['/'] then none
  else
    match Chars.cutLast? '/' p with
    | none => some []
    | some (before, _) =>
      let directory := Chars.dropEndWhile isSeparator before
      some (if directory.isEmpty then root p else directory)

/-- The last segment of a path, which is empty after a separator at the end. -/
def fileName (p : List Char) : List Char :=
  match Chars.cutLast? '/' (slashed p) with
  | some (_, name) => name
  | none => slashed p

/-- The extension with its point, or nothing when the name has none or ends with the point. -/
def extension (p : List Char) : List Char :=
  match Chars.cutLast? '.' (fileName p) with
  | some (_, ext) => if ext.isEmpty then [] else '.' :: ext
  | none => []

/-- The last segment without its extension. -/
def stem (p : List Char) : List Char :=
  match Chars.cutLast? '.' (fileName p) with
  | some (before, _) => before
  | none => fileName p

/-- The path up to and with its last separator. -/
def directoryPart (p : List Char) : List Char :=
  match Chars.cutLast? '/' (slashed p) with
  | some (before, _) => before ++ ['/']
  | none => []

/-- A path with another extension, which gets a point in front when it has none, or with no
extension at all. -/
def changeExtension (p : List Char) (ext : Option (List Char)) : List Char :=
  let bare := directoryPart p ++ stem p
  match ext with
  | none => bare
  | some ext => if ext.head? == some '.' then bare ++ ext else bare ++ '.' :: ext

/-- One step of resolving segments from left to right; the segments so far are in reverse. A
`..` takes back the segment before it, or stays when there is none and the path is not rooted. -/
def resolveSegment (rooted : Bool) (done : List (List Char)) (segment : List Char) :
    List (List Char) :=
  if segment == [] || segment == ['.'] then done
  else if segment == ['.', '.'] then
    match done with
    | last :: rest => if last == ['.', '.'] then (if rooted then done else segment :: done) else rest
    | [] => if rooted then done else segment :: done
  else segment :: done

/-- The segments of a path without `.`, without empty ones, and with `..` only in front. -/
def resolvedSegments (rooted : Bool) (p : List Char) : List (List Char) :=
  ((Chars.splitOn '/' p).foldl (resolveSegment rooted) []).reverse

/-- The plainest form of a path. The root and a separator at the end are kept. -/
def normalize (p : List Char) : List Char :=
  let p := slashed p
  let segments := resolvedSegments (isRooted p) (p.drop (root p).length)
  root p ++ Chars.join ['/'] segments ++
    if endsWithSeparator (p.drop (root p).length) && !segments.isEmpty then ['/'] else []

/-- The rooted, normalized form of a path read from a base directory, where the base itself and
a path without base are read from the current directory. -/
def full (current : List Char) (base : Option (List Char)) (p : List Char) :
    Except Fault (List Char) := do
  validate p
  let base :=
    match base with
    | some b => if isRooted b then b else combine current b
    | none => current
  let full := normalize (if isRooted p then slashed p else combine base p)
  validate full
  return full

/-- The segments that are not empty. -/
def names (p : List Char) : List (List Char) :=
  (Chars.splitOn '/' (slashed p)).filter fun s => !s.isEmpty

/-- The number of leading elements that two lists share. -/
def commonLength : List (List Char) → List (List Char) → Nat
  | a :: as, b :: bs => if a == b then commonLength as bs + 1 else 0
  | _, _ => 0

/-- The way from a full directory to a full path. -/
def relative (base path : List Char) : List Char :=
  let shared := commonLength (names base) (names path)
  let steps :=
    List.replicate ((names base).length - shared) ['.', '.'] ++ (names path).drop shared
  if steps.isEmpty then ['.']
  else Chars.join ['/'] steps ++ if endsWithSeparator path then ['/'] else []

/-- The way from a directory to a path, both read from the current directory. Paths of
different roots are given in full. -/
def makeRelative (current base path : List Char) : Except Fault (List Char) := do
  let base ← full current none base
  let path ← full current none path
  return if root base == root path then relative base path else path

/-- The directory part of a path is shorter than the path. -/
theorem length_lt_of_directoryName? {p d : List Char} (h : directoryName? p = some d) :
    d.length < p.length := by
  have hslashed : (slashed p).length = p.length := List.length_map _
  simp only [directoryName?, Bool.or_eq_true, List.isEmpty_iff, beq_iff_eq] at h
  rw [← hslashed]
  split at h
  · cases h
  · rename_i hp
    obtain ⟨hne, hroot⟩ := not_or.1 hp
    split at h
    · obtain rfl := Option.some.inj h
      exact List.length_pos_iff.2 hne
    · rename_i before after hcut
      have hself := Chars.eq_of_cutLast?_eq_some hcut
      have hlength := congrArg List.length hself
      rw [List.length_append, List.length_cons] at hlength
      obtain rfl := Option.some.inj h
      split
      · -- the root has one character at most, and a path that is cut has more unless it is the root
        have hone : (root (slashed p)).length ≤ 1 := by
          rw [root]
          split <;> simp
        have hlong : 1 < (slashed p).length := by
          cases before with
          | cons c before => rw [hlength, List.length_cons]; omega
          | nil =>
            cases after with
            | cons c after => rw [hlength, List.length_cons]; omega
            | nil => exact absurd hself hroot
        omega
      · have hdrop : (Chars.dropEndWhile isSeparator before).length ≤ before.length := by
          simpa [Chars.dropEndWhile] using
            (@List.dropWhile_sublist _ before.reverse isSeparator).length_le
        omega

/-- The directories above a path, the nearest first. -/
def ancestors (p : List Char) : List (List Char) :=
  match _h : directoryName? p with
  | none => []
  | some d => if d.isEmpty then [] else d :: ancestors d
  termination_by p.length
  decreasing_by exact length_lt_of_directoryName? _h

end Path

end BuildExpr
