import BuildExpr.Proofs.Text.Trimming
import BuildExpr.Text.Escape
import BuildExpr.Text.Search

/-!
# The pieces and entries of a text

A text is cut at each occurrence of a character into pieces that do not have it
(`Chars.splitOn_append`, `Chars.not_mem_of_mem_splitOn`), and pieces are joined with a text between
each two. Joining with the character gives back the text (`Chars.join_splitOn`), and cutting gives
back the pieces, if there is one and none has the character (`Chars.splitOn_join`).

The entries that `splitList` makes of the pieces between separators: the entries of two texts with a
`;` between them are those of the first and then those of the second (`splitList_append`), blanks
around a text add none (`splitList_blanks`), and an entry taken as a list has itself as its only
entry (`splitList_of_mem`).
-/

namespace BuildExpr

namespace Chars

/-! ## Pieces between separators -/

theorem splitOn_cons_self (sep : Char) (cs : List Char) :
    splitOn sep (sep :: cs) = [] :: splitOn sep cs := by
  simp [splitOn, splitWhere]

/-- A text begins with the piece before its first separator. -/
theorem exists_splitOn (sep : Char) (cs : List Char) :
    ∃ piece pieces, splitOn sep cs = piece :: pieces := by
  cases cs with
  | nil => exact ⟨[], [], rfl⟩
  | cons c cs =>
    simp only [splitOn, splitWhere]
    split
    · exact ⟨_, _, rfl⟩
    · split <;> exact ⟨_, _, rfl⟩

theorem splitOn_cons_of_ne {sep c : Char} (hc : c ≠ sep) {cs piece : List Char}
    {pieces : List (List Char)} (h : splitOn sep cs = piece :: pieces) :
    splitOn sep (c :: cs) = (c :: piece) :: pieces := by
  rw [splitOn] at h ⊢
  rw [splitWhere, if_neg (by simpa using hc), h]

/-- Cutting at a separator cuts the texts on both sides of it. -/
theorem splitOn_append (sep : Char) (xs ys : List Char) :
    splitOn sep (xs ++ sep :: ys) = splitOn sep xs ++ splitOn sep ys := by
  induction xs with
  | nil => exact splitOn_cons_self sep ys
  | cons c xs ih =>
    by_cases hc : c = sep
    · subst hc
      rw [List.cons_append, splitOn_cons_self, splitOn_cons_self, ih, List.cons_append]
    · obtain ⟨piece, pieces, hp⟩ := exists_splitOn sep xs
      rw [hp, List.cons_append] at ih
      rw [List.cons_append, splitOn_cons_of_ne hc ih, splitOn_cons_of_ne hc hp, List.cons_append]

/-- A text without separators is one piece. -/
theorem splitOn_of_not_mem {sep : Char} {cs : List Char} (h : sep ∉ cs) :
    splitOn sep cs = [cs] := by
  induction cs with
  | nil => rfl
  | cons c cs ih =>
    rw [List.mem_cons, not_or] at h
    exact splitOn_cons_of_ne (Ne.symm h.1) (ih h.2)

/-- A piece is empty, or a piece of the rest, or it begins with the first character. -/
theorem mem_splitOn_cons {sep c : Char} {cs piece : List Char}
    (h : piece ∈ splitOn sep (c :: cs)) :
    piece = [] ∨ piece ∈ splitOn sep cs ∨
      ∃ rest ∈ splitOn sep cs, c ≠ sep ∧ piece = c :: rest := by
  by_cases hc : c = sep
  · subst hc
    rw [splitOn_cons_self, List.mem_cons] at h
    exact h.imp_right .inl
  · obtain ⟨first, pieces, hp⟩ := exists_splitOn sep cs
    rw [splitOn_cons_of_ne hc hp, List.mem_cons] at h
    rw [hp]
    rcases h with rfl | h
    · exact .inr (.inr ⟨first, List.mem_cons_self, hc, rfl⟩)
    · exact .inr (.inl (List.mem_cons_of_mem first h))

theorem not_mem_of_mem_splitOn {sep : Char} {cs piece : List Char} (h : piece ∈ splitOn sep cs) :
    sep ∉ piece := by
  induction cs generalizing piece with
  | nil =>
    rw [List.mem_singleton.1 h]
    simp
  | cons c cs ih =>
    rcases mem_splitOn_cons h with rfl | h | ⟨rest, hrest, hc, rfl⟩
    · simp
    · exact ih h
    · rw [List.mem_cons, not_or]
      exact ⟨Ne.symm hc, ih hrest⟩

theorem mem_of_mem_splitOn {sep c : Char} {cs piece : List Char} (hp : piece ∈ splitOn sep cs)
    (hc : c ∈ piece) : c ∈ cs := by
  induction cs generalizing piece with
  | nil =>
    rw [List.mem_singleton.1 hp] at hc
    exact hc
  | cons d cs ih =>
    rcases mem_splitOn_cons hp with rfl | hp | ⟨rest, hrest, -, rfl⟩
    · cases hc
    · exact List.mem_cons_of_mem d (ih hp hc)
    · rcases List.mem_cons.1 hc with rfl | hc
      · exact List.mem_cons_self
      · exact List.mem_cons_of_mem d (ih hrest hc)

/-- A text without separators behind another lengthens its last piece. -/
theorem exists_splitOn_append (sep : Char) (cs : List Char) :
    ∃ pieces last, splitOn sep cs = pieces ++ [last] ∧
      ∀ us, sep ∉ us → splitOn sep (cs ++ us) = pieces ++ [last ++ us] := by
  induction cs with
  | nil => exact ⟨[], [], rfl, fun us hus => splitOn_of_not_mem hus⟩
  | cons c cs ih =>
    obtain ⟨pieces, last, h, hus⟩ := ih
    by_cases hc : c = sep
    · subst hc
      refine ⟨[] :: pieces, last, by rw [splitOn_cons_self, h, List.cons_append], fun us hu => ?_⟩
      rw [List.cons_append, splitOn_cons_self, hus us hu, List.cons_append]
    · cases pieces with
      | nil =>
        refine ⟨[], c :: last, splitOn_cons_of_ne hc h, fun us hu => ?_⟩
        exact splitOn_cons_of_ne hc (hus us hu)
      | cons first pieces =>
        refine ⟨(c :: first) :: pieces, last, splitOn_cons_of_ne hc h, fun us hu => ?_⟩
        exact splitOn_cons_of_ne hc (hus us hu)

/-! ## Joining -/

theorem join_cons_of_ne_nil (sep piece : List Char) {pieces : List (List Char)}
    (h : pieces ≠ []) : join sep (piece :: pieces) = piece ++ sep ++ join sep pieces := by
  cases pieces with
  | nil => exact absurd rfl h
  | cons next pieces => rfl

/-- Putting a character in front of the first piece puts it in front of the text. -/
theorem join_cons_head (sep : List Char) (c : Char) (piece : List Char)
    (pieces : List (List Char)) :
    join sep ((c :: piece) :: pieces) = c :: join sep (piece :: pieces) := by
  cases pieces <;> rfl

theorem join_concat (sep : List Char) {pieces : List (List Char)} (h : pieces ≠ [])
    (last : List Char) : join sep (pieces ++ [last]) = join sep pieces ++ (sep ++ last) := by
  induction pieces with
  | nil => exact absurd rfl h
  | cons piece pieces ih =>
    by_cases hp : pieces = []
    · subst hp
      simp [join]
    · rw [List.cons_append, join_cons_of_ne_nil _ _ (by simp), ih hp, join_cons_of_ne_nil _ _ hp]
      simp only [List.append_assoc]

theorem mem_join {sep c : Char} {pieces : List (List Char)} (h : c ∈ join [sep] pieces) :
    c = sep ∨ ∃ piece ∈ pieces, c ∈ piece := by
  induction pieces with
  | nil => cases h
  | cons piece pieces ih =>
    by_cases hp : pieces = []
    · subst hp
      exact .inr ⟨piece, List.mem_cons_self, h⟩
    · rw [join_cons_of_ne_nil _ _ hp, List.append_assoc, List.singleton_append, List.mem_append,
        List.mem_cons] at h
      rcases h with h | rfl | h
      · exact .inr ⟨piece, List.mem_cons_self, h⟩
      · exact .inl rfl
      · refine (ih h).imp_right ?_
        rintro ⟨other, hother, hc⟩
        exact ⟨other, List.mem_cons_of_mem _ hother, hc⟩

/-! ## Pieces and their text -/

theorem join_splitOn (sep : Char) (cs : List Char) : join [sep] (splitOn sep cs) = cs := by
  induction cs with
  | nil => rfl
  | cons c cs ih =>
    obtain ⟨piece, pieces, hp⟩ := exists_splitOn sep cs
    by_cases hc : c = sep
    · subst hc
      rw [splitOn_cons_self, join_cons_of_ne_nil _ _ (by simp [hp]), ih]
      rfl
    · rw [splitOn_cons_of_ne hc hp, join_cons_head, ← hp, ih]

theorem splitOn_join {sep : Char} {pieces : List (List Char)} (hne : pieces ≠ [])
    (h : ∀ piece ∈ pieces, sep ∉ piece) : splitOn sep (join [sep] pieces) = pieces := by
  induction pieces with
  | nil => exact absurd rfl hne
  | cons piece pieces ih =>
    rw [List.forall_mem_cons] at h
    by_cases hp : pieces = []
    · subst hp
      exact splitOn_of_not_mem h.1
    · rw [join_cons_of_ne_nil _ _ hp, List.append_assoc, List.singleton_append, splitOn_append,
        splitOn_of_not_mem h.1, ih hp h.2, List.singleton_append]

/-! ## Entries -/

/-- What becomes of the pieces of a list: they are trimmed, and the empty ones dropped. -/
def entriesOf (pieces : List (List Char)) : List (List Char) :=
  (pieces.map trim).filter fun piece => !piece.isEmpty

theorem splitList_eq (cs : List Char) : splitList cs = entriesOf (splitOn ';' cs) := rfl

@[simp] theorem entriesOf_append (xs ys : List (List Char)) :
    entriesOf (xs ++ ys) = entriesOf xs ++ entriesOf ys := by
  simp [entriesOf]

theorem entriesOf_singleton (piece : List Char) :
    entriesOf [piece] = if (trim piece).isEmpty then [] else [trim piece] := by
  cases h : (trim piece).isEmpty <;> simp [entriesOf, h]

/-- The entries of two lists, one behind the other. -/
theorem splitList_append (xs ys : List Char) :
    splitList (xs ++ ';' :: ys) = splitList xs ++ splitList ys := by
  simp [splitList_eq, splitOn_append]

/-- A text without `;` is one entry, unless it is blank. -/
theorem splitList_of_not_mem {cs : List Char} (h : ';' ∉ cs) :
    splitList cs = if (trim cs).isEmpty then [] else [trim cs] := by
  rw [splitList_eq, splitOn_of_not_mem h, entriesOf_singleton]

theorem splitList_append_blank {us : List Char} (h : Blank us) (cs : List Char) :
    splitList (cs ++ us) = splitList cs := by
  obtain ⟨pieces, last, hcs, hus⟩ := exists_splitOn_append ';' cs
  have htrim : trim (last ++ us) = trim last := by
    simpa using trim_append Blank.nil h last
  rw [splitList_eq, splitList_eq, hcs, hus us (h.not_mem rfl), entriesOf_append, entriesOf_append,
    entriesOf_singleton, entriesOf_singleton, htrim]

theorem splitList_blank_append {ws : List Char} (h : Blank ws) (cs : List Char) :
    splitList (ws ++ cs) = splitList cs := by
  induction ws with
  | nil => rfl
  | cons w ws ih =>
    have hw : Blank [w] := fun c hc => h c (by rw [List.mem_singleton.1 hc]; simp)
    obtain ⟨piece, pieces, hp⟩ := exists_splitOn ';' (ws ++ cs)
    have htrim : trim (w :: piece) = trim piece := by
      simpa using trim_append hw Blank.nil piece
    rw [← ih fun c hc => h c (by simp [hc]), List.cons_append, splitList_eq, splitList_eq, hp,
      splitOn_cons_of_ne (fun e => hw.not_mem (c := ';') rfl (by simp [e])) hp]
    simp [entriesOf, htrim]

/-- Blanks around a list do not change its entries. -/
theorem splitList_blanks {ws us : List Char} (hws : Blank ws) (hus : Blank us) (cs : List Char) :
    splitList (ws ++ cs ++ us) = splitList cs := by
  rw [splitList_append_blank hus, splitList_blank_append hws]

theorem splitList_trim (cs : List Char) : splitList (trim cs) = splitList cs := by
  obtain ⟨ws, us, hws, hus, hcs⟩ := exists_trim cs
  calc splitList (trim cs) = splitList (ws ++ trim cs ++ us) :=
        (splitList_blanks hws hus (trim cs)).symm
    _ = splitList cs := by rw [← hcs]

/-- An entry is a list of its own. -/
theorem splitList_of_mem {cs entry : List Char} (h : entry ∈ splitList cs) :
    splitList entry = [entry] := by
  rw [splitList_eq, entriesOf, List.mem_filter] at h
  obtain ⟨hmem, hne⟩ := h
  obtain ⟨piece, hpiece, rfl⟩ := List.mem_map.1 hmem
  rw [splitList_trim, splitList_of_not_mem (not_mem_of_mem_splitOn hpiece),
    if_neg (by simpa using hne)]

/-- Taking every entry of a list as a list gives the same entries. -/
theorem flatMap_splitList (cs : List Char) : (splitList cs).flatMap splitList = splitList cs := by
  have key : ∀ entries : List (List Char), (∀ e ∈ entries, splitList e = [e]) →
      entries.flatMap splitList = entries := by
    intro entries h
    induction entries with
    | nil => rfl
    | cons e entries ih =>
      rw [List.flatMap_cons, h e (by simp), ih fun e he => h e (by simp [he]),
        List.singleton_append]
  exact key _ fun _ he => splitList_of_mem he

end Chars

namespace Text

@[simp] theorem splitList_empty : splitList "" = [] := rfl

theorem splitList_append (a b : String) :
    splitList (a ++ (";" ++ b)) = splitList a ++ splitList b := by
  have hsep : (";" : String).toList = [';'] := rfl
  simp [splitList, hsep, Chars.splitList_append]

theorem splitList_blanks {ws us : List Char} (hws : Chars.Blank ws) (hus : Chars.Blank us)
    (t : String) : splitList (String.ofList ws ++ (t ++ String.ofList us)) = splitList t := by
  simp only [splitList, String.toList_append, String.toList_ofList, ← List.append_assoc]
  rw [Chars.splitList_blanks hws hus]

theorem flatMap_splitList (s : String) : (splitList s).flatMap splitList = splitList s := by
  have hmap (entries : List (List Char)) : (entries.map String.ofList).flatMap splitList =
      (entries.flatMap Chars.splitList).map String.ofList := by
    simp [List.flatMap_map, List.map_flatMap, splitList]
  rw [splitList, hmap, Chars.flatMap_splitList]

end Text

end BuildExpr
