import BuildExpr.Proofs.Evaluation.Tokens
import BuildExpr.Proofs.Expansion.Cutter
import BuildExpr.Proofs.Expansion.Escaped
import BuildExpr.Proofs.Text.Pieces
import BuildExpr.Proofs.Text.Trimming
import Mathlib.Data.List.Induction

/-!
# Items and entries

Expanding a text to items goes piece by piece, and expanding it to a list goes over the whole text.
Both give the same entries as long as the cuts lie between the tokens of the text and no function
changes the surroundings from one piece to the next: the items of a piece have the entries of its
value (`exists_value_of_expandPiece`), and the values are put together piece by piece
(`exists_value_of_first`, `exists_value_of_behindCuts`).

A text of tokens with no parenthesis in plain text is cut at the `;` among its tokens and nowhere
else (`splitOutside_tokens`), and trimming a piece takes tokens off its ends (`exists_trim_tokens`).
So a piece of such a text consists of tokens of the text.
-/

namespace BuildExpr

namespace Token

variable {options : Options}

/-! ## Cutting between tokens -/

/-- The tokens of pieces, with a `;` in front of each. -/
def behindCuts (pieces : List (List Token)) : List Token :=
  pieces.flatMap fun ts => .char ';' :: ts

/-- A text of tokens is cut at its `;` tokens: `piece` is the text since the last cut before it. -/
theorem splitOutside_tokens {ts : List Token} (hfits : ∀ t ∈ ts, t.Fits options)
    (hplain : ∀ t ∈ ts, t.NoParenthesis) (piece : List Char) :
    ∃ (first : List Token) (rest : List (List Token)),
      Chars.splitOutside 0 none piece (textAll ts) =
          (piece.reverse ++ textAll first) :: rest.map textAll ∧
        ts = first ++ behindCuts rest := by
  induction ts generalizing piece with
  | nil => exact ⟨[], [], by simp [Chars.splitOutside], rfl⟩
  | cons t ts ih =>
    have ih := ih (fun t ht => hfits t (by simp [ht])) fun t ht => hplain t (by simp [ht])
    cases t with
    | char c =>
      obtain ⟨hopen, hclose⟩ := hplain (.char c) (by simp)
      have hstep : Cutter.step {} c = {} := by simp [Cutter.step, hopen, hclose]
      have hcons := Cutter.splitOutside_cons {} piece c (textAll ts)
      rw [hstep] at hcons
      by_cases hc : c = ';'
      · obtain ⟨first, rest, hpieces, hts⟩ := ih []
        refine ⟨[], first :: rest, ?_, by simp [hts, hc, behindCuts]⟩
        rw [textAll_cons, text, List.singleton_append, hcons,
          if_pos (Cutter.cuts_iff.2 ⟨rfl, hc⟩), hpieces]
        simp
      · obtain ⟨first, rest, hpieces, hts⟩ := ih (c :: piece)
        refine ⟨.char c :: first, rest, ?_, by simp [hts]⟩
        rw [textAll_cons, text, List.singleton_append, hcons,
          if_neg fun h => hc (Cutter.cuts_iff.1 h).2, hpieces]
        simp [text]
    | reference text segment =>
      obtain ⟨chunk, hreads, -⟩ := hfits (.reference text segment) (by simp)
      obtain ⟨hrun, hquiet⟩ := Cutter.run_of_isReference (s := {}) rfl hreads.isReference
      obtain ⟨first, rest, hpieces, hts⟩ := ih (text.reverse ++ piece)
      refine ⟨.reference text segment :: first, rest, ?_, by simp [hts]⟩
      have hcut := Cutter.splitOutside_of_quiet hquiet piece (textAll ts)
      rw [hrun] at hcut
      rw [textAll_cons, Token.text, hcut, hpieces]
      simp [Token.text]

/-! ## Trimming tokens -/

/-- Blanks at the front of a text of tokens are tokens. -/
theorem exists_of_blank_append {ws cs : List Char} (hws : Chars.Blank ws) {ts : List Token}
    (hfits : ∀ t ∈ ts, t.Fits options) (h : textAll ts = ws ++ cs) :
    ∃ rest, ts = ws.map char ++ rest ∧ textAll rest = cs := by
  induction ws generalizing ts with
  | nil => exact ⟨ts, rfl, h⟩
  | cons w ws ih =>
    cases ts with
    | nil => cases h
    | cons t ts =>
      cases t with
      | char c =>
        obtain ⟨rfl, htext⟩ := List.cons.inj h
        obtain ⟨rest, rfl, hrest⟩ := ih (fun c hc => hws c (by simp [hc]))
          (fun t ht => hfits t (by simp [ht])) htext
        exact ⟨rest, rfl, hrest⟩
      | reference text segment =>
        obtain ⟨chunk, hreads, -⟩ := hfits (.reference text segment) (by simp)
        obtain ⟨c, body, hc, -, rfl⟩ := hreads.isReference
        obtain ⟨rfl, -⟩ := List.cons.inj h
        have hblank := hws c (by simp)
        rcases hc with rfl | rfl | rfl <;> cases hblank

/-- A blank at the end of a text of tokens is a token. -/
theorem exists_of_append_singleton {u : Char} {cs : List Char} (hu : Chars.isBlank u = true)
    {ts : List Token} (hfits : ∀ t ∈ ts, t.Fits options) (h : textAll ts = cs ++ [u]) :
    ∃ rest, ts = rest ++ [char u] ∧ textAll rest = cs := by
  rcases List.eq_nil_or_concat ts with rfl | ⟨rest, t, rfl⟩
  · simp at h
  · rw [List.concat_eq_append] at h hfits ⊢
    cases t with
    | char c =>
      obtain ⟨hrest, rfl⟩ : textAll rest = cs ∧ c = u := by simpa [text] using h
      exact ⟨rest, rfl, hrest⟩
    | reference text segment =>
      obtain ⟨chunk, hreads, -⟩ := hfits (.reference text segment) (by simp)
      obtain ⟨c, body, -, -, rfl⟩ := hreads.isReference
      have hlast : textAll rest ++ (c :: '(' :: body) ++ [')'] = cs ++ [u] := by
        simpa [Token.text] using h
      obtain ⟨-, hclose⟩ := List.append_inj' hlast rfl
      rw [← List.singleton_inj.1 hclose] at hu
      cases hu

/-- Blanks at the end of a text of tokens are tokens. -/
theorem exists_of_append_blank {us cs : List Char} (hus : Chars.Blank us) {ts : List Token}
    (hfits : ∀ t ∈ ts, t.Fits options) (h : textAll ts = cs ++ us) :
    ∃ rest, ts = rest ++ us.map char ∧ textAll rest = cs := by
  induction us using List.reverseRecOn generalizing ts with
  | nil => exact ⟨ts, by simp, by simpa using h⟩
  | append_singleton us u ih =>
    rw [← List.append_assoc] at h
    obtain ⟨rest, rfl, hrest⟩ := exists_of_append_singleton (hus u (by simp)) hfits h
    obtain ⟨inner, rfl, hinner⟩ := ih (fun c hc => hus c (by simp [hc]))
      (fun t ht => hfits t (by simp only [List.mem_append]; exact .inl ht)) hrest
    exact ⟨inner, by simp, hinner⟩

/-- Trimming a text of tokens takes off tokens. -/
theorem exists_trim_tokens {ts : List Token} (hfits : ∀ t ∈ ts, t.Fits options) :
    ∃ ws us inner, Chars.Blank ws ∧ Chars.Blank us ∧
      ts = ws.map char ++ (inner ++ us.map char) ∧ textAll inner = Chars.trim (textAll ts) := by
  obtain ⟨ws, us, hws, hus, htext⟩ := Chars.exists_trim (textAll ts)
  rw [List.append_assoc] at htext
  obtain ⟨rest, hts, hrest⟩ := exists_of_blank_append hws hfits htext
  obtain ⟨inner, rfl, hinner⟩ := exists_of_append_blank hus
    (fun t ht => hfits t (by rw [hts]; simp [ht])) hrest
  exact ⟨ws, us, inner, hws, hus, hts, hinner⟩

end Token

open Eval

/-- The entries of items whose includes are taken as lists. -/
def entriesOfItems (items : List Item) : List String :=
  items.flatMap fun item => Text.splitList item.spec

@[simp] theorem entriesOfItems_append (xs ys : List Item) :
    entriesOfItems (xs ++ ys) = entriesOfItems xs ++ entriesOfItems ys := List.flatMap_append

theorem spec_create (factory : ItemFactory) (spec : String) (source : Option Item)
    (project : Option String) : (factory.create spec source project).spec = spec := by
  cases source <;> rfl

/-! ## One piece -/

theorem exists_join (entries : List Entry) :
    ∃ t, Entries.join (fun _ => return ";") entries = pure t ∧
      Text.splitList t = entries.flatMap fun e => Text.splitList e.text := by
  induction entries with
  | nil => exact ⟨"", rfl, rfl⟩
  | cons e entries ih =>
    cases entries with
    | nil => exact ⟨e.text, rfl, by simp⟩
    | cons next rest =>
      obtain ⟨t, ht, hentries⟩ := ih
      refine ⟨e.text ++ (";" ++ t), ?_, ?_⟩
      · rw [Entries.join, ht]
        simp only [pure_bind, String.append_assoc]
      · rw [Text.splitList_append, hentries]
        rfl

/-- The value of a text that consists of an item list is that of the list. -/
theorem evalExpression_of_singleItems (s : Setting) (item : Option Item) {e : Expression}
    {list : ItemList} (h : e.singleItems? = some list) :
    evalExpression s item e = evalItems s item list := by
  cases e with
  | mk span segments =>
    obtain rfl : segments = [.items list] := Expression.eq_of_singleItems? h
    simp only [evalExpression, evalSegments, evalSegment, pure_bind, String.append_empty,
      bind_pure]

/-- The value of a lone item list without a separator is the list of its entries. -/
theorem exists_value_of_list {s : Setting} (hs : s.options.truncate = false) {list : ItemList}
    (hseparator : list.separator = none) {entries : List Entry} {w w' : World}
    (h : (evalEntries s list).result w = (.ok entries, w')) :
    ∃ t, (evalItems s none list).result w = (.ok t, w') ∧
      Text.splitList t = entries.flatMap fun e => Text.splitList e.text := by
  obtain ⟨t, ht, hentries⟩ := exists_join entries
  refine ⟨t, ?_, hentries⟩
  cases list with
  | mk span itemType transforms separator =>
    obtain rfl : separator = none := hseparator
    have hshown : s.shownEntries entries = entries := by simp [Setting.shownEntries, hs]
    rw [evalItems]
    refine result_bind_eq_ok.2 ⟨entries, w', h, ?_⟩
    show (Entries.join _ (s.shownEntries entries)).result w' = _
    rw [hshown, ht, result_pure]

namespace Expander

variable {x : Expander} {options : Options} {lookup : Lookup} {factory : ItemFactory}

theorem entriesOfItems_itemsOfText (text : String) :
    entriesOfItems (x.itemsOfText factory text) = Text.splitList text := by
  rw [entriesOfItems, itemsOfText, List.flatMap_map]
  simp only [spec_create]
  exact Text.flatMap_splitList text

theorem entriesOfItems_itemsOfEntries (entries : List Entry) :
    entriesOfItems (x.itemsOfEntries factory entries) =
      entries.flatMap fun e => Text.splitList e.text := by
  rw [entriesOfItems, itemsOfEntries, List.flatMap_map]
  simp only [spec_create]
  induction entries with
  | nil => rfl
  | cons e entries ih =>
    rw [Entries.filled, List.filter_cons, List.flatMap_cons, ← ih]
    split
    · rfl
    · rename_i hempty
      obtain hempty : e.text = "" := by simpa using hempty
      rw [hempty, Text.splitList_empty, List.nil_append]
      rfl

/-- A piece that is expanded as text is split where its value is. -/
theorem exists_value_of_asText {piece : String} {e : Expression} {items : List Item}
    {w w' : World} (hopened : (x.setting options lookup w).opened = false)
    (he : Expression.parse options piece = .ok e)
    (h : (if e.isLiteral then return x.itemsOfText factory piece
      else do
        return x.itemsOfText factory
          (← x.eval options lookup fun s => evalExpression s none e)).result w = (.ok items, w')) :
    w' = w ∧ ∃ t, (evalExpression (x.setting options lookup w) none e).result w = (.ok t, w) ∧
      entriesOfItems items = Text.splitList t := by
  cases hliteral : e.isLiteral with
  | true =>
    rw [hliteral] at h
    cases h
    refine ⟨rfl, piece, ?_, entriesOfItems_itemsOfText piece⟩
    rw [evalExpression_of_isLiteral he hliteral, result_pure]
  | false =>
    simp only [hliteral, Bool.false_eq_true, if_false] at h
    obtain ⟨t, w₁, ht, hreturn⟩ := result_bind_eq_ok.1 h
    cases hreturn
    have ht := (x.result_eval_eq_ok options lookup).1 ht
    have hw := keeps_evalExpression hopened none e w
    rw [ht] at hw
    obtain rfl : w' = w := hw
    exact ⟨rfl, t, ht, entriesOfItems_itemsOfText t⟩

/-- The items of a piece have the entries of its value. -/
theorem exists_value_of_expandPiece {piece : String} {items : List Item} {w w' : World}
    (hclosed : FunctionTable.isOpen x.allFunctions w.vars = false)
    (htruncate : options.truncate = false)
    (h : (x.expandPiece piece options lookup factory).result w = (.ok items, w')) :
    w' = w ∧ ∃ e t, Expression.parse options piece = .ok e ∧
      (evalExpression (x.setting options lookup w) none e).result w = (.ok t, w) ∧
      entriesOfItems items = Text.splitList t := by
  cases he : Expression.parse options piece with
  | error m =>
    rw [expandPiece, parse, he] at h
    cases h
  | ok e =>
    have hopened : (x.setting options lookup w).opened = false := hclosed
    cases hlist : e.singleItems? with
    | none =>
      rw [expandPiece, x.parse_of_ok options he, pure_bind] at h
      cases hitems : e.hasItems with
      | true =>
        simp only [hlist, hitems, if_true] at h
        cases h
      | false =>
        simp only [hlist, hitems, Bool.false_eq_true, if_false] at h
        obtain ⟨rfl, t, ht, htext⟩ := exists_value_of_asText hopened he h
        exact ⟨rfl, e, t, rfl, ht, htext⟩
    | some list =>
      cases hseparator : list.separator with
      | some separator =>
        rw [expandPiece, x.parse_of_ok options he, pure_bind] at h
        simp only [hlist, hseparator, Option.isSome_some, if_true] at h
        obtain ⟨rfl, t, ht, htext⟩ := exists_value_of_asText hopened he h
        exact ⟨rfl, e, t, rfl, ht, htext⟩
      | none =>
        obtain ⟨entries, hentries, rfl⟩ := exists_entries_of_expandPiece he hlist hseparator h
        have hw := keeps_evalEntries hopened list w
        rw [hentries] at hw
        obtain rfl : w' = w := hw
        obtain ⟨t, ht, htext⟩ := exists_value_of_list (s := x.setting options lookup w')
          htruncate hseparator hentries
        refine ⟨rfl, e, t, rfl, ?_, ?_⟩
        · rw [evalExpression_of_singleItems _ _ hlist]
          exact ht
        · rw [entriesOfItems_itemsOfEntries, htext]

/-! ## All pieces -/

theorem result_evalSegments_append {s : Setting} {item : Option Item} {xs ys : List Segment}
    {t u : String} {w w₁ w₂ : World} (hx : (evalSegments s item xs).result w = (.ok t, w₁))
    (hy : (evalSegments s item ys).result w₁ = (.ok u, w₂)) :
    (evalSegments s item (xs ++ ys)).result w = (.ok (t ++ u), w₂) := by
  rw [evalSegments_append]
  exact result_bind_eq_ok.2 ⟨t, w₁, hx, result_bind_eq_ok.2 ⟨u, w₂, hy, rfl⟩⟩

/-- The pieces that become items, of the texts between cuts. -/
def piecesOf (css : List (List Char)) : List String :=
  ((css.map Chars.trim).filter fun p => !p.isEmpty).map String.ofList

theorem pieces_eq (text : String) :
    pieces text = piecesOf (Chars.splitOutside 0 none [] text.toList) := rfl

theorem piecesOf_cons (cs : List Char) (css : List (List Char)) :
    piecesOf (cs :: css) =
      if (Chars.trim cs).isEmpty then piecesOf css
      else String.ofList (Chars.trim cs) :: piecesOf css := by
  cases h : (Chars.trim cs).isEmpty <;> simp [piecesOf, h]

/-- Tokens have the entries of the value of their text when it is trimmed. -/
theorem exists_value_of_trim {ts : List Token} (hfits : ∀ t ∈ ts, t.Fits options)
    (hplain : ∀ t ∈ ts, t.NoParenthesis) {e : Expression}
    (he : Expression.parse options (String.ofList (Chars.trim (Token.textAll ts))) = .ok e)
    {s : Setting} {item : Option Item} {t : String} {w w' : World}
    (h : (evalExpression s item e).result w = (.ok t, w')) :
    ∃ u, (evalSegments s item (ts.map Token.segment)).result w = (.ok u, w') ∧
      Text.splitList u = Text.splitList t := by
  obtain ⟨ws, us, inner, hws, hus, hts, hinner⟩ := Token.exists_trim_tokens hfits
  have hscan : Token.Scan options inner :=
    Token.Scan.of_noParenthesis (fun t ht => hfits t (by rw [hts]; simp [ht]))
      fun t ht => hplain t (by rw [hts]; simp [ht])
  have hvalue : evalExpression s item e = evalSegments s item (inner.map Token.segment) :=
    Token.evalExpression_eq hscan.readable (by rw [String.toList_ofList, hinner]) he s item
  refine ⟨String.ofList ws ++ (t ++ String.ofList us), ?_, Text.splitList_blanks hws hus t⟩
  rw [hts, evalSegments_chars, List.map_append, evalSegments_append, evalSegments_map_char,
    ← hvalue]
  simp only [pure_bind, bind_assoc]
  exact result_bind_eq_ok.2 ⟨t, w', h, rfl⟩

/-- The first text between cuts: it has the entries of its items, and the other texts give the
other items. -/
theorem exists_value_of_first {ts : List Token} (hfits : ∀ t ∈ ts, t.Fits options)
    (hplain : ∀ t ∈ ts, t.NoParenthesis) {css : List (List Char)} {found : List (List Item)}
    {w w' : World} (hclosed : FunctionTable.isOpen x.allFunctions w.vars = false)
    (htruncate : options.truncate = false)
    (h : ((piecesOf (Token.textAll ts :: css)).mapM fun piece =>
      x.expandPiece piece options lookup factory).result w = (.ok found, w')) :
    ∃ t items more,
      (evalSegments (x.setting options lookup w) none (ts.map Token.segment)).result w =
        (.ok t, w) ∧
      Text.splitList t = entriesOfItems items ∧
      ((piecesOf css).mapM fun piece =>
        x.expandPiece piece options lookup factory).result w = (.ok more, w') ∧
      found.flatten = items ++ more.flatten := by
  rw [piecesOf_cons] at h
  by_cases hempty : (Chars.trim (Token.textAll ts)).isEmpty = true
  · -- a blank text gives no piece, and its value is blank
    rw [if_pos hempty] at h
    have htrim : Chars.trim (Token.textAll ts) = [] := List.isEmpty_iff.1 hempty
    have he : Expression.parse options (String.ofList (Chars.trim (Token.textAll ts))) =
        .ok (.mk (Rest.ofText "").span []) := by
      rw [htrim]
      rfl
    have hvalue : (evalExpression (x.setting options lookup w) none
        (.mk (Rest.ofText "").span [])).result w = (.ok "", w) := rfl
    obtain ⟨t, ht, hentries⟩ := exists_value_of_trim hfits hplain he hvalue
    exact ⟨t, [], found, ht, hentries, h, rfl⟩
  · rw [if_neg hempty, List.mapM_cons] at h
    obtain ⟨items, w₁, hitems, h⟩ := result_bind_eq_ok.1 h
    obtain ⟨more, w₂, hmore, hreturn⟩ := result_bind_eq_ok.1 h
    obtain ⟨rfl, e, t, he, ht, hentries⟩ := exists_value_of_expandPiece hclosed htruncate hitems
    cases hreturn
    obtain ⟨u, hu, hsplit⟩ := exists_value_of_trim hfits hplain he ht
    exact ⟨u, items, more, hu, by rw [hsplit, hentries], hmore, List.flatten_cons⟩

/-- The texts behind cuts: behind any text their value has the entries of their items. -/
theorem exists_value_of_behindCuts {rest : List (List Token)}
    (hfits : ∀ ts ∈ rest, ∀ t ∈ ts, t.Fits options)
    (hplain : ∀ ts ∈ rest, ∀ t ∈ ts, t.NoParenthesis) {found : List (List Item)} {w w' : World}
    (hclosed : FunctionTable.isOpen x.allFunctions w.vars = false)
    (htruncate : options.truncate = false)
    (h : ((piecesOf (rest.map Token.textAll)).mapM fun piece =>
      x.expandPiece piece options lookup factory).result w = (.ok found, w')) :
    w' = w ∧ ∃ u,
      (evalSegments (x.setting options lookup w) none
        ((Token.behindCuts rest).map Token.segment)).result w = (.ok u, w) ∧
      ∀ a, Text.splitList (a ++ u) = Text.splitList a ++ entriesOfItems found.flatten := by
  induction rest generalizing found with
  | nil =>
    cases h
    refine ⟨rfl, "", rfl, fun a => ?_⟩
    rw [String.append_empty]
    exact (List.append_nil _).symm
  | cons ts rest ih =>
    rw [List.map_cons] at h
    obtain ⟨t, items, more, ht, hentries, hmore, hfound⟩ :=
      exists_value_of_first (hfits ts (by simp)) (hplain ts (by simp)) hclosed htruncate h
    obtain ⟨hw, u, hu, hbehind⟩ := ih (fun ts hts => hfits ts (by simp [hts]))
      (fun ts hts => hplain ts (by simp [hts])) hmore
    refine ⟨hw, ";" ++ (t ++ u), ?_, fun a => ?_⟩
    · rw [Token.behindCuts, List.flatMap_cons, List.cons_append, List.map_cons, Token.segment,
        evalSegments_literal, List.map_append]
      exact result_bind_eq_ok.2 ⟨t ++ u, w, result_evalSegments_append ht hu, rfl⟩
    · rw [Text.splitList_append, hbehind, hentries, hfound, entriesOfItems_append]

/-- A text that is expanded to items without parentheses in plain text is also expanded to a list,
with the entries of the items. -/
theorem expandItems_agrees {text : String} {e : Expression} {items : List Item} {w w' : World}
    (hclosed : FunctionTable.isOpen x.allFunctions w.vars = false)
    (htruncate : options.truncate = false) (he : Expression.parse options text = .ok e)
    (hplain : ∀ s, Segment.literal s ∈ e.segments → '(' ∉ s.text.toList ∧ ')' ∉ s.text.toList)
    (h : (x.expandItems text options lookup factory).result w = (.ok items, w')) :
    w' = w ∧ ∃ t, (x.expandEscaped text options lookup).result w = (.ok t, w) ∧
      (items.flatMap fun item => Text.splitList item.spec) = Text.splitList t := by
  obtain ⟨ts, htext, hfits, hchars⟩ := Token.exists_tokens he hplain
  obtain ⟨first, rest, hpieces, hts⟩ := Token.splitOutside_tokens hfits hchars []
  rw [htext, List.reverse_nil, List.nil_append] at hpieces
  obtain ⟨found, w₁, hfound, hreturn⟩ := result_bind_eq_ok.1 h
  cases hreturn
  rw [pieces_eq, hpieces] at hfound
  have hmem (t : Token) (ht : t ∈ first ∨ ∃ us ∈ rest, t ∈ us) : t ∈ ts := by
    rw [hts, List.mem_append, Token.behindCuts, List.mem_flatMap]
    rcases ht with ht | ⟨us, hus, ht⟩
    · exact .inl ht
    · exact .inr ⟨us, hus, List.mem_cons_of_mem _ ht⟩
  obtain ⟨t, firstItems, more, ht, hentries, hmore, hflatten⟩ :=
    exists_value_of_first (fun t ht => hfits t (hmem t (.inl ht)))
      (fun t ht => hchars t (hmem t (.inl ht))) hclosed htruncate hfound
  obtain ⟨hw, u, hu, hbehind⟩ :=
    exists_value_of_behindCuts (fun us hus t ht => hfits t (hmem t (.inr ⟨us, hus, ht⟩)))
      (fun us hus t ht => hchars t (hmem t (.inr ⟨us, hus, ht⟩))) hclosed htruncate hmore
  have hvalue : (evalExpression (x.setting options lookup w) none e).result w =
      (.ok (t ++ u), w) := by
    rw [Token.evalExpression_eq (Token.Scan.of_noParenthesis hfits hchars).readable htext.symm he,
      hts, List.map_append]
    exact result_evalSegments_append ht hu
  refine ⟨hw, t ++ u, result_expandEscaped he hvalue, ?_⟩
  show entriesOfItems found.flatten = _
  rw [hbehind, hentries, hflatten, entriesOfItems_append]

theorem expandItems_agrees_of_list :
    ∃ items t,
      (({} : Expander).expandItems "a;$(P) ;@(I)" .all
          { scopes := [.ofDocument [("P", "x;y")] [("I", [{ spec := "i;j" }, { spec := "k" }])]] }
          {}).result .bare = (.ok items, .bare) ∧
        items.map Item.spec = ["a", "x", "y", "i;j", "k"] ∧
        (({} : Expander).expandEscaped "a;$(P) ;@(I)" .all
          { scopes := [.ofDocument [("P", "x;y")] [("I", [{ spec := "i;j" }, { spec := "k" }])]] }
          ).result .bare = (.ok t, .bare) ∧
        (items.flatMap fun item => Text.splitList item.spec) = Text.splitList t := by
  have hplain : (Expression.parse .all "a;$(P) ;@(I)").toOption.map (fun e =>
      e.segments.all fun s => !s.isLiteral ||
        (!s.span.text.toList.contains '(' && !s.span.text.toList.contains ')')) = some true := by
    decide +kernel
  have hspecs : (({} : Expander).expandItems "a;$(P) ;@(I)" .all
      { scopes := [.ofDocument [("P", "x;y")] [("I", [{ spec := "i;j" }, { spec := "k" }])]] }
      {} |>.result .bare).1.toOption.map (List.map Item.spec) =
        some ["a", "x", "y", "i;j", "k"] := by
    decide +kernel
  cases he : Expression.parse .all "a;$(P) ;@(I)" with
  | error m =>
    rw [he] at hplain
    cases hplain
  | ok e =>
    rw [he] at hplain
    have hplain := List.all_eq_true.1 (Option.some.inj hplain)
    rcases h : (({} : Expander).expandItems "a;$(P) ;@(I)" .all
      { scopes := [.ofDocument [("P", "x;y")] [("I", [{ spec := "i;j" }, { spec := "k" }])]] }
      {}).result .bare with ⟨d | items, w⟩
    · rw [h] at hspecs
      cases hspecs
    · rw [h] at hspecs
      obtain ⟨rfl, t, ht, hentries⟩ := expandItems_agrees (by decide +kernel) rfl he
        (fun s hs => by simpa [Segment.isLiteral, Segment.span] using hplain _ hs) h
      exact ⟨items, t, rfl, Option.some.inj hspecs, ht, hentries⟩

end Expander

end BuildExpr
