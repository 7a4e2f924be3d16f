import BuildExpr.Proofs.Registry.KeyParts
import Mathlib.Data.List.Forall2
import Mathlib.Logic.Relation

/-!
# Normal forms of registry keys

What can be written differently in a key is listed in `RegistryKey.Respelling`. A respelling keeps
the hive and the path (`RegistryKey.Respelling.sameKey`), and so do all respellings in turn.

Blanks around a key are taken away before the separators at the end of its path are. So the path of
a normal form may end in a blank, and exactly then the normal form of the normal form is another
(`RegistryKey.normalize_canonical_iff`).
-/

namespace BuildExpr

namespace RegistryKey

open Chars

/-! ## Respellings -/

/-- Keys with the same hive, or no valid one, and the same path. -/
def SameKey (key other : List Char) : Prop :=
  hive? (hivePart (reduced key)) = hive? (hivePart (reduced other)) ∧
    bare (pathPart (reduced key)) = bare (pathPart (reduced other))

theorem SameKey.of_reduced {key other : List Char} (h : reduced key = reduced other) :
    SameKey key other := by
  rw [SameKey, h]
  exact ⟨rfl, rfl⟩

/-- What may follow the name of a hive: blanks, or a path. -/
def FollowsHive (after : List Char) : Prop :=
  Blank after ∨ ∃ c more, isDivider c = true ∧ after = c :: more

/-- Another way to write a key. -/
inductive Respelling : List Char → List Char → Prop
  /-- Letters in the other case. -/
  | letters {key other : List Char} : key.map Char.toLower = other.map Char.toLower →
    Respelling key other
  /-- Separators of the other kind. -/
  | dividers {key other : List Char} :
    List.Forall₂ (fun c d => c = d ∨ isDivider c = true ∧ isDivider d = true) key other →
    Respelling key other
  /-- The other name of the hive. -/
  | hive {hive : String × String} {name other before after : List Char} : hive ∈ hives →
    NamesHive hive name → NamesHive hive other → Blank before → FollowsHive after →
    Respelling (before ++ name ++ after) (before ++ other ++ after)
  /-- Blanks around the key. -/
  | blanks {key before after : List Char} : Blank before → Blank after →
    Respelling key (before ++ key ++ after)
  /-- Separators right behind the last character that is no blank. -/
  | separators {key more : List Char} : ¬EndsBlank key → (∀ c ∈ more, isDivider c = true) →
    Respelling key (key ++ more)

theorem map_uniform_of_letters {key other : List Char}
    (h : key.map Char.toLower = other.map Char.toLower) : key.map uniform = other.map uniform := by
  have huniform (cs : List Char) : cs.map uniform = (cs.map Char.toLower).map uniform := by
    rw [List.map_map]
    exact List.map_congr_left fun c _ => (uniform_toLower c).symm
  rw [huniform key, h, ← huniform]

theorem map_uniform_of_dividers {key other : List Char}
    (h : List.Forall₂ (fun c d => c = d ∨ isDivider c = true ∧ isDivider d = true) key other) :
    key.map uniform = other.map uniform := by
  induction h with
  | nil => rfl
  | cons hcd _ ih =>
    rw [List.map_cons, List.map_cons, ih]
    rcases hcd with rfl | ⟨hc, hd⟩
    · rfl
    · rw [uniform_of_isDivider hc, uniform_of_isDivider hd]

theorem map_uniform_dividers {more : List Char} (h : ∀ c ∈ more, isDivider c = true) :
    more.map uniform = List.replicate more.length '\\' := by
  rw [List.eq_replicate_iff]
  refine ⟨List.length_map _, fun c hc => ?_⟩
  obtain ⟨d, hd, rfl⟩ := List.mem_map.1 hc
  exact uniform_of_isDivider (h d hd)

theorem not_endsBlank_separator : ¬EndsBlank ['\\'] := by
  rintro ⟨c, hlast, hblank⟩
  obtain rfl := Option.some.inj hlast
  cases hblank

/-- The parts of a key that begins with a hive. -/
theorem reduced_hive {name : List Char} {full : String} (h : hive? name = some full)
    {before after : List Char} (hbefore : Blank before) (hafter : FollowsHive after) :
    hivePart (reduced (before ++ name ++ after)) = name.map uniform ∧
      pathPart (reduced (before ++ name ++ after)) = trimEnd (after.map uniform) := by
  have hname := hive?_map_uniform h
  have hreduced : reduced (before ++ name ++ after) =
      name.map uniform ++ trimEnd (after.map uniform) := by
    have hends := trim_append hbefore Blank.nil (name.map uniform ++ after.map uniform)
    rw [reduced, List.map_append, List.map_append, Blank.map_uniform hbefore, List.append_assoc,
      ← trim_append_of_plain (startsPlain_of_hive? hname) (not_endsBlank_of_hive? hname)
        (of_hive?_eq_some hname).1, ← hends, List.append_nil]
  have hpath : ∀ c, (trimEnd (after.map uniform)).head? = some c → c = '\\' := by
    intro c hc
    rcases hafter with hblank | ⟨d, more, hd, rfl⟩
    · rw [Blank.map_uniform hblank, trimEnd_blank hblank] at hc
      cases hc
    · rw [List.map_cons, uniform_of_isDivider hd, ← List.singleton_append,
        trimEnd_append_of_not_endsBlank not_endsBlank_separator] at hc
      exact (Option.some.inj hc).symm
  rw [hreduced]
  exact parts_append (separator_not_mem_of_hive? hname) hpath

theorem endsBlank_map_uniform {key : List Char} : EndsBlank (key.map uniform) ↔ EndsBlank key := by
  simp only [EndsBlank, List.getLast?_map, Option.map_eq_some_iff, ↓existsAndEq, and_true]
  simp only [isBlank_uniform]

/-- Separators behind a key keep the blanks at its end. -/
theorem exists_reduced_append {key more : List Char} (hkey : reduced key ≠ [])
    (hmore : ∀ c ∈ more, isDivider c = true) (hne : more ≠ []) :
    ∃ us, Blank us ∧ (us ≠ [] ↔ EndsBlank key) ∧
      reduced (key ++ more) = reduced key ++ us ++ List.replicate more.length '\\' := by
  obtain ⟨ws, us, hws, hus, hsplit⟩ := exists_trim (key.map uniform)
  rw [← reduced] at hsplit
  have hmarks : List.replicate more.length '\\' ≠ [] := by simpa using hne
  have hstart : StartsPlain (reduced key ++ us ++ List.replicate more.length '\\') := by
    rw [List.append_assoc]
    exact (startsPlain_trim _).append hkey _
  have hend : ¬EndsBlank (reduced key ++ us ++ List.replicate more.length '\\') := by
    rw [endsBlank_append hmarks]
    rintro ⟨c, hlast, hblank⟩
    rw [List.eq_of_mem_replicate (List.mem_of_getLast? hlast)] at hblank
    cases hblank
  refine ⟨us, hus, ?_, ?_⟩
  · rw [← endsBlank_map_uniform, hsplit]
    constructor
    · exact fun hus' => (endsBlank_append hus').2 (hus.endsBlank hus')
    · rintro h rfl
      rw [List.append_nil, endsBlank_append hkey] at h
      exact not_endsBlank_trim _ h
  · rw [reduced, List.map_append, map_uniform_dividers hmore, hsplit]
    have := trim_append hws Blank.nil (reduced key ++ us ++ List.replicate more.length '\\')
    rw [List.append_nil, trim_of_plain hstart hend] at this
    rw [← this]
    simp only [List.append_assoc]

/-- A respelling keeps the hive and the path. -/
theorem Respelling.sameKey {key other : List Char} (h : Respelling key other)
    (hkey : reduced key ≠ []) : SameKey key other := by
  cases h with
  | letters h => exact .of_reduced (by rw [reduced, map_uniform_of_letters h, reduced])
  | dividers h => exact .of_reduced (by rw [reduced, map_uniform_of_dividers h, reduced])
  | hive hmem hname hother hbefore hafter =>
    have hname := hive?_of_namesHive hmem hname
    have hother := hive?_of_namesHive hmem hother
    obtain ⟨hhive, hpath⟩ := reduced_hive hname hbefore hafter
    obtain ⟨hhive', hpath'⟩ := reduced_hive hother hbefore hafter
    rw [SameKey, hhive, hpath, hhive', hpath', hive?_map_uniform hname, hive?_map_uniform hother]
    exact ⟨rfl, rfl⟩
  | blanks hbefore hafter =>
    refine .of_reduced ?_
    rw [reduced, reduced, List.map_append, List.map_append, Blank.map_uniform hbefore,
      Blank.map_uniform hafter, trim_append hbefore hafter]
  | @separators key more hend hmore =>
    by_cases hne : more = []
    · rw [hne, List.append_nil]
      exact .of_reduced rfl
    · obtain ⟨us, -, hus, hreduced⟩ := exists_reduced_append hkey hmore hne
      obtain rfl : us = [] := by
        by_contra hne
        exact hend (hus.1 hne)
      rw [List.append_nil] at hreduced
      obtain ⟨hhive, hpath⟩ := parts_append_path (reduced key) (head?_replicate more.length)
      rw [SameKey, hreduced, hhive, hpath, bare_append_separators]
      exact ⟨rfl, rfl⟩

theorem reduced_ne_nil {key : List Char} {full : String}
    (h : hive? (hivePart (reduced key)) = some full) : reduced key ≠ [] := by
  intro hnil
  rw [hnil] at h
  exact (of_hive?_eq_some h).1 rfl

/-- Respelling a key any number of times leaves its normal form as it was. -/
theorem normalize_respelled {key other : List Char} {normal : String}
    (h : normalize (String.ofList key) = .ok normal)
    (hspell : Relation.ReflTransGen Respelling key other) :
    normalize (String.ofList other) = .ok normal := by
  induction hspell with
  | refl => exact h
  | tail _ step ih =>
    obtain ⟨hive, hhive, hform⟩ := normalize_eq_ok_iff.1 ih
    rw [String.toList_ofList] at hhive hform
    obtain ⟨hhive', hpath⟩ := step.sameKey (reduced_ne_nil hhive)
    rw [normalize_eq_ok_iff, String.toList_ofList, ← hhive', ← hpath]
    exact ⟨hive, hhive, hform⟩

/-! ## Normal forms -/

theorem length_spelled_le (hive : String) (path : List Char) :
    (spelled hive path).length ≤ hive.toList.length + 1 + path.length := by
  rw [spelled]
  split
  · omega
  · rw [List.length_append, List.length_cons]
    omega

theorem length_spelled {path : List Char} (h : path ≠ []) (hive : String) :
    (spelled hive path).length = hive.toList.length + 1 + path.length := by
  rw [spelled, if_neg (by simpa using h), List.length_append, List.length_cons]
  omega

theorem uniform_of_mem_reduced {key : List Char} {c : Char} (h : c ∈ reduced key) :
    uniform c = c := by
  rw [reduced, trim_map_uniform] at h
  obtain ⟨d, -, rfl⟩ := List.mem_map.1 h
  exact uniform_uniform d

/-- The hive and the path of a normal form. -/
structure HasForm (normal : String) (hive : String) (path : List Char) : Prop where
  names : hive? hive.toList = some hive
  uniform_hive : hive.toList.map uniform = hive.toList
  uniform_path : path.map uniform = path
  bare_path : bare path = path
  eq_spelled : normal.toList = spelled hive path

theorem exists_hasForm {key normal : String} (h : normalize key = .ok normal) :
    ∃ hive path, HasForm normal hive path := by
  have hnames : ∀ hive ∈ hives, hive? hive.1.toList = some hive.1 ∧
      hive.1.toList.map uniform = hive.1.toList := by decide +kernel
  obtain ⟨full, hfull, hform⟩ := normalize_eq_ok_iff.1 h
  obtain ⟨hive, hmem, rfl, -⟩ := exists_of_hive?_eq_some hfull
  refine ⟨hive.1, _, (hnames hive hmem).1, (hnames hive hmem).2, ?_, bare_bare _, hform⟩
  refine (List.map_congr_left fun c hc => ?_).trans (List.map_id' _)
  have hpath := (List.dropWhile_suffix fun c => !isSeparator c).subset (mem_of_mem_bare hc)
  exact uniform_of_mem_reduced hpath

theorem HasForm.followsHive {normal hive : String} {path : List Char}
    (h : HasForm normal hive path) :
    ∃ after, FollowsHive after ∧ normal.toList = hive.toList ++ after ∧
      after.map uniform = after ∧ (after = [] ∧ path = [] ∨ after = '\\' :: path ∧ path ≠ []) := by
  have heq := h.eq_spelled
  rw [spelled] at heq
  by_cases hpath : path = []
  · rw [hpath, List.isEmpty_nil, if_pos rfl] at heq
    exact ⟨[], .inl Blank.nil, by simpa using heq, rfl, .inl ⟨rfl, hpath⟩⟩
  · rw [if_neg (by simpa using hpath)] at heq
    refine ⟨'\\' :: path, .inr ⟨_, _, rfl, rfl⟩, heq, ?_, .inr ⟨rfl, hpath⟩⟩
    rw [List.map_cons, h.uniform_path]
    rfl

/-- A normal form is the normal form of itself exactly when it does not end in a blank. -/
theorem HasForm.normalize_self_iff {normal hive : String} {path : List Char}
    (h : HasForm normal hive path) :
    normalize normal = .ok normal ↔ ¬EndsBlank normal.toList := by
  obtain ⟨after, hfollows, hnormal, huniform, hafter⟩ := h.followsHive
  obtain ⟨hhive, hpath⟩ := reduced_hive h.names Blank.nil hfollows
  rw [List.nil_append, ← hnormal] at hhive hpath
  rw [h.uniform_hive] at hhive
  rw [huniform] at hpath
  have hself : normalize normal = .ok normal ↔
      spelled hive path = spelled hive (bare (trimEnd after)) := by
    rw [normalize_eq_ok_iff, hhive, hpath, h.names, h.eq_spelled]
    simp
  rw [hself, hnormal]
  rcases hafter with ⟨rfl, rfl⟩ | ⟨rfl, hne⟩
  · rw [List.append_nil]
    exact ⟨fun _ => not_endsBlank_of_hive? h.names, fun _ => rfl⟩
  · have htrim : bare (trimEnd ('\\' :: path)) = bare (trimEnd path) := by
      rw [← List.singleton_append, trimEnd_append_of_not_endsBlank not_endsBlank_separator]
      exact bare_separator_cons (trimEnd path)
    rw [htrim, ← List.singleton_append, endsBlank_append (by simp), endsBlank_append hne]
    constructor
    · rintro hsame ⟨c, hlast, hblank⟩
      -- the normal form of the normal form is shorter
      obtain ⟨us, hus, hpath⟩ := exists_trimEnd path
      have husne : us ≠ [] := by
        rintro rfl
        rw [List.append_nil] at hpath
        exact not_endsBlank_trimEnd path (hpath ▸ ⟨c, hlast, hblank⟩)
      have hlong := length_spelled hne hive
      have hshort := length_spelled_le hive (bare (trimEnd path))
      have hbare := length_bare_le (trimEnd path)
      have hdrop := (List.dropWhile_suffix isSeparator (l := trimEnd path)).length_le
      have hlength := congrArg List.length hpath
      rw [List.length_append] at hlength
      have huspos := List.length_pos_iff.2 husne
      rw [hsame] at hlong
      omega
    · intro hend
      rw [trimEnd_of_not_endsBlank hend, h.bare_path]

/-- A normal form does not end in a separator of either kind. -/
theorem HasForm.isDivider_getLast? {normal hive : String} {path : List Char}
    (h : HasForm normal hive path) {c : Char} (hc : normal.toList.getLast? = some c) :
    isDivider c = false := by
  obtain ⟨after, -, hnormal, -, hafter⟩ := h.followsHive
  rw [hnormal] at hc
  rcases hafter with ⟨rfl, -⟩ | ⟨rfl, hne⟩
  · rw [List.append_nil] at hc
    have := (of_hive?_eq_some h.names).2 c (List.mem_of_getLast? hc)
    exact (Bool.or_eq_false_iff.1 this).2
  · rw [List.getLast?_append_of_ne_nil _ (by simp), List.getLast?_cons_of_ne_nil hne] at hc
    have hmark : isSeparator c = false := by
      rw [← h.bare_path] at hc
      exact isSeparator_of_getLast?_bare hc
    have huniform : uniform c = c :=
      List.map_inj_left.1 (h.uniform_path.trans (List.map_id path).symm) c
        (List.mem_of_getLast? hc)
    rw [isDivider, Bool.or_eq_false_iff]
    refine ⟨?_, hmark⟩
    rw [beq_eq_false_iff_ne]
    rintro rfl
    exact absurd huniform (by decide)

/-- Separators behind a key do not count exactly when no blank is in front of them. -/
theorem normalize_append_iff {key normal : String} (h : normalize key = .ok normal)
    {more : List Char} (hmore : ∀ c ∈ more, isDivider c = true) :
    normalize (key ++ String.ofList more) = .ok normal ↔ more = [] ∨ ¬EndsBlank key.toList := by
  obtain ⟨hive, hhive, hform⟩ := normalize_eq_ok_iff.1 h
  constructor
  · intro hsame
    by_contra hnot
    obtain ⟨hne, hblank⟩ := not_or.1 hnot
    obtain ⟨us, hus, hiff, hreduced⟩ := exists_reduced_append (reduced_ne_nil hhive) hmore hne
    have husne := hiff.2 (not_not.1 hblank)
    obtain ⟨hive', hhive', hform'⟩ := normalize_eq_ok_iff.1 hsame
    rw [String.toList_append, String.toList_ofList, hreduced] at hhive' hform'
    obtain ⟨hhead, htail⟩ :=
      parts_append_path (reduced key.toList ++ us) (head?_replicate more.length)
    rw [hhead] at hhive'
    rw [htail, bare_append_separators] at hform'
    have hparts := hivePart_append_pathPart (reduced key.toList)
    have hname := separator_not_mem_hivePart (reduced key.toList)
    by_cases hpath : pathPart (reduced key.toList) = []
    · -- the blanks would belong to the name of the hive
      rw [hpath, List.append_nil] at hparts
      have hmark : '\\' ∉ reduced key.toList ++ us := by
        rw [List.mem_append, not_or]
        exact ⟨hparts ▸ hname, hus.not_mem rfl⟩
      have hall : hivePart (reduced key.toList ++ us) = reduced key.toList ++ us := by
        have := (parts_append hmark (head?_replicate 0)).1
        rwa [List.replicate_zero, List.append_nil] at this
      rw [hall] at hhive'
      exact not_endsBlank_of_hive? hhive' ((endsBlank_append husne).2 (hus.endsBlank husne))
    · -- the blanks belong to the path, which is longer by them
      have hfirst : ∀ c, (pathPart (reduced key.toList) ++ us).head? = some c → c = '\\' :=
        fun c hc => head?_pathPart (by rwa [List.head?_append_of_ne_nil _ hpath] at hc)
      obtain ⟨hsame, hlonger⟩ := parts_append hname hfirst
      rw [← List.append_assoc, hparts] at hsame hlonger
      rw [hsame, hhive] at hhive'
      obtain rfl := Option.some.inj hhive'
      rw [hlonger, bare_append_blank hus husne] at hform'
      have hne : (pathPart (reduced key.toList)).dropWhile isSeparator ++ us ≠ [] :=
        List.append_ne_nil_of_right_ne_nil _ husne
      have hlong := length_spelled hne hive
      have hshort := length_spelled_le hive (bare (pathPart (reduced key.toList)))
      have hbare := length_bare_le (pathPart (reduced key.toList))
      have huspos := List.length_pos_iff.2 husne
      rw [← hform', hform, List.length_append] at hlong
      omega
  · rintro (rfl | hend)
    · simpa using h
    · rw [← @String.ofList_toList key, ← String.ofList_append]
      rw [← @String.ofList_toList key] at h
      exact normalize_respelled h (.single (.separators hend hmore))

/-- The normal form of a key stands for all its spellings but those in which blanks come before the
separators at the end. A normal form does not end in a separator, and respelling the key leaves its
normal form as it was: in letters of the other case, in separators of the other kind, with the other
name of the hive, with blanks around it, with separators right behind it. The normal form is the
normal form of itself exactly when it does not end in a blank, and separators can be put behind a
key exactly when that does not. -/
theorem normalize_canonical_iff {key normal : String} (h : normalize key = .ok normal) :
    (normalize normal = .ok normal ↔ ¬EndsBlank normal.toList) ∧
    (∀ c, normal.toList.getLast? = some c → isDivider c = false) ∧
    (∀ other : String, Relation.ReflTransGen Respelling key.toList other.toList →
      normalize other = .ok normal) ∧
    ∀ more : List Char, (∀ c ∈ more, isDivider c = true) →
      (normalize (key ++ String.ofList more) = .ok normal ↔
        more = [] ∨ ¬EndsBlank key.toList) := by
  obtain ⟨hive, path, hform⟩ := exists_hasForm h
  refine ⟨hform.normalize_self_iff, fun c hc => hform.isDivider_getLast? hc, fun other hspell => ?_,
    fun more hmore => normalize_append_iff h hmore⟩
  have := normalize_respelled (by rwa [String.ofList_toList]) hspell
  rwa [String.ofList_toList] at this

/-- A key in another case, with the other name of its hive, other separators and blanks around it is
the same key. -/
theorem normalize_canonical_iff_of_respelled :
    normalize "hkcu/A" = .ok "hkey_current_user\\a" ∧
      normalize "hkey_current_user\\a" = .ok "hkey_current_user\\a" ∧
      normalize "\tHKey_Current_User\\a/ \n" = .ok "hkey_current_user\\a" ∧
      normalize ("hkcu/A" ++ String.ofList ['\\', '/']) = .ok "hkey_current_user\\a" := by
  have hkey : normalize "hkcu/A" = .ok "hkey_current_user\\a" := by decide +kernel
  have hplain : ¬EndsBlank "hkcu/A".toList := by
    rintro ⟨c, hlast, hblank⟩
    obtain rfl : 'A' = c := Option.some.inj hlast
    cases hblank
  obtain ⟨hself, -, hrespelled, hmore⟩ := normalize_canonical_iff hkey
  refine ⟨hkey, hself.2 ?_, hrespelled _ ?_, ?_⟩
  · rintro ⟨c, hlast, hblank⟩
    obtain rfl : 'a' = c := Option.some.inj hlast
    cases hblank
  · have hbehind : Respelling "hkcu/A".toList ("hkcu/A".toList ++ ['/']) :=
      .separators hplain (List.all_eq_true.1 rfl)
    have hhive : Respelling ([] ++ "hkcu".toList ++ "/A/".toList)
        ([] ++ "HKey_Current_User".toList ++ "/A/".toList) := by
      refine .hive (by decide : ("hkey_current_user", "hkcu") ∈ hives) (.inr ?_) (.inl ?_) Blank.nil
        (.inr ⟨'/', "A/".toList, rfl, rfl⟩)
      · decide +kernel
      · decide +kernel
    have hletters : Respelling "HKey_Current_User/A/".toList "HKey_Current_User/a/".toList :=
      .letters (by decide +kernel)
    have hdividers : Respelling "HKey_Current_User/a/".toList "HKey_Current_User\\a/".toList :=
      .dividers (by decide +kernel)
    have hblanks : Respelling "HKey_Current_User\\a/".toList
        (['\t'] ++ "HKey_Current_User\\a/".toList ++ [' ', '\n']) :=
      .blanks (List.all_eq_true.1 rfl) (List.all_eq_true.1 rfl)
    exact ((((Relation.ReflTransGen.single hbehind).tail hhive).tail hletters).tail hdividers).tail
      hblanks
  · exact (hmore ['\\', '/'] (List.all_eq_true.1 rfl)).2 (.inr hplain)

/-- Blanks in front of the separators at the end are kept, so that such a normal form is not its own
and the key is not the same with the separator as without. -/
theorem normalize_blank_kept :
    normalize "HKLM\\Foo \\" = .ok "hkey_local_machine\\foo " ∧
      normalize "hkey_local_machine\\foo " = .ok "hkey_local_machine\\foo" ∧
      normalize "HKLM\\Foo " = .ok "hkey_local_machine\\foo" := by
  decide +kernel

end RegistryKey

end BuildExpr
