import GraphPlugin.Path
import Mathlib.Data.List.Basic
import Mathlib.Logic.Relation

/-! Spellings of a path. Two texts spell the same path just when one comes out of the other by
leaving out, or putting in, a second slash, a slash at the end and a dot between slashes or after
the last one. So there are as many spellings of a path as one likes, and what makes a path is where
it starts, whether a dot comes first, and its names as they are written. -/
namespace GraphPlugin.Path

open Relation

/-- What can be left out of a spelling. -/
inductive Respelling : List Char → List Char → Prop
  | repeated (front back) : Respelling (front ++ '/' :: '/' :: back) (front ++ '/' :: back)
  | trailing {front} (filled : front ≠ []) : Respelling (front ++ ['/']) front
  | dot (front back) : Respelling (front ++ '/' :: '.' :: '/' :: back) (front ++ '/' :: back)
  | lastDot (front) : Respelling (front ++ ['/', '.']) (front ++ ['/'])

def names (cs : List Char) : List (List Char) := (cs.splitOn '/').filter isName

def DotFirst (cs : List Char) : Prop := (cs.splitOn '/').head? = some ['.']

instance (cs : List Char) : Decidable (DotFirst cs) :=
  inferInstanceAs (Decidable ((cs.splitOn '/').head? = some ['.']))

theorem pieces_eq (cs : List Char) : pieces cs = cs.splitOn '/' := by
  fun_induction pieces cs with
  | case1 => simp
  | case2 rest ih => simp [List.splitOn_cons_eq_if_modifyHead, ih]
  | case3 c rest other none ih =>
    rw [none] at ih
    exact absurd ih.symm (List.splitOn_ne_nil _ _)
  | case4 c rest other piece others found ih =>
    have apart : c ≠ '/' := other
    simp [List.splitOn_cons_eq_if_modifyHead, apart, ← ih, found]

theorem head?_of_dotFirst {cs : List Char} (dot : DotFirst cs) : cs.head? = some '.' := by
  have joined : ['/'].intercalate (cs.splitOn '/') = cs := List.intercalate_splitOn '/'
  obtain ⟨rest, split⟩ := List.head?_eq_some_iff.1 dot
  rw [split] at joined
  rw [← joined]
  cases rest <;> simp

theorem ofList_eq (cs : List Char) :
    ofList cs = ⟨cs.head? == some '/', (if DotFirst cs then [['.']] else []) ++ names cs⟩ := by
  unfold ofList names
  rw [pieces_eq]
  split
  · next rest split =>
    have dot : DotFirst cs := by simp [DotFirst, split]
    simp [head?_of_dotFirst dot, dot, split, isName]
  · next rest other =>
    have dotless : ¬ DotFirst cs := by
      intro dot
      obtain ⟨rest, split⟩ := List.head?_eq_some_iff.1 dot
      exact other rest split
    simp [dotless]

theorem dot_cons_ne {cs ds : List Char} : ['.'] :: names cs ≠ names ds := by
  intro same
  have here : ['.'] ∈ names ds := by
    rw [← same]
    exact List.mem_cons_self
  simp [names, isName] at here

theorem same_iff (s t : String) : Same s t ↔
    (s.toList.head? = some '/' ↔ t.toList.head? = some '/') ∧
      (DotFirst s.toList ↔ DotFirst t.toList) ∧ names s.toList = names t.toList := by
  unfold Same ofString
  rw [ofList_eq, ofList_eq, Path.mk.injEq, ← Bool.coe_iff_coe, beq_iff_eq, beq_iff_eq]
  apply and_congr_right
  intro _
  by_cases first : DotFirst s.toList
  · by_cases second : DotFirst t.toList
    · simp [first, second]
    · simp [first, second, dot_cons_ne]
  · by_cases second : DotFirst t.toList
    · simp [first, second, dot_cons_ne.symm]
    · simp [first, second]

theorem names_slash (front back : List Char) :
    names (front ++ '/' :: back) = names front ++ names back := by
  simp [names, List.splitOn_append_cons_self]

theorem dotFirst_slash (front back : List Char) :
    DotFirst (front ++ '/' :: back) ↔ DotFirst front := by
  unfold DotFirst
  rw [List.splitOn_append_cons_self, List.head?_append_of_ne_nil _ (List.splitOn_ne_nil _ _)]

theorem ofList_slash {front back other : List Char} (same : names back = names other) :
    ofList (front ++ '/' :: back) = ofList (front ++ '/' :: other) := by
  simp only [ofList_eq, names_slash, dotFirst_slash, same]
  cases front <;> simp

theorem Respelling.ofList_eq {cs ds : List Char} (step : Respelling cs ds) :
    ofList cs = ofList ds := by
  cases step with
  | repeated front back => exact ofList_slash (names_slash [] back)
  | trailing filled =>
    simp only [Path.ofList_eq, names_slash, dotFirst_slash, List.head?_append_of_ne_nil _ filled]
    simp [names, isName]
  | dot front back => exact ofList_slash (names_slash ['.'] back)
  | lastDot front => exact ofList_slash rfl

theorem ofList_eq_of_respelled {cs ds : List Char} (joined : EqvGen Respelling cs ds) :
    ofList cs = ofList ds := by
  induction joined with
  | rel cs ds step => exact step.ofList_eq
  | refl cs => rfl
  | symm cs ds _ ih => exact ih.symm
  | trans cs ds es _ _ first second => exact first.trans second

/-- The spelling with nothing that can be left out. -/
def plain (p : Path) : List Char :=
  (if p.absolute then ['/'] else []) ++ ['/'].intercalate p.components

def behind (rest : List (List Char)) : List Char := rest.flatMap ('/' :: ·)

theorem intercalate_cons (first : List Char) (rest : List (List Char)) :
    ['/'].intercalate (first :: rest) = first ++ behind rest := by
  induction rest generalizing first with
  | nil => simp [behind]
  | cons piece rest ih => simp [List.intercalate_cons_cons, ih, behind]

def joined (front : List Char) (rest : List (List Char)) : List Char :=
  if front ++ behind rest = [] then ['/'] else front ++ behind rest

theorem isName_eq_false_iff {piece : List Char} :
    isName piece = false ↔ piece = [] ∨ piece = ['.'] := by
  simp [isName, or_iff_not_imp_left]

theorem leave_out {piece : List Char} (blank : isName piece = false) (front back : List Char) :
    Respelling (front ++ '/' :: (piece ++ '/' :: back)) (front ++ '/' :: back) := by
  rcases isName_eq_false_iff.1 blank with rfl | rfl
  · exact .repeated front back
  · exact .dot front back

theorem leave_out_last {piece : List Char} (blank : isName piece = false) (front : List Char) :
    ReflTransGen Respelling (front ++ '/' :: piece) (joined front []) := by
  have slash : ReflTransGen Respelling (front ++ '/' :: piece) (front ++ ['/']) := by
    rcases isName_eq_false_iff.1 blank with rfl | rfl
    · exact .refl
    · exact .single (.lastDot front)
  by_cases none : front = []
  · subst none
    exact slash
  · simp only [joined, behind, List.flatMap_nil, List.append_nil, none, if_false]
    exact slash.tail (.trailing none)

theorem tidied (front : List Char) {rest : List (List Char)} (filled : rest ≠ []) :
    ReflTransGen Respelling (front ++ behind rest) (joined front (rest.filter isName)) := by
  -- The front takes up each name, so that what is still behind it gets shorter.
  induction rest generalizing front with
  | nil => contradiction
  | cons piece rest ih =>
    cases named : isName piece with
    | true =>
      have goal : joined front ((piece :: rest).filter isName) =
          joined (front ++ '/' :: piece) (rest.filter isName) := by
        simp [joined, behind, named]
      have split : front ++ behind (piece :: rest) = (front ++ '/' :: piece) ++ behind rest := by
        simp [behind]
      rw [goal, split]
      by_cases last : rest = []
      · subst last
        simp [joined, behind, ReflTransGen.refl]
      · exact ih _ last
    | false =>
      have goal : (piece :: rest).filter isName = rest.filter isName := by simp [named]
      rw [goal]
      cases rest with
      | nil => simpa [behind] using leave_out_last named front
      | cons next rest =>
        refine .head ?_ (ih front (by simp))
        simpa [behind] using leave_out named front (next ++ behind rest)

theorem joined_nil (names : List (List Char)) :
    joined [] names = '/' :: ['/'].intercalate names := by
  cases names with
  | nil => rfl
  | cons name names =>
    rw [intercalate_cons]
    simp [joined, behind]

theorem ofList_absolute {cs : List Char} {rest : List (List Char)}
    (split : cs.splitOn '/' = [] :: rest) (filled : rest ≠ []) :
    ofList cs = ⟨true, rest.filter isName⟩ := by
  have whole : ['/'].intercalate (cs.splitOn '/') = cs := List.intercalate_splitOn '/'
  obtain ⟨next, others, rfl⟩ := List.exists_cons_of_ne_nil filled
  rw [split, List.intercalate_cons_cons] at whole
  have start : cs.head? = some '/' := by simp [← whole]
  simp [ofList_eq, DotFirst, names, split, start, isName]

theorem ofList_relative {cs first : List Char} {rest : List (List Char)}
    (split : cs.splitOn '/' = first :: rest) (filled : first ≠ []) :
    ofList cs = ⟨false, first :: rest.filter isName⟩ := by
  have start : cs.head? ≠ some '/' := by
    intro slash
    obtain ⟨back, rfl⟩ := List.head?_eq_some_iff.1 slash
    rw [List.splitOn_cons_eq_if_modifyHead] at split
    simp only [beq_self_eq_true, if_true, List.cons.injEq] at split
    exact filled split.1.symm
  simp only [ofList_eq, DotFirst, names, split, beq_false_of_ne start]
  by_cases dot : first = ['.']
  · simp [dot, isName]
  · have named : isName first = true := by simp [isName, filled, dot]
    simp [dot, named]

theorem plain_of_respelled (cs : List Char) : ReflTransGen Respelling cs (plain (ofList cs)) := by
  have whole : ['/'].intercalate (cs.splitOn '/') = cs := List.intercalate_splitOn '/'
  obtain ⟨first, rest, split⟩ := List.exists_cons_of_ne_nil (List.splitOn_ne_nil '/' cs)
  rw [split, intercalate_cons] at whole
  by_cases slash : first = []
  · subst slash
    by_cases last : rest = []
    · subst last
      cases whole
      exact .refl
    · rw [ofList_absolute split last]
      simp only [plain, if_true, List.singleton_append, ← joined_nil, ← whole]
      exact tidied [] last
  · rw [ofList_relative split slash]
    have goal : plain ⟨false, first :: rest.filter isName⟩ = joined first (rest.filter isName) := by
      simp [plain, intercalate_cons, joined, slash]
    rw [goal, ← whole]
    by_cases last : rest = []
    · subst last
      simp [behind, joined, slash, ReflTransGen.refl]
    · exact tidied first last

/-- The spellings of a path are those that come out of one another by leaving out and putting in. -/
theorem same_iff_respelled (s t : String) :
    Same s t ↔ EqvGen Respelling s.toList t.toList := by
  constructor
  · intro same
    have first := EqvGen.reflTransGen_le_eqvGen _ _ _ (plain_of_respelled s.toList)
    have second := EqvGen.reflTransGen_le_eqvGen _ _ _ (plain_of_respelled t.toList)
    rw [show ofList s.toList = ofList t.toList from same] at first
    exact first.trans _ _ _ (second.symm _ _)
  · intro joined
    exact ofList_eq_of_respelled joined

example : Same "/lib//./a/" "/lib/a" ∧ ¬ Same "./a" "a" ∧ ¬ Same "/b/../a" "/a" := by decide

end GraphPlugin.Path
