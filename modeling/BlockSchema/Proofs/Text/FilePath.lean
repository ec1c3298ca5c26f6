import BlockSchema.Text.FilePath
import Mathlib.Data.List.Basic

/-!
Contract: the steps of a joined path.

A path joined with a name takes the steps of the path and then one step down, however the
path is spelled: empty, with a slash at its end or with idle pieces.
-/

set_option autoImplicit false

namespace BlockSchema

/-! ## Pieces -/

namespace Document

variable {separator : Char}

private theorem pieces_of_not_mem {piece text : List Char} (absent : separator ∉ text) :
    pieces separator piece text = [piece ++ text] := by
  induction text generalizing piece with
  | nil => simp [pieces]
  | cons character rest inductionHypothesis =>
      have different : character ≠ separator := fun same => absent (by simp [same])
      rw [pieces, if_neg different,
        inductionHypothesis fun inRest => absent (List.mem_cons_of_mem character inRest)]
      simp

private theorem pieces_append (piece front back : List Char) :
    pieces separator piece (front ++ separator :: back) =
      pieces separator piece front ++ pieces separator [] back := by
  induction front generalizing piece with
  | nil => simp [pieces]
  | cons character rest inductionHypothesis =>
      rw [List.cons_append, pieces, pieces]
      split
      next => rw [inductionHypothesis, List.cons_append]
      next => rw [inductionHypothesis]

end Document

namespace FilePath

/-- A text that is a single step down. -/
structure IsName (name : String) : Prop where
  unseparated : '/' ∉ name.toList
  counts : FilePath.counts name = true
  notUp : name ≠ ".."

/-- What a path has after the slash that it may start with. -/
def afterRoot (path : String) : List Char :=
  if isRooted path then path.toList.tail else path.toList

/-- The steps of pieces, the first ones of a path. -/
def stepsOfPieces (rooted : Bool) (pieces : List String) : List Step :=
  (if rooted then [.root] else []) ++
    (if !rooted && pieces.head? == some "." then [.here] else []) ++
      (pieces.filter counts).map stepOf

private theorem steps_eq (path : String) :
    steps path = stepsOfPieces (isRooted path)
      ((Document.pieces '/' [] (afterRoot path)).map String.ofList) := by
  unfold steps parts opensHere afterRoot isRooted stepsOfPieces
  generalize path.toList = text
  cases text with
  | nil => rfl
  | cons first rest =>
      by_cases slash : first = '/'
      · subst slash
        rfl
      · have notRooted : (some first == some '/') = false := by simpa using slash
        simp only [List.head?_cons, notRooted]
        split
        next empty => cases empty
        next rooted => exact absurd (List.cons.inj rooted).1 slash
        next => rfl

section Pieces

variable {rooted : Bool} {front : List String}

/-- An empty piece takes no step. -/
theorem stepsOfPieces_idle {idle : List String} (idles : idle = [] ∨ idle = [""]) :
    stepsOfPieces rooted (front ++ idle) = stepsOfPieces rooted front := by
  rcases idles with rfl | rfl
  · rw [List.append_nil]
  · have noStep : [""].filter counts = [] := rfl
    have sameOpening : ((front ++ [""]).head? == some ".") = (front.head? == some ".") := by
      cases front <;> rfl
    rw [stepsOfPieces, stepsOfPieces, sameOpening, List.filter_append, noStep, List.append_nil]

/-- A piece that counts takes its step after those of the pieces before it. -/
theorem stepsOfPieces_concat {name : String} (isCounted : counts name = true) :
    stepsOfPieces rooted (front ++ [name]) = stepsOfPieces rooted front ++ [stepOf name] := by
  have notDot : name ≠ "." := by
    simp only [counts, Bool.and_eq_true, decide_eq_true_eq] at isCounted
    exact isCounted.2
  have sameOpening : ((front ++ [name]).head? == some ".") = (front.head? == some ".") := by
    cases front with
    | nil => simp [notDot]
    | cons first rest => rfl
  rw [stepsOfPieces, stepsOfPieces, sameOpening, List.filter_append, List.map_append]
  simp [isCounted]

end Pieces

section Join

variable {base path : String}

private theorem start_append (nonempty : base ≠ "") :
    isRooted (base ++ path) = isRooted base ∧
      afterRoot (base ++ path) = afterRoot base ++ path.toList := by
  have characters : base.toList ≠ [] := fun none => nonempty (String.toList_eq_nil_iff.mp none)
  unfold afterRoot isRooted
  rw [String.toList_append]
  cases spelled : base.toList with
  | nil => exact absurd spelled characters
  | cons first rest =>
      refine ⟨rfl, ?_⟩
      rw [List.cons_append, List.head?_cons, List.head?_cons]
      split <;> rfl

private theorem afterRoot_of_slash (slash : base.toList.getLast? = some '/') :
    afterRoot base = [] ∨ ∃ front, afterRoot base = front ++ ['/'] := by
  unfold afterRoot
  split
  next rooted =>
    cases spelled : base.toList with
    | nil => exact .inl rfl
    | cons first rest =>
        rw [spelled] at slash
        cases rest with
        | nil => exact .inl rfl
        | cons second rest =>
            rw [List.getLast?_cons_cons] at slash
            exact .inr (List.getLast?_eq_some_iff.mp slash)
  next => exact .inr (List.getLast?_eq_some_iff.mp slash)

/-- A path joined with a relative one starts as before, and has the pieces of both but for an
idle one between them. -/
theorem pieces_join (relative : isRooted path = false) :
    isRooted (join base path) = isRooted base ∧
      ∃ front idle : List (List Char), (idle = [] ∨ idle = [[]]) ∧
        Document.pieces '/' [] (afterRoot base) = front ++ idle ∧
        Document.pieces '/' [] (afterRoot (join base path)) =
          front ++ Document.pieces '/' [] path.toList := by
  have ofPath : afterRoot path = path.toList := by simp [afterRoot, relative]
  unfold join
  rw [if_neg (by simp [relative])]
  by_cases empty : base = ""
  · subst empty
    rw [if_pos (.inl rfl), String.empty_append, ofPath]
    exact ⟨relative, [], [[]], .inr rfl, rfl, rfl⟩
  · by_cases slash : base.toList.getLast? = some '/'
    · rw [if_pos (.inr slash)]
      obtain ⟨sameStart, after⟩ := @start_append base path empty
      refine ⟨sameStart, ?_⟩
      rw [after]
      rcases afterRoot_of_slash slash with onlyRoot | ⟨front, ended⟩
      · rw [onlyRoot]
        exact ⟨[], [[]], .inr rfl, rfl, rfl⟩
      · rw [ended, List.append_assoc, List.singleton_append, Document.pieces_append,
          Document.pieces_append]
        exact ⟨_, [[]], .inr rfl, rfl, rfl⟩
    · rw [if_neg (by simp [empty, slash]), String.append_assoc]
      obtain ⟨sameStart, after⟩ := @start_append base ("/" ++ path) empty
      refine ⟨sameStart, ?_⟩
      rw [after, String.toList_append]
      change ∃ front idle : List (List Char), _ ∧ _ ∧
        Document.pieces '/' [] (afterRoot base ++ '/' :: path.toList) = _
      rw [Document.pieces_append]
      exact ⟨_, [], .inl rfl, (List.append_nil _).symm, rfl⟩

private theorem isRooted_of_unseparated
    (unseparated : '/' ∉ path.toList) :
    isRooted path = false := by
  unfold isRooted
  cases spelled : path.toList with
  | nil => rfl
  | cons first rest =>
      have notSlash : first ≠ '/' := by
        rintro rfl
        exact unseparated (spelled ▸ List.mem_cons_self)
      simpa using notSlash

/-- The steps of a path joined with a text without slashes. -/
theorem steps_join_eq (unseparated : '/' ∉ path.toList) :
    ∃ rooted front, steps base = stepsOfPieces rooted front ∧
      steps (join base path) = stepsOfPieces rooted (front ++ [path]) := by
  have relative := isRooted_of_unseparated unseparated
  obtain ⟨sameStart, front, idle, idles, ofBase, ofJoin⟩ := @pieces_join base path relative
  have idleTexts : idle.map String.ofList = [] ∨ idle.map String.ofList = [""] := by
    rcases idles with rfl | rfl
    · exact .inl rfl
    · exact .inr rfl
  refine ⟨isRooted base, front.map String.ofList, ?_, ?_⟩
  · rw [steps_eq, ofBase, List.map_append, stepsOfPieces_idle idleTexts]
  · rw [steps_eq, sameStart, ofJoin, Document.pieces_of_not_mem unseparated, List.map_append]
    simp

/-- A path joined with a name goes one step further down. -/
theorem steps_join {name : String} (isName : IsName name) :
    steps (join base name) = steps base ++ [.down name] := by
  obtain ⟨rooted, front, ofBase, ofJoin⟩ := @steps_join_eq base name isName.unseparated
  have isStep : stepOf name = .down name := if_neg isName.notUp
  rw [ofBase, ofJoin, stepsOfPieces_concat isName.counts, isStep]

/-- A path joined with nothing goes no further. -/
theorem steps_join_empty : steps (join base "") = steps base := by
  have noSlash : '/' ∉ "".toList := by simp
  obtain ⟨rooted, front, ofBase, ofJoin⟩ := @steps_join_eq base "" noSlash
  rw [ofBase, ofJoin, stepsOfPieces_idle (.inr rfl)]

end Join

end FilePath

end BlockSchema
