import DebugSymbols.Expression

/-!
# The lookups along a path

A member path is evaluated in two parts. First every name is checked: a text that is no path fails
before anything is looked up. Then the names are looked up one after the other, each on the value
found before it, and the first lookup that leads no further ends the evaluation. Whoever answers the
lookups may keep count of them: nothing is assumed of the answers.
-/

namespace DebugSymbols.Expression

open Text (isAlphabetic isNumeric isBlank trim)

/-! ## Names -/

/-- A letter or an underscore, and letters, digits and underscores behind it. -/
def IsIdentifier : List Char → Prop
  | [] => False
  | c :: cs => (c = '_' ∨ isAlphabetic c = true) ∧
    ∀ d ∈ cs, d = '_' ∨ isAlphabetic d = true ∨ isNumeric d = true

/-- What stands between the dots of an expression, without the white space around it. -/
def pathNames (expression : String) : List (List Char) :=
  ((trim expression.toList).splitOn '.').map trim

theorem isName_eq_true_iff {name : List Char} : isName name = true ↔ IsIdentifier name := by
  cases name with
  | nil => simp [isName, IsIdentifier]
  | cons c cs => simp [isName, IsIdentifier, startsName, continuesName, or_assoc]

theorem segments_trim (expression : String) :
    segments (trim expression.toList) = pathNames expression := by
  rw [segments, Text.pieces_eq_splitOnP, pathNames, List.splitOn_eq_splitOnP]

theorem pathNames_ne_nil (expression : String) : pathNames expression ≠ [] := by
  rw [pathNames, Ne, List.map_eq_nil_iff]
  exact List.splitOn_ne_nil '.' _

/-! ## Checking the names -/

/-- There is something to look up, and everything between dots is a name. -/
structure IsPath (expression : String) : Prop where
  visible : ∃ c ∈ expression.toList, isBlank c = false
  names : ∀ name ∈ pathNames expression, IsIdentifier name

theorem isEmpty_trim_eq_false_iff {cs : List Char} :
    (trim cs).isEmpty = false ↔ ∃ c ∈ cs, isBlank c = false := by
  rw [List.isEmpty_eq_false_iff, Ne, Text.trim_eq_nil_iff]
  simp

/-- The text of a path is all right throughout, and its lookups begin in the current scope. -/
theorem evaluate_of_isPath {expression : String} (children : ChildVisitor) (h : IsPath expression)
    {name : List Char} {rest : List (List Char)} (split : pathNames expression = name :: rest) :
    evaluate expression children =
      walk children [] none (String.ofList name) (rest.map String.ofList) := by
  have noBad : (name :: rest).find? (fun name => !isName name) = none := by
    refine List.find?_eq_none.2 fun name listed => ?_
    simpa [isName_eq_true_iff] using h.names name (split ▸ listed)
  have kept := isEmpty_trim_eq_false_iff.2 h.visible
  simp only [evaluate, kept, segments_trim, split, noBad, List.map_cons, Bool.false_eq_true,
    if_false]

/-- What is no path is refused before anything is looked up. -/
theorem evaluate_of_not_isPath {expression : String} (children : ChildVisitor)
    (h : ¬ IsPath expression) :
    ∃ reason, evaluate expression children = ⟨.error (.provider reason), []⟩ := by
  cases kept : (trim expression.toList).isEmpty with
  | true =>
    refine ⟨.emptyExpression, ?_⟩
    simp only [evaluate, kept, if_true]
  | false =>
    cases first : (pathNames expression).find? (fun name => !isName name) with
    | none =>
      have good : ∀ name ∈ pathNames expression, IsIdentifier name := fun name listed =>
        isName_eq_true_iff.1 (by simpa using List.find?_eq_none.1 first name listed)
      exact absurd ⟨isEmpty_trim_eq_false_iff.1 kept, good⟩ h
    | some bad =>
      refine ⟨.unsupportedExpression (String.ofList (trim expression.toList)) (String.ofList bad),
        ?_⟩
      simp only [evaluate, kept, segments_trim, first, Bool.false_eq_true, if_false]

/-! ## One lookup -/

section

variable {children : ChildVisitor} {earlier : List Lookup} {parent : Option ValueHandle}
  {name next : String} {rest : List String} {found : EvalValue} {handle : ValueHandle}

theorem walk_of_none (h : children earlier ⟨parent, name⟩ = none) :
    walk children earlier parent name rest =
      ⟨.error (.provider (.unknownName name)), earlier ++ [⟨parent, name⟩]⟩ := by
  cases rest with
  | nil => simp only [walk, h]
  | cons next rest => simp only [walk, h]

theorem walk_nil_of_some (h : children earlier ⟨parent, name⟩ = some found) :
    walk children earlier parent name [] = ⟨.ok found, earlier ++ [⟨parent, name⟩]⟩ := by
  simp only [walk, h]

theorem walk_cons_of_value (h : children earlier ⟨parent, name⟩ = some (.value handle)) :
    walk children earlier parent name (next :: rest) =
      walk children (earlier ++ [⟨parent, name⟩]) (some handle) next rest := by
  simp only [walk, h]

theorem walk_cons_of_ne_value (h : children earlier ⟨parent, name⟩ = some found)
    (noMembers : ∀ handle, found ≠ .value handle) :
    walk children earlier parent name (next :: rest) =
      ⟨.error (.provider (.noMembers name)), earlier ++ [⟨parent, name⟩]⟩ := by
  cases found with
  | value handle => exact absurd rfl (noMembers handle)
  | object => simp only [walk, h]
  | text content => simp only [walk, h]
  | bytes content => simp only [walk, h]

end

/-! ## The lookups of a walk -/

/-- `path` are lookups for the first ones of `names`, in their order, made after those in `earlier`.
The first one is on `parent`, every other one on the value that the lookup before it found. -/
structure Follows (children : ChildVisitor) (earlier : List Lookup) (parent : Option ValueHandle)
    (names : List String) (path : List Lookup) : Prop where
  names_prefix : path.map Lookup.name <+: names
  head_parent : ∀ l ∈ path.head?, l.parent = parent
  next_parent : ∀ before l next after, path = before ++ l :: next :: after →
    ∃ handle, children (earlier ++ before) l = some (.value handle) ∧ next.parent = some handle

/-- How an evaluation ends on the lookup `last`, made after `made`. `complete` says whether that is
the lookup for the last name. -/
structure Ends (children : ChildVisitor) (made : List Lookup) (last : Lookup) (complete : Prop)
    (result : Except SymbolError EvalValue) : Prop where
  ok_iff : ∀ found, result = .ok found ↔ complete ∧ children made last = some found
  of_none : children made last = none → result = .error (.provider (.unknownName last.name))
  of_some : ∀ found, children made last = some found → ¬ complete →
    (∀ handle, found ≠ .value handle) ∧ result = .error (.provider (.noMembers last.name))

/-- The evaluation `run` makes lookups along `names`, after those in `earlier` and from `parent` on,
and ends with the last of them. -/
def Traces (children : ChildVisitor) (earlier : List Lookup) (parent : Option ValueHandle)
    (names : List String) (run : Evaluation) : Prop :=
  ∃ path last, run.lookups = earlier ++ (path ++ [last]) ∧
    Follows children earlier parent names (path ++ [last]) ∧
    Ends children (earlier ++ path) last ((path ++ [last]).length = names.length) run.result

section

variable {children : ChildVisitor} {earlier made : List Lookup} {parent : Option ValueHandle}
  {name : String} {rest : List String} {path : List Lookup} {last : Lookup} {found : EvalValue}
  {handle : ValueHandle} {complete : Prop} {run : Evaluation}
  {result : Except SymbolError EvalValue}

/-- The last lookup of a walk may find anything. -/
theorem follows_singleton : Follows children earlier parent (name :: rest) [⟨parent, name⟩] where
  names_prefix := by simp
  head_parent := by simp
  next_parent := by
    intro before l next after split
    have lengths := congrArg List.length split
    simp only [List.length_append, List.length_cons, List.length_nil] at lengths
    omega

/-- A lookup that finds a value can stand before the lookups that start on that value. -/
theorem Follows.cons (first : children earlier ⟨parent, name⟩ = some (.value handle))
    (h : Follows children (earlier ++ [⟨parent, name⟩]) (some handle) rest path) :
    Follows children earlier parent (name :: rest) (⟨parent, name⟩ :: path) where
  names_prefix := List.cons_prefix_cons.2 ⟨rfl, h.names_prefix⟩
  head_parent := by simp
  next_parent := by
    intro before l next after split
    cases before with
    | nil =>
      obtain ⟨rfl, rfl⟩ := List.cons.inj split
      exact ⟨handle, by rwa [List.append_nil], h.head_parent next rfl⟩
    | cons _ before =>
      obtain ⟨rfl, rfl⟩ := List.cons.inj split
      simpa using h.next_parent before l next after rfl

theorem ends_of_none (h : children made last = none) :
    Ends children made last complete (.error (.provider (.unknownName last.name))) where
  ok_iff := by simp [h]
  of_none := fun _ => rfl
  of_some := by simp [h]

theorem ends_of_complete (h : children made last = some found) (whole : complete) :
    Ends children made last complete (.ok found) where
  ok_iff := by simp [h, whole]
  of_none := by simp [h]
  of_some := fun _ _ cut => absurd whole cut

theorem ends_of_ne_value (h : children made last = some found)
    (noMembers : ∀ handle, found ≠ .value handle) (cut : ¬ complete) :
    Ends children made last complete (.error (.provider (.noMembers last.name))) where
  ok_iff := by simp [cut]
  of_none := by simp [h]
  of_some := by
    intro other same _
    cases h.symm.trans same
    exact ⟨noMembers, rfl⟩

/-- A walk that goes no further than its first lookup. -/
theorem traces_of_ends (ends : Ends children earlier ⟨parent, name⟩ (rest = []) result) :
    Traces children earlier parent (name :: rest) ⟨result, earlier ++ [⟨parent, name⟩]⟩ := by
  refine ⟨[], ⟨parent, name⟩, rfl, follows_singleton, ?_⟩
  have whole : ([] ++ [⟨parent, name⟩] : List Lookup).length = (name :: rest).length ↔
      rest = [] := by
    simp
  rw [List.append_nil, whole]
  exact ends

/-- A lookup that finds a value can stand before a walk that starts on that value. -/
theorem Traces.cons (first : children earlier ⟨parent, name⟩ = some (.value handle))
    (h : Traces children (earlier ++ [⟨parent, name⟩]) (some handle) rest run) :
    Traces children earlier parent (name :: rest) run := by
  obtain ⟨path, last, lookups, follows, ends⟩ := h
  rw [List.append_assoc] at lookups ends
  refine ⟨⟨parent, name⟩ :: path, last, lookups, follows.cons first, ?_⟩
  simpa using ends

end

/-- **A walk looks up its names in turn.** By induction on the names that are left, with any lookups
behind it: a value found takes the walk on to the next name, and everything else ends it there. -/
theorem traces_walk (children : ChildVisitor) (earlier : List Lookup) (parent : Option ValueHandle)
    (name : String) (rest : List String) :
    Traces children earlier parent (name :: rest) (walk children earlier parent name rest) := by
  induction rest generalizing earlier parent name with
  | nil =>
    cases answer : children earlier ⟨parent, name⟩ with
    | none =>
      rw [walk_of_none answer]
      exact traces_of_ends (ends_of_none answer)
    | some found =>
      rw [walk_nil_of_some answer]
      exact traces_of_ends (ends_of_complete answer rfl)
  | cons next rest ih =>
    cases answer : children earlier ⟨parent, name⟩ with
    | none =>
      rw [walk_of_none answer]
      exact traces_of_ends (ends_of_none answer)
    | some found =>
      by_cases member : ∃ handle, found = .value handle
      · obtain ⟨handle, rfl⟩ := member
        rw [walk_cons_of_value answer]
        exact (ih _ _ next).cons answer
      · have noMembers : ∀ handle, found ≠ .value handle := not_exists.1 member
        rw [walk_cons_of_ne_value answer noMembers]
        exact traces_of_ends (ends_of_ne_value answer noMembers (List.cons_ne_nil next rest))

/-- **A path is evaluated by looking up its names in turn.** Whoever answers, and whatever the
answers depend on: a text that is no path is refused before any lookup. The lookups for a path are
for its names in their order, the first one in the current scope and every other one on the value
found before it. They end with the first one that finds nothing, or finds no value where a name is
left, and that is an error of the provider; with none of these the evaluation comes to what the last
lookup found. -/
theorem evaluate_follows (expression : String) (children : ChildVisitor) :
    (¬ IsPath expression →
      ∃ reason, evaluate expression children = ⟨.error (.provider reason), []⟩) ∧
    (IsPath expression →
      ∃ path last, (evaluate expression children).lookups = path ++ [last] ∧
        Follows children [] none ((pathNames expression).map String.ofList) (path ++ [last]) ∧
        Ends children path last ((path ++ [last]).length = (pathNames expression).length)
          (evaluate expression children).result) := by
  refine ⟨evaluate_of_not_isPath children, fun isPath => ?_⟩
  obtain ⟨name, rest, split⟩ := List.exists_cons_of_ne_nil (pathNames_ne_nil expression)
  obtain ⟨path, last, lookups, follows, ends⟩ :=
    traces_walk children [] none (String.ofList name) (rest.map String.ofList)
  rw [evaluate_of_isPath children isPath split, split]
  refine ⟨path, last, lookups, follows, ?_⟩
  simpa using ends

/-- Finds two values and then a text, whatever is looked up. -/
def twoValues : ChildVisitor := fun earlier _ =>
  if earlier.length < 2 then some (.value ⟨UInt64.ofNat earlier.length⟩) else some (.text "Ada")

/-- Three lookups for one name find three things, and the last of them is the result. -/
theorem evaluate_follows_twoValues :
    IsPath " next . next.next" ∧
    (evaluate " next . next.next" twoValues).lookups =
      [⟨none, "next"⟩, ⟨some ⟨0⟩, "next"⟩, ⟨some ⟨1⟩, "next"⟩] ∧
    (evaluate " next . next.next" twoValues).result = .ok (.text "Ada") := by
  have names : pathNames " next . next.next" = List.replicate 3 ['n', 'e', 'x', 't'] := by decide
  have isPath : IsPath " next . next.next" := by
    refine ⟨⟨'n', by decide, by decide⟩, fun name listed => ?_⟩
    rw [names] at listed
    rw [List.eq_of_mem_replicate listed]
    exact isName_eq_true_iff.1 (by decide)
  obtain ⟨path, last, lookups, -, ends⟩ := (evaluate_follows " next . next.next" twoValues).2 isPath
  have made : (evaluate " next . next.next" twoValues).lookups =
      [⟨none, "next"⟩, ⟨some ⟨0⟩, "next"⟩] ++ [⟨some ⟨1⟩, "next"⟩] := rfl
  obtain ⟨rfl, sameLast⟩ := List.append_inj' (lookups.symm.trans made) rfl
  cases sameLast
  have whole : 3 = (pathNames " next . next.next").length := by rw [names]; rfl
  exact ⟨isPath, made, (ends.ok_iff _).2 ⟨whole, rfl⟩⟩

end DebugSymbols.Expression
