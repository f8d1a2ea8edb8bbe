import TemporalSdk.Common.StackTrace

/-!
# Stack traces of promises

The promise hook cuts the framework part off a stack trace twice: off its text with `cutoffStackTrace`
and off the list of its file locations with `cutoffStructuredStackTrace`. Both come from the same call
sites.
-/

namespace TemporalSdk

namespace PromiseHook

structure FileLocation where
  filePath : Option String
  functionName : Option String
  line : Option ℕ
  column : Option ℕ
deriving DecidableEq

/-- What a `NodeJS.CallSite` says; `text` is its own text, as in a template literal. -/
structure CallSite where
  typeName : Option String
  methodName : Option String
  functionName : Option String
  isConstructor : Bool
  fileName : Option String
  lineNumber : Option ℕ
  columnNumber : Option ℕ
  text : String
  text_ne : text ≠ ""

/-- What a `SourceMapConsumer` finds for a position. -/
structure OriginalPosition where
  source : Option String
  line : Option ℕ
  column : Option ℕ
  name : Option String

/-- The value where it is neither missing nor empty -/
def truthy (s : Option String) : Option String := s.filter (· != "")

/-- The callsite "name" portion in the stack trace -/
def formatCallsiteName (callsite : CallSite) : Option String :=
  match truthy callsite.typeName, truthy callsite.methodName with
  | some typeName, some methodName => some (typeName ++ "." ++ methodName)
  | _, _ =>
    match callsite.isConstructor, truthy callsite.functionName with
    | true, some functionName => some ("new " ++ functionName)
    | _, _ => callsite.functionName

/-! ### The two forms of a frame -/

section Frames

-- `bundleFilenameToSourceMapConsumer`, with `originalPositionFor` of each consumer
variable (sourceMaps : String → Option (ℕ → ℕ → OriginalPosition))

def originalPosition (callsite : CallSite) : Option OriginalPosition := do
  let sourceMapConsumer ← sourceMaps (← truthy callsite.fileName)
  let line ← callsite.lineNumber.filter (· != 0)
  let column ← callsite.columnNumber.filter (· != 0)
  return sourceMapConsumer line column

/-- What `prepareStackTrace` pushes to `currentStackTrace`. -/
def fileLocation (callsite : CallSite) : FileLocation :=
  match originalPosition sourceMaps callsite with
  | some pos =>
    ⟨pos.source, (truthy pos.name).or (formatCallsiteName callsite), pos.line, pos.column⟩
  | none =>
    ⟨callsite.fileName, formatCallsiteName callsite, callsite.lineNumber, callsite.columnNumber⟩

/-- A missing value in a template literal -/
def orNull (s : Option String) : String := s.getD "null"

/-- What `prepareStackTrace` writes after `at`. -/
def frameText (callsite : CallSite) : String :=
  match originalPosition sourceMaps callsite with
  | some pos =>
    let position := orNull pos.source ++ ":" ++ orNull (pos.line.map toString) ++ ":" ++
      orNull (pos.column.map toString)
    match truthy ((truthy pos.name).or (formatCallsiteName callsite)) with
    | some name => name ++ " (" ++ position ++ ")"
    | none => position
  | none => callsite.text

def frameLine (callsite : CallSite) : String := "    at " ++ frameText sourceMaps callsite

/-- The lines of frames as one text -/
def joinLines (callsites : List CallSite) : String :=
  "\n".intercalate (callsites.map (frameLine sourceMaps))

/-- The `stack` of an error without a message -/
def stack (callsites : List CallSite) : String := "Error\n" ++ joinLines sourceMaps callsites

end Frames

/-! ### The promise hook -/

section Hook

open Regex

/-- `\s*at initAll \(node:internal\/promise_hooks:\d+:\d+\)` -/
def initAllLine : Regex :=
  concat [star (char isSpace), literal "at initAll (node:internal/promise_hooks:", digits, literal ":",
    digits, literal ")"]

/-- `/^Error\n\s*at [^\n]+\n(\s*at initAll \(node:internal\/promise_hooks:\d+:\d+\)\n)?/` -/
def header : Regex :=
  concat [literal "Error\n", star (char isSpace), literal "at ", plus (char (· != '\n')), literal "\n",
    alt (concat [initAllLine, literal "\n"]) empty]

/-- `replace(header, '')`. The optional group is greedy, and nothing else of the expression has a choice,
so that the match is the longest one. -/
def withoutHeader (text : String) : String :=
  match header.dropLongest text.toList with
  | some rest => String.ofList rest
  | none => text

/-- `/^Activator\.\S+NextHandler$/` -/
def nextHandlerName : Regex :=
  concat [literal "Activator.", plus (char (!isSpace ·)), literal "NextHandler"]

/-- `/.*[\\/]workflow[\\/](?:src|lib)[\\/]internals\.[jt]s$/` -/
def internalsPath : Regex :=
  concat [anything, char isSlash, literal "workflow", char isSlash, alt (literal "src") (literal "lib"),
    char isSlash, literal "internals", literal ".", jsOrTs]

/-- The predicate that `cutoffStructuredStackTrace` searches with. Of `/^node:vm|vm\.js$/`, one alternative
is bound to the start of the path and the other one to its end. -/
def isCutoffLocation (location : FileLocation) : Bool :=
  match truthy location.functionName, truthy location.filePath with
  | some functionName, some filePath =>
    (nextHandlerName.accepts functionName.toList && internalsPath.matchesEnd filePath.toList) ||
      ((literal "Script.runInContext").test functionName.toList &&
        ((literal "node:vm").matchesStart filePath.toList || (literal "vm.js").matchesEnd filePath.toList))
  | _, _ => false

def isInitAll (location : FileLocation) : Bool :=
  location.functionName == some "initAll" && location.filePath == some "node:internal/promise_hooks"

/-- The elements are the locations in the array, whose fields `location` reads. Without a second element
there is nothing to read a name from: the code throws a `TypeError`. -/
def cutoffStructuredStackTrace {α : Type} (location : α → FileLocation) (stackTrace : List α) :
    Option (List α) :=
  match stackTrace.tail with
  | [] => none
  | first :: rest =>
    let stackTrace := if isInitAll (location first) then rest else first :: rest
    match stackTrace.findIdx? (isCutoffLocation ∘ location) with
    | some idx => some (stackTrace.take idx)
    | none => some stackTrace

end Hook

/-! ### The header of a stack -/

open Regex

/-- The texts between the parts of the expressions that vary -/
def errorText : List Char := "Error\n".toList

def initAllText : List Char := " initAll (node:internal/promise_hooks:".toList

def blank : List Char := [' ', ' ', ' ', ' ']

lemma isSpace_blank : ∀ c ∈ blank, isSpace c = true := List.all_eq_true.mp (by decide)

lemma mem_initAllLine {w : List Char} : w ∈ initAllLine.lang ↔
    ∃ s d d', w = s ++ 'a' :: 't' :: (initAllText ++ (d ++ ':' :: (d' ++ [')']))) ∧
      (∀ c ∈ s, isSpace c = true) ∧ d ∈ digits.lang ∧ d' ∈ digits.lang := by
  have htext : "at initAll (node:internal/promise_hooks:".toList = 'a' :: 't' :: initAllText := by decide
  simp only [initAllLine, mem_concat_cons, mem_concat_nil, mem_literal, mem_star_char, htext]
  constructor
  · rintro ⟨s, hs, _, ⟨_, rfl, _, ⟨d, hd, _, ⟨_, rfl, _, ⟨d', hd', _, ⟨_, rfl, _, rfl, rfl⟩, rfl⟩, rfl⟩, rfl⟩,
      rfl⟩, rfl⟩
    exact ⟨s, d, d', rfl, hs, hd, hd'⟩
  · rintro ⟨s, d, d', rfl, hs, hd, hd'⟩
    exact ⟨s, hs, _, ⟨_, rfl, _, ⟨d, hd, _, ⟨_, rfl, _, ⟨d', hd', _, ⟨_, rfl, _, rfl, rfl⟩, rfl⟩, rfl⟩, rfl⟩,
      rfl⟩, rfl⟩

lemma mem_header {w : List Char} : w ∈ header.lang ↔
    ∃ s n g, w = errorText ++ (s ++ 'a' :: 't' :: ' ' :: (n ++ '\n' :: g)) ∧
      (∀ c ∈ s, isSpace c = true) ∧ n ≠ [] ∧ (∀ c ∈ n, (c != '\n') = true) ∧
      (g = [] ∨ ∃ l ∈ initAllLine.lang, g = l ++ ['\n']) := by
  have htext : "at ".toList = ['a', 't', ' '] := by decide
  have hnewline : "\n".toList = ['\n'] := by decide
  have hjoin : ∀ s n g : List Char, "Error\n".toList ++ (s ++ (['a', 't', ' '] ++ (n ++ (['\n'] ++ (g ++ []))))) =
      errorText ++ (s ++ 'a' :: 't' :: ' ' :: (n ++ '\n' :: g)) := by
    intro s n g
    rw [List.append_nil]
    rfl
  simp only [header, mem_concat_cons, mem_concat_nil, mem_literal, mem_star_char, mem_plus_char, mem_alt,
    htext, hnewline]
  constructor
  · rintro ⟨_, rfl, _, ⟨s, hs, _, ⟨_, rfl, _, ⟨n, ⟨hne, hn⟩, _, ⟨_, rfl, _, ⟨g, hg, _, rfl, rfl⟩, rfl⟩, rfl⟩,
      rfl⟩, rfl⟩, rfl⟩
    refine ⟨s, n, g, hjoin s n g, hs, hne, hn, ?_⟩
    rcases hg with ⟨l, hl, _, ⟨_, rfl, _, rfl, rfl⟩, rfl⟩ | hg
    · exact .inr ⟨l, hl, rfl⟩
    · exact .inl hg
  · rintro ⟨s, n, g, rfl, hs, hne, hn, hg⟩
    refine ⟨_, rfl, _, ⟨s, hs, _, ⟨_, rfl, _, ⟨n, ⟨hne, hn⟩, _, ⟨_, rfl, _, ⟨g, ?_, _, rfl, rfl⟩, rfl⟩, rfl⟩,
      rfl⟩, rfl⟩, hjoin s n g⟩
    rcases hg with rfl | ⟨l, hl, rfl⟩
    · exact .inr rfl
    · exact .inl ⟨l, hl, _, ⟨_, rfl, _, rfl, rfl⟩, rfl⟩

/-! ### Two frames at the start of a stack -/

/-- The line of a frame with this text -/
def lineOf (x : List Char) : List Char := blank ++ 'a' :: 't' :: ' ' :: x

/-- The match of the expression that ends with the line of the first frame -/
def firstFrame (x : List Char) : List Char := errorText ++ (lineOf x ++ ['\n'])

lemma ne_newline {x : List Char} (hx : '\n' ∉ x) : ∀ c ∈ x, (c != '\n') = true :=
  fun _ hc => bne_iff_ne.mpr fun heq => hx (heq ▸ hc)

/-- A line that is matched up to its end is matched as a whole. -/
lemma eq_lineOf_of_initAllLine {l v y z : List Char} (hl : l ∈ initAllLine.lang) (hy : '\n' ∉ y)
    (hz : z = [] ∨ ∃ z', z = '\n' :: z') (h : l ++ '\n' :: v = lineOf y ++ z) :
    l = lineOf y ∧ z = '\n' :: v := by
  obtain ⟨s, d, d', rfl, hs, hd, hd'⟩ := mem_initAllLine.mp hl
  have hdigits : ∀ d ∈ digits.lang, '\n' ∉ d := by
    intro d hd hmem
    exact absurd ((mem_plus_char.mp hd).2 _ hmem) (by decide)
  have hsplit : s ++ 'a' :: ('t' :: (initAllText ++ (d ++ ':' :: (d' ++ [')']))) ++ '\n' :: v) =
      blank ++ 'a' :: ('t' :: ' ' :: (y ++ z)) := by
    simpa [lineOf] using h
  obtain ⟨rfl, -, hrest⟩ := append_cons_inj hs isSpace_blank (by decide) (by decide) hsplit
  have hbody : '\n' ∉ 't' :: (initAllText ++ (d ++ ':' :: (d' ++ [')']))) := by
    have htext : '\n' ∉ initAllText := by decide
    simp [htext, hdigits d hd, hdigits d' hd']
  have hy' : '\n' ∉ 't' :: ' ' :: y := by simp [hy]
  have hrest : 't' :: (initAllText ++ (d ++ ':' :: (d' ++ [')']))) ++ '\n' :: v = 't' :: ' ' :: y ++ z := hrest
  rcases hz with rfl | ⟨z', rfl⟩
  · rw [List.append_nil] at hrest
    exact absurd (hrest ▸ List.mem_append_right _ List.mem_cons_self) hy'
  · obtain ⟨hline, -, rfl⟩ := append_cons_inj (ne_newline hbody) (ne_newline hy') (by decide) (by decide) hrest
    exact ⟨by rw [lineOf, hline], rfl⟩

/-- What the expression matches at the start of a stack -/
lemma header_prefix {u v x t : List Char} (hx : '\n' ∉ x) (hu : u ∈ header.lang)
    (h : u ++ v = firstFrame x ++ t) :
    (u = firstFrame x ∧ v = t) ∨
      ∃ l ∈ initAllLine.lang, u = firstFrame x ++ (l ++ ['\n']) ∧ l ++ '\n' :: v = t := by
  obtain ⟨s, n, g, rfl, hs, -, hn, hg⟩ := mem_header.mp hu
  have hsplit : s ++ 'a' :: ('t' :: ' ' :: (n ++ '\n' :: (g ++ v))) =
      blank ++ 'a' :: ('t' :: ' ' :: (x ++ '\n' :: t)) := by
    simpa [firstFrame, lineOf] using h
  obtain ⟨rfl, -, hrest⟩ := append_cons_inj hs isSpace_blank (by decide) (by decide) hsplit
  have hname : n ++ '\n' :: (g ++ v) = x ++ '\n' :: t := by simpa using hrest
  obtain ⟨rfl, -, hrest⟩ := append_cons_inj hn (ne_newline hx) (by decide) (by decide) hname
  rcases hg with rfl | ⟨l, hl, rfl⟩
  · exact .inl ⟨rfl, hrest⟩
  · refine .inr ⟨l, hl, by simp [firstFrame, lineOf], ?_⟩
    simpa using hrest

lemma firstFrame_mem {x : List Char} (hx : '\n' ∉ x) (hne : x ≠ []) : firstFrame x ∈ header.lang :=
  mem_header.mpr ⟨blank, x, [], by simp [firstFrame, lineOf], isSpace_blank, hne, ne_newline hx, .inl rfl⟩

/-- The frame of `initAll` goes with the first one where a line follows. -/
lemma dropLongest_initAll {x y z : List Char} (hx : '\n' ∉ x) (hne : x ≠ []) (hy : '\n' ∉ y)
    (hinitAll : lineOf y ∈ initAllLine.lang) :
    header.dropLongest (firstFrame x ++ (lineOf y ++ '\n' :: z)) = some z := by
  have hmem : firstFrame x ++ (lineOf y ++ ['\n']) ∈ header.lang := by
    refine mem_header.mpr ⟨blank, x, lineOf y ++ ['\n'], ?_, isSpace_blank, hne, ne_newline hx,
      .inr ⟨lineOf y, hinitAll, rfl⟩⟩
    simp [firstFrame, lineOf]
  have hsplit : firstFrame x ++ (lineOf y ++ '\n' :: z) = firstFrame x ++ (lineOf y ++ ['\n']) ++ z := by
    simp
  rw [hsplit]
  refine dropLongest_of_longest hmem fun u v h hu => ?_
  rcases header_prefix hx hu (h.trans hsplit.symm) with ⟨rfl, -⟩ | ⟨l, hl, rfl, hline⟩
  · simp
  · obtain ⟨rfl, -⟩ := eq_lineOf_of_initAllLine hl hy (.inr ⟨z, rfl⟩) hline
    exact le_refl _

lemma dropLongest_first {x y z : List Char} (hx : '\n' ∉ x) (hne : x ≠ []) (hy : '\n' ∉ y)
    (hz : z = [] ∨ ∃ z', z = '\n' :: z') (hother : lineOf y ∈ initAllLine.lang → z = []) :
    header.dropLongest (firstFrame x ++ (lineOf y ++ z)) = some (lineOf y ++ z) := by
  refine dropLongest_of_longest (firstFrame_mem hx hne) fun u v h hu => ?_
  rcases header_prefix hx hu h with ⟨rfl, -⟩ | ⟨l, hl, rfl, hline⟩
  · exact le_refl _
  · obtain ⟨rfl, rfl⟩ := eq_lineOf_of_initAllLine hl hy hz hline
    cases hother hl

/-! ### What is left of the text -/

section Text

variable {sourceMaps : String → Option (ℕ → ℕ → OriginalPosition)}

/-- Does the expression of the header take the line for that of `initAll`? -/
def isInitAllLine (line : String) : Bool := initAllLine.accepts line.toList

lemma frameText_ne (callsite : CallSite) : frameText sourceMaps callsite ≠ "" := by
  unfold frameText
  split
  · dsimp only
    split
    · simp only [ne_eq, String.append_eq_empty_iff]
      exact fun h => absurd h.2 (by decide)
    · simp only [ne_eq, String.append_eq_empty_iff]
      exact fun h => absurd h.1.2 (by decide)
  · exact callsite.text_ne

lemma toList_frameLine (callsite : CallSite) :
    (frameLine sourceMaps callsite).toList = lineOf (frameText sourceMaps callsite).toList := by
  rw [frameLine, String.toList_append]
  rfl

lemma frameLine_ne (callsite : CallSite) : frameLine sourceMaps callsite ≠ "" := by
  rw [frameLine, ne_eq, String.append_eq_empty_iff]
  exact fun h => absurd h.1 (by decide)

/-- Each call site is one line of the text. -/
def OneLineEach (sourceMaps : String → Option (ℕ → ℕ → OriginalPosition)) (callsites : List CallSite) :
    Prop :=
  ∀ callsite ∈ callsites, IsLine (frameLine sourceMaps callsite).toList

instance (callsites : List CallSite) : Decidable (OneLineEach sourceMaps callsites) :=
  inferInstanceAs (Decidable (∀ callsite ∈ callsites, IsLine (frameLine sourceMaps callsite).toList))

lemma OneLineEach.lines {callsites : List CallSite} (h : OneLineEach sourceMaps callsites) :
    ∀ line ∈ callsites.map (frameLine sourceMaps), IsLine line.toList := by
  intro line hline
  obtain ⟨callsite, hcallsite, rfl⟩ := List.mem_map.mp hline
  exact h callsite hcallsite

lemma notMem_frameLines (callsites : List CallSite) : "" ∉ callsites.map (frameLine sourceMaps) := by
  rintro h
  obtain ⟨callsite, -, hline⟩ := List.mem_map.mp h
  exact frameLine_ne callsite hline

lemma notMem_frameText {callsite : CallSite} (h : IsLine (frameLine sourceMaps callsite).toList) :
    '\n' ∉ (frameText sourceMaps callsite).toList := by
  intro hmem
  rw [toList_frameLine] at h
  exact h.1 (List.mem_append_right _ (by simp [hmem]))

lemma toList_joinLines (callsite : CallSite) (rest : List CallSite) :
    (joinLines sourceMaps (callsite :: rest)).toList = lineOf (frameText sourceMaps callsite).toList ++
      if rest = [] then [] else '\n' :: (joinLines sourceMaps rest).toList := by
  cases rest with
  | nil => simp [joinLines, toList_frameLine]
  | cons next rest =>
    simp only [joinLines, String.toList_intercalate, List.map_cons, List.intercalate_cons_cons,
      toList_frameLine, List.append_assoc, List.cons_ne_nil, if_false]
    rfl

/-- Is the second frame removed with the header? -/
def initAllLeavesText (sourceMaps : String → Option (ℕ → ℕ → OriginalPosition)) (second : CallSite)
    (rest : List CallSite) : Bool :=
  isInitAllLine (frameLine sourceMaps second) && !rest.isEmpty

/-- The frames whose lines are left where there are two and more -/
def textFrames (sourceMaps : String → Option (ℕ → ℕ → OriginalPosition)) (second : CallSite)
    (rest : List CallSite) : List CallSite :=
  if initAllLeavesText sourceMaps second rest then rest else second :: rest

lemma withoutHeader_stack {first second : CallSite} {rest : List CallSite}
    (hlines : OneLineEach sourceMaps (first :: second :: rest)) :
    withoutHeader (stack sourceMaps (first :: second :: rest)) =
      joinLines sourceMaps (textFrames sourceMaps second rest) := by
  have hfirst := notMem_frameText (hlines first (by simp))
  have hsecond := notMem_frameText (hlines second (by simp))
  have hne : (frameText sourceMaps first).toList ≠ [] := fun h =>
    frameText_ne first (String.toList_inj.mp (h.trans String.toList_empty.symm))
  have hstack : (stack sourceMaps (first :: second :: rest)).toList =
      firstFrame (frameText sourceMaps first).toList ++ (joinLines sourceMaps (second :: rest)).toList := by
    rw [stack, String.toList_append, toList_joinLines, if_neg (List.cons_ne_nil _ _), firstFrame,
      List.append_assoc, List.append_assoc, List.singleton_append]
    rfl
  have hdrop : header.dropLongest (stack sourceMaps (first :: second :: rest)).toList =
      some (joinLines sourceMaps (textFrames sourceMaps second rest)).toList := by
    rw [hstack, toList_joinLines second rest]
    cases rest with
    | nil =>
      have htext : textFrames sourceMaps second [] = [second] := by
        simp [textFrames, initAllLeavesText]
      rw [htext, toList_joinLines, if_pos rfl]
      exact dropLongest_first hfirst hne hsecond (.inl rfl) fun _ => rfl
    | cons third rest =>
      rw [if_neg (List.cons_ne_nil _ _)]
      cases hinitAll : isInitAllLine (frameLine sourceMaps second) with
      | true =>
        have htext : textFrames sourceMaps second (third :: rest) = third :: rest := by
          simp [textFrames, initAllLeavesText, hinitAll]
        rw [isInitAllLine, accepts_iff, toList_frameLine] at hinitAll
        rw [htext]
        exact dropLongest_initAll hfirst hne hsecond hinitAll
      | false =>
        have htext : textFrames sourceMaps second (third :: rest) = second :: third :: rest := by
          simp [textFrames, initAllLeavesText, hinitAll]
        have hother : lineOf (frameText sourceMaps second).toList ∉ initAllLine.lang := by
          rw [← toList_frameLine, ← accepts_iff]
          exact ne_true_of_eq_false hinitAll
        rw [htext, toList_joinLines second, if_neg (List.cons_ne_nil _ _)]
        exact dropLongest_first hfirst hne hsecond (.inr ⟨_, rfl⟩) fun h => absurd h hother
  rw [withoutHeader, hdrop]
  exact String.ofList_toList

end Text

/-! ### Two ways of cutting a list -/

section Cut

variable {α : Type} {p q : α → Bool}

/-- The first element of which one of the two holds is one of which both hold. -/
def FirstAgrees (p q : α → Bool) : List α → Prop
  | [] => True
  | a :: l => if p a || q a then p a = true ∧ q a = true else FirstAgrees p q l

instance FirstAgrees.decidable (p q : α → Bool) : (l : List α) → Decidable (FirstAgrees p q l)
  | [] => isTrue trivial
  | a :: l =>
    have := FirstAgrees.decidable p q l
    inferInstanceAs (Decidable (if p a || q a then p a = true ∧ q a = true else FirstAgrees p q l))

lemma takeWhile_eq_iff {l : List α} :
    l.takeWhile (!p ·) = l.takeWhile (!q ·) ↔ FirstAgrees p q l := by
  induction l with
  | nil => simp [FirstAgrees]
  | cons a l ih =>
    cases hp : p a with
    | false =>
      cases hq : q a with
      | false => simp [FirstAgrees, hp, hq, ih]
      | true => simp [FirstAgrees, hp, hq]
    | true =>
      cases hq : q a with
      | false => simp [FirstAgrees, hp, hq]
      | true => simp [FirstAgrees, hp, hq]

lemma takeWhile_congr {l : List α} (h : ∀ a ∈ l, p a = q a) : l.takeWhile p = l.takeWhile q := by
  induction l with
  | nil => rfl
  | cons a l ih =>
    have ha := h a List.mem_cons_self
    have hl := ih fun b hb => h b (List.mem_cons_of_mem a hb)
    cases hp : p a with
    | false => simp [hp, ← ha]
    | true => simp [hp, ← ha, hl]

/-- A list that starts one element earlier is another one. -/
lemma cons_takeWhile_ne {a : α} {l : List α} (ha : p a = false) :
    a :: l.takeWhile (!p ·) ≠ l.takeWhile (!q ·) := by
  induction l generalizing a with
  | nil => exact List.cons_ne_nil _ _
  | cons b l ih =>
    intro h
    cases hq : q b with
    | true => simp [hq] at h
    | false =>
      rw [List.takeWhile_cons_of_pos (p := (!q ·)) (by simp [hq])] at h
      obtain ⟨rfl, h⟩ := List.cons.inj h
      rw [List.takeWhile_cons_of_pos (by simp [ha])] at h
      exact ih ha h

/-- Of two lists, of which one starts one element later, both are empty or they differ. -/
lemma cons_takeWhile_eq_iff {a : α} {l : List α} :
    (a :: l).takeWhile (!p ·) = l.takeWhile (!q ·) ↔ (p a && l.head?.all q) = true := by
  cases hp : p a with
  | false =>
    rw [List.takeWhile_cons_of_pos (by simp [hp])]
    simp [cons_takeWhile_ne hp]
  | true =>
    rw [List.takeWhile_cons_of_neg (by simp [hp])]
    cases l with
    | nil => simp
    | cons b l => cases hq : q b <;> simp [hq]

lemma take_findIdx? (p : α → Bool) (l : List α) :
    (match l.findIdx? p with
      | some idx => some (l.take idx)
      | none => some l) = some (l.takeWhile (!p ·)) := by
  induction l with
  | nil => rfl
  | cons a l ih =>
    cases hp : p a with
    | true => simp [List.findIdx?_cons, hp]
    | false =>
      cases hidx : l.findIdx? p with
      | none =>
        rw [hidx] at ih
        simpa [List.findIdx?_cons, hp, hidx] using ih
      | some idx =>
        rw [hidx] at ih
        simpa [List.findIdx?_cons, hp, hidx] using ih

end Cut

/-! ### The two traces -/

section Traces

variable (sourceMaps : String → Option (ℕ → ℕ → OriginalPosition))

/-- The pattern for the execution of an activity -/
def isActivityLine (line : String) : Bool := (cutoffStackPatterns.take 1).any (·.test line.toList)

/-- The patterns for the activation of a workflow and for `Script.runInContext` -/
def isFrameworkLine (line : String) : Bool := (cutoffStackPatterns.drop 1).any (·.test line.toList)

/-- Of the call sites whose lines are `left` when the header has been removed, the text keeps the lines of
`kept`, and the structured trace keeps exactly their locations. -/
def CutAlike (callsites : List CallSite) : Prop :=
  ∃ left kept, left <:+ callsites ∧ kept <+: left ∧
    withoutHeader (stack sourceMaps callsites) = joinLines sourceMaps left ∧
    cutoffStackTrace (some (withoutHeader (stack sourceMaps callsites))) = joinLines sourceMaps kept ∧
    cutoffStructuredStackTrace (fileLocation sourceMaps) callsites = some kept

def initAllLeavesLocations (second : CallSite) : Bool := isInitAll (fileLocation sourceMaps second)

def lineIsCut (callsite : CallSite) : Bool := isFrameworkLine (frameLine sourceMaps callsite)

def locationIsCut (callsite : CallSite) : Bool := isCutoffLocation (fileLocation sourceMaps callsite)

/-- The tests that the two sides make agree on the frames that decide. Where only one side takes the second
frame for that of `initAll`, both are left with nothing. -/
def RecognisedAlike : List CallSite → Prop
  | _ :: second :: rest =>
    if initAllLeavesText sourceMaps second rest = initAllLeavesLocations sourceMaps second then
      FirstAgrees (lineIsCut sourceMaps) (locationIsCut sourceMaps)
        (if initAllLeavesLocations sourceMaps second then rest else second :: rest)
    else if initAllLeavesLocations sourceMaps second then
      lineIsCut sourceMaps second && rest.head?.all (locationIsCut sourceMaps)
    else locationIsCut sourceMaps second && rest.head?.all (lineIsCut sourceMaps)
  | _ => False

instance RecognisedAlike.decidable :
    (callsites : List CallSite) → Decidable (RecognisedAlike sourceMaps callsites)
  | [] => isFalse id
  | [_] => isFalse id
  | _ :: second :: rest =>
    inferInstanceAs (Decidable
      (if initAllLeavesText sourceMaps second rest = initAllLeavesLocations sourceMaps second then
        FirstAgrees (lineIsCut sourceMaps) (locationIsCut sourceMaps)
          (if initAllLeavesLocations sourceMaps second then rest else second :: rest)
      else if initAllLeavesLocations sourceMaps second then
        lineIsCut sourceMaps second && rest.head?.all (locationIsCut sourceMaps)
      else locationIsCut sourceMaps second && rest.head?.all (lineIsCut sourceMaps)))

variable {sourceMaps}

lemma isCutoffLine_eq {line : String} (h : isActivityLine line = false) :
    isCutoffLine line = isFrameworkLine line := by
  have hsplit : isCutoffLine line = (isActivityLine line || isFrameworkLine line) := by
    rw [isCutoffLine, isActivityLine, isFrameworkLine, ← List.any_append, List.take_append_drop]
  rw [hsplit, h, Bool.false_or]

/-- The frames whose locations are left where there are two and more -/
def locationFrames (sourceMaps : String → Option (ℕ → ℕ → OriginalPosition)) (second : CallSite)
    (rest : List CallSite) : List CallSite :=
  if initAllLeavesLocations sourceMaps second then rest else second :: rest

lemma cutoffStructuredStackTrace_eq (first second : CallSite) (rest : List CallSite) :
    cutoffStructuredStackTrace (fileLocation sourceMaps) (first :: second :: rest) =
      some ((locationFrames sourceMaps second rest).takeWhile
        fun callsite => !locationIsCut sourceMaps callsite) :=
  take_findIdx? _ (locationFrames sourceMaps second rest)

lemma OneLineEach.mono {callsites left : List CallSite} (h : OneLineEach sourceMaps callsites)
    (hsubset : left ⊆ callsites) : OneLineEach sourceMaps left :=
  fun callsite hcallsite => h callsite (hsubset hcallsite)

lemma length_eq_of_joinLines {left left' : List CallSite} (h : OneLineEach sourceMaps left)
    (h' : OneLineEach sourceMaps left') (heq : joinLines sourceMaps left = joinLines sourceMaps left') :
    left.length = left'.length := by
  have hmap := intercalate_inj h.lines h'.lines (notMem_frameLines _) (notMem_frameLines _) heq
  simpa using congrArg List.length hmap

lemma textFrames_suffix (first second : CallSite) (rest : List CallSite) :
    textFrames sourceMaps second rest <:+ first :: second :: rest := by
  unfold textFrames
  split
  · exact (List.suffix_cons _ _).trans (List.suffix_cons _ _)
  · exact List.suffix_cons _ _

lemma textFrames_ne (second : CallSite) (rest : List CallSite) : textFrames sourceMaps second rest ≠ [] := by
  unfold textFrames
  split
  · rename_i h
    obtain ⟨-, hrest⟩ := Bool.and_eq_true_iff.mp h
    simpa using hrest
  · exact List.cons_ne_nil _ _

/-- The lines that the text keeps -/
lemma cutoffStackTrace_joinLines {left : List CallSite} (h : OneLineEach sourceMaps left)
    (hne : left ≠ [])
    (hactivity : ∀ callsite ∈ left, isActivityLine (frameLine sourceMaps callsite) = false) :
    cutoffStackTrace (some (joinLines sourceMaps left)) = joinLines sourceMaps
      (left.takeWhile fun callsite => !lineIsCut sourceMaps callsite) := by
  have hkept : (left.map (frameLine sourceMaps)).takeWhile (fun line => !isCutoffLine line) =
      (left.takeWhile fun callsite => !lineIsCut sourceMaps callsite).map
        (frameLine sourceMaps) := by
    rw [List.takeWhile_map]
    exact congrArg _ (takeWhile_congr fun callsite h => congrArg not (isCutoffLine_eq (hactivity callsite h)))
  rw [joinLines, cutoffStackTrace_intercalate h.lines (by simpa using hne), hkept, joinLines]

/-- Both sides cut, and what they leave is the same. -/
lemma cutAlike_iff_takeWhile {first second : CallSite} {rest : List CallSite}
    (hlines : OneLineEach sourceMaps (first :: second :: rest))
    (hactivity : ∀ callsite ∈ first :: second :: rest,
      isActivityLine (frameLine sourceMaps callsite) = false) :
    CutAlike sourceMaps (first :: second :: rest) ↔
      (textFrames sourceMaps second rest).takeWhile
          (fun callsite => !lineIsCut sourceMaps callsite) =
        (locationFrames sourceMaps second rest).takeWhile
          fun callsite => !locationIsCut sourceMaps callsite := by
  have hsuffix : textFrames sourceMaps second rest <:+ first :: second :: rest := textFrames_suffix _ _ _
  have htext := hlines.mono hsuffix.subset
  have hcut := cutoffStackTrace_joinLines htext (textFrames_ne second rest)
    fun callsite h => hactivity callsite (hsuffix.subset h)
  have hprefix := List.takeWhile_prefix (l := textFrames sourceMaps second rest)
    fun callsite => !lineIsCut sourceMaps callsite
  rw [CutAlike, withoutHeader_stack hlines, hcut, cutoffStructuredStackTrace_eq]
  constructor
  · rintro ⟨left, kept, hleft, hkept, hleftLines, hkeptLines, hlocations⟩
    have hleftLength := length_eq_of_joinLines htext (hlines.mono hleft.subset) hleftLines
    obtain rfl : left = textFrames sourceMaps second rest :=
      (List.suffix_of_suffix_length_le hleft hsuffix hleftLength.ge).eq_of_length hleftLength.symm
    have hkeptLength := length_eq_of_joinLines (htext.mono hprefix.subset) (htext.mono hkept.subset) hkeptLines
    have hkeptEq := (List.prefix_of_prefix_length_le hkept hprefix hkeptLength.ge).eq_of_length
      hkeptLength.symm
    exact hkeptEq.symm.trans (Option.some_inj.mp hlocations).symm
  · exact fun h => ⟨_, _, hsuffix, hprefix, rfl, rfl, congrArg some h.symm⟩

/-- Without a second frame, the hook throws. -/
lemma not_cutAlike_of_length {callsites : List CallSite} (h : callsites.length < 2) :
    ¬CutAlike sourceMaps callsites := by
  rintro ⟨left, kept, -, -, -, -, hlocations⟩
  have htail : callsites.tail = [] := List.eq_nil_of_length_eq_zero (by rw [List.length_tail]; omega)
  rw [cutoffStructuredStackTrace, htail] at hlocations
  cases hlocations

lemma not_recognisedAlike_of_length {callsites : List CallSite} (h : callsites.length < 2) :
    ¬RecognisedAlike sourceMaps callsites := by
  match callsites with
  | [] => exact id
  | [_] => exact id
  | _ :: _ :: _ => exact absurd h (by simp)

lemma cutAlike_of_length {callsites : List CallSite} (h : 2 ≤ callsites.length)
    (hlines : OneLineEach sourceMaps callsites)
    (hactivity : ∀ callsite ∈ callsites, isActivityLine (frameLine sourceMaps callsite) = false) :
    CutAlike sourceMaps callsites ↔ RecognisedAlike sourceMaps callsites := by
  match callsites with
  | [] => exact absurd h (by simp)
  | [_] => exact absurd h (by simp)
  | first :: second :: rest =>
    rw [cutAlike_iff_takeWhile hlines hactivity, textFrames, locationFrames, RecognisedAlike]
    cases initAllLeavesText sourceMaps second rest with
    | true =>
      cases initAllLeavesLocations sourceMaps second with
      | true => exact takeWhile_eq_iff
      | false => exact eq_comm.trans cons_takeWhile_eq_iff
    | false =>
      cases initAllLeavesLocations sourceMaps second with
      | true => exact cons_takeWhile_eq_iff
      | false => exact takeWhile_eq_iff

/-- The text and the locations are cut alike where the tests agree on the frames that decide. -/
theorem cutAlike_iff (sourceMaps : String → Option (ℕ → ℕ → OriginalPosition)) (callsites : List CallSite)
    (hlines : OneLineEach sourceMaps callsites)
    (hactivity : ∀ callsite ∈ callsites, isActivityLine (frameLine sourceMaps callsite) = false) :
    CutAlike sourceMaps callsites ↔ RecognisedAlike sourceMaps callsites := by
  by_cases h : callsites.length < 2
  · exact iff_of_false (not_cutAlike_of_length h) (not_recognisedAlike_of_length h)
  · exact cutAlike_of_length (Nat.le_of_not_lt h) hlines hactivity

/-- The call of a plain function, as the engine writes it -/
def plainCall (functionName fileName : String) (line column : ℕ) : CallSite where
  typeName := none
  methodName := none
  functionName := some functionName
  isConstructor := false
  fileName := some fileName
  lineNumber := some line
  columnNumber := some column
  text := functionName ++ " (" ++ fileName ++ ":" ++ toString line ++ ":" ++ toString column ++ ")"
  text_ne := by
    rw [ne_eq, String.append_eq_empty_iff]
    exact fun h => absurd h.2 (by decide)

/-- Without source maps, lines are what the engine writes. -/
def noSourceMaps (_ : String) : Option (ℕ → ℕ → OriginalPosition) := none

/-- The stack of a promise: the hook, `initAll`, the call of a workflow and the one that has run it -/
def workflowStack : List CallSite :=
  [plainCall "init" "vm-shared.js" 150 27, plainCall "initAll" "node:internal/promise_hooks" 42 7,
    plainCall "main" "/workflows.js" 3 9, plainCall "Script.runInContext" "node:vm" 141 18]

theorem cutAlike_workflowStack : CutAlike noSourceMaps workflowStack :=
  (cutAlike_iff noSourceMaps workflowStack (by decide +kernel) (by decide +kernel)).mpr
    (by decide +kernel)

/-- A stack that is limited to one frame: the hook throws. -/
def limitedStack : List CallSite := [plainCall "init" "vm-shared.js" 150 27]

/-- Code of a workflow in a file `vm.js`: only the locations are cut. -/
def userVmStack : List CallSite :=
  [plainCall "init" "vm-shared.js" 150 27, plainCall "Script.runInContext" "/vm.js" 3 9]

/-- The stack is given as lines, none of which is that of an activity. -/
def InScope (sourceMaps : String → Option (ℕ → ℕ → OriginalPosition)) (callsites : List CallSite) : Prop :=
  OneLineEach sourceMaps callsites ∧
    ∀ callsite ∈ callsites, isActivityLine (frameLine sourceMaps callsite) = false

instance (callsites : List CallSite) : Decidable (InScope sourceMaps callsites) :=
  inferInstanceAs (Decidable (_ ∧ _))

theorem not_cutAlike_limitedStack_userVmStack :
    (InScope noSourceMaps limitedStack ∧ ¬CutAlike noSourceMaps limitedStack) ∧
      InScope noSourceMaps userVmStack ∧ ¬CutAlike noSourceMaps userVmStack := by
  have huser : InScope noSourceMaps userVmStack := by decide +kernel
  have hrecognised : ¬RecognisedAlike noSourceMaps userVmStack := by decide +kernel
  refine ⟨⟨by decide +kernel, not_cutAlike_of_length (by decide)⟩, huser, ?_⟩
  rw [cutAlike_of_length (by decide) huser.1 huser.2]
  exact hrecognised

end Traces

end PromiseHook

end TemporalSdk
