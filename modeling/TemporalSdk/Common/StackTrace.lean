import TemporalSdk.Library.Regex

/-!
# Stack traces

`cutoffStackTrace`, with the patterns of `CUTOFF_STACK_PATTERNS` as regular expressions that are
matched by derivatives.
-/

namespace TemporalSdk

/-- `\s` -/
def isSpace (c : Char) : Bool :=
  let n := c.toNat
  (9 ≤ n && n ≤ 13) || n == 0x20 || n == 0xa0 || n == 0x1680 || (0x2000 ≤ n && n ≤ 0x200a) ||
    n == 0x2028 || n == 0x2029 || n == 0x202f || n == 0x205f || n == 0x3000 || n == 0xfeff

/-- `.` -/
def isNoLineTerminator (c : Char) : Bool :=
  let n := c.toNat
  !(n == 10 || n == 13 || n == 0x2028 || n == 0x2029)

def isSlash (c : Char) : Bool := c == '/' || c == '\\'

section Patterns

open Regex

def spaces : Regex := plus (char isSpace)

def anything : Regex := star (char isNoLineTerminator)

def digits : Regex := plus (char Char.isDigit)

def jsOrTs : Regex := seq (char fun c => c == 'j' || c == 't') (literal "s")

/-- A path that ends in `package/src/file` or `package/lib/file`, with a line and a column -/
def packageFile (package file : String) : Regex :=
  concat [anything, char isSlash, literal package, char isSlash, alt (literal "src") (literal "lib"),
    char isSlash, literal file, literal ".", jsOrTs, literal ":", digits, literal ":", digits,
    literal ")"]

/-- `CUTOFF_STACK_PATTERNS`: the execution of an activity, the activation of a workflow, and code
that is run in a context -/
def cutoffStackPatterns : List Regex :=
  [concat [spaces, literal "at Activity.execute (", packageFile "worker" "activity"],
    concat [spaces, literal "at Activator.", plus (char (!isSpace ·)), literal "NextHandler (",
      packageFile "workflow" "internals"],
    concat [spaces, literal "at Script.runInContext (", alt (literal "node:vm") (literal "vm.js"),
      literal ":", digits, literal ":", digits, literal ")"]]

end Patterns

/-- `split(/\r?\n/)`; `line` is what has been read of the current line. -/
def splitLines (line : List Char) : List Char → List (List Char)
  | [] => [line]
  | '\r' :: '\n' :: rest => line :: splitLines [] rest
  | '\n' :: rest => line :: splitLines [] rest
  | c :: rest => splitLines (line ++ [c]) rest

/-- Cuts out the framework part of a stack trace, leaving only user code entries. -/
def cutoffStackTrace (stack : Option String) : String :=
  let lines := splitLines [] (stack.getD "").toList
  let acc := lines.takeWhile fun line => !cutoffStackPatterns.any (·.test line)
  "\n".intercalate (acc.map String.ofList)

/-! ### Texts that are joined lines -/

/-- A text without a line break, which does not end with the first half of one -/
def IsLine (line : List Char) : Prop := '\n' ∉ line ∧ line.getLast? ≠ some '\r'

instance (line : List Char) : Decidable (IsLine line) := inferInstanceAs (Decidable (_ ∧ _))

lemma IsLine.tail {c : Char} {line : List Char} (h : IsLine (c :: line)) : IsLine line := by
  refine ⟨fun hmem => h.1 (List.mem_cons_of_mem c hmem), fun hlast => h.2 ?_⟩
  rw [List.getLast?_cons, hlast]
  rfl

lemma splitLines_of_notMem {read line : List Char} (h : '\n' ∉ line) :
    splitLines read line = [read ++ line] := by
  induction line generalizing read with
  | nil => simp [splitLines]
  | cons c line ih =>
    have hc : c ≠ '\n' := fun hc => h (hc ▸ List.mem_cons_self)
    have hline : '\n' ∉ line := fun hmem => h (List.mem_cons_of_mem c hmem)
    rw [splitLines, ih hline, List.append_assoc, List.singleton_append]
    · rintro rest rfl rfl
      exact hline List.mem_cons_self
    · exact hc

lemma splitLines_append {read line : List Char} (h : IsLine line) (rest : List Char) :
    splitLines read (line ++ '\n' :: rest) = (read ++ line) :: splitLines [] rest := by
  induction line generalizing read with
  | nil => simp [splitLines]
  | cons c line ih =>
    have hc : c ≠ '\n' := fun hc => h.1 (hc ▸ List.mem_cons_self)
    rw [List.cons_append, splitLines, ih h.tail, List.append_assoc, List.singleton_append]
    · rintro rest' rfl hrest
      cases line with
      | nil => exact h.2 rfl
      | cons c' line =>
        obtain ⟨rfl, -⟩ := List.cons.inj hrest
        exact h.1 (List.mem_cons_of_mem _ List.mem_cons_self)
    · exact hc

lemma splitLines_intercalate {lines : List (List Char)} (hlines : ∀ line ∈ lines, IsLine line)
    (hne : lines ≠ []) : splitLines [] (['\n'].intercalate lines) = lines := by
  induction lines with
  | nil => exact absurd rfl hne
  | cons line lines ih =>
    have hline := hlines line List.mem_cons_self
    cases lines with
    | nil => rw [List.intercalate_singleton, splitLines_of_notMem hline.1, List.nil_append]
    | cons next lines =>
      rw [List.intercalate_cons_cons, List.append_assoc, List.singleton_append, splitLines_append hline,
        ih (fun l hl => hlines l (List.mem_cons_of_mem _ hl)) (List.cons_ne_nil _ _), List.nil_append]

/-- Does one of the patterns match the line? -/
def isCutoffLine (line : String) : Bool := cutoffStackPatterns.any (·.test line.toList)

lemma splitLines_joined {lines : List String} (hlines : ∀ line ∈ lines, IsLine line.toList)
    (hne : lines ≠ []) : splitLines [] ("\n".intercalate lines).toList = lines.map String.toList := by
  rw [String.toList_intercalate]
  refine splitLines_intercalate ?_ (by simpa using hne)
  simpa using hlines

/-- The lines before the first one that a pattern matches -/
lemma cutoffStackTrace_intercalate {lines : List String} (hlines : ∀ line ∈ lines, IsLine line.toList)
    (hne : lines ≠ []) : cutoffStackTrace (some ("\n".intercalate lines)) =
      "\n".intercalate (lines.takeWhile fun line => !isCutoffLine line) := by
  rw [cutoffStackTrace, Option.getD_some, splitLines_joined hlines hne, List.takeWhile_map, List.map_map]
  simp [Function.comp_def, isCutoffLine]

lemma intercalate_ne_empty {lines : List String} (hlines : ∀ line ∈ lines, IsLine line.toList)
    (hne : lines ≠ []) (hempty : "" ∉ lines) : "\n".intercalate lines ≠ "" := by
  intro h
  have hsplit := splitLines_joined hlines hne
  rw [h] at hsplit
  obtain ⟨line, rest, rfl⟩ := List.exists_cons_of_ne_nil hne
  have hline : "".toList = line.toList := (List.cons.inj hsplit).1
  rw [String.toList_inj] at hline
  exact hempty (hline ▸ List.mem_cons_self)

/-- Lines can be read back from the text that they are joined to. -/
lemma intercalate_inj {lines lines' : List String} (hlines : ∀ line ∈ lines, IsLine line.toList)
    (hlines' : ∀ line ∈ lines', IsLine line.toList) (hempty : "" ∉ lines) (hempty' : "" ∉ lines')
    (h : "\n".intercalate lines = "\n".intercalate lines') : lines = lines' := by
  by_cases hne : lines = []
  · subst hne
    by_contra hne'
    exact intercalate_ne_empty hlines' (Ne.symm hne') hempty' h.symm
  · by_cases hne' : lines' = []
    · subst hne'
      exact absurd h (intercalate_ne_empty hlines hne hempty)
    · have hsplit := splitLines_joined hlines hne
      rw [h, splitLines_joined hlines' hne'] at hsplit
      exact List.map_injective_iff.mpr (fun _ _ => String.toList_inj.mp) hsplit.symm

end TemporalSdk
